import MediaCatalogue.Proofs.Media.Comparison
import MediaCatalogue.Proofs.Pattern.Word
import MediaCatalogue.Proofs.Query.Spelling

/-! The case of the letters in a query. Operators, connectives and the names of fields may be written in any
case: two queries that differ in nothing else come to the same on every record of media, or have the same
fault in the same place. As the right side of a pattern the name of a field has to be a pattern too, which
each spelling of it is. -/

namespace MediaCatalogue

/-! Names -/

theorem isBlank_letter {c : Char} (h : c.isAlpha = true) : isBlank c = false := by
  simp only [Char.isAlpha, Char.isUpper, Char.isLower, Bool.or_eq_true, Bool.and_eq_true,
    decide_eq_true_eq, UInt32.le_iff_toNat_le] at h
  simp only [isBlank, Bool.or_eq_false_iff, Bool.and_eq_false_iff, beq_eq_false_iff_ne, ne_eq,
    decide_eq_false_iff_not, UInt32.le_iff_toNat_le, ← UInt32.toNat_inj]
  simp only [UInt32.reduceToNat, Char.reduceVal] at h ⊢
  omega

namespace Field

variable {f : Field} {name : String}

theorem isWord_of_sameName (h : sameName f.name name = true) : Pattern.IsWord name.toList := by
  have hlower : (foldCase f.name).all Char.isLower = true := by cases f <;> cbv
  intro c hc
  rw [← Char.isLower_toLower_eq_isAlpha]
  refine List.all_eq_true.mp hlower _ ?_
  rw [sameName_iff.mp h]
  exact List.mem_map_of_mem hc

theorem length_of_sameName (h : sameName f.name name = true) : name.toList.length ≤ 11 := by
  have hshort : (foldCase f.name).length ≤ 11 := by cases f <;> decide
  rw [sameName_iff.mp h, foldCase, List.length_map] at hshort
  exact hshort

/-- The name of a field is a pattern, in any case. -/
theorem compile_name (h : sameName f.name name = true) (anchored : Bool) :
    ∃ node, Pattern.compile (trimText name) anchored = .ok node := by
  have hword := isWord_of_sameName h
  have htrim : trimText name = name := by
    have hself := Query.trim_eq_of_blank (List.forall_mem_nil _) (List.forall_mem_nil _)
      fun c hc => isBlank_letter (hword c hc)
    rw [List.nil_append, List.append_nil] at hself
    rw [trimText, hself, String.ofList_toList]
  rw [htrim]
  refine Pattern.compile_word hword ?_ anchored
  exact (Nat.mul_le_mul_left _ (Nat.add_le_add_right (length_of_sameName h) 3)).trans (by decide)

end Field

namespace Query

/-! Tokens -/

/-- The tokens may stand for each other at a position. Operators and connectives stand at odd positions. -/
inductive SameToken (i : ℕ) : String → String → Prop where
  | same (token : String) : SameToken i token token
  | keyword {a b : String} (odd : i % 2 = 1) (h : sameName a b = true) : SameToken i a b
  | field {a b : String} (f : Field) (ha : sameName f.name a = true) (hb : sameName f.name b = true) :
      SameToken i a b

/-- The tokens of two queries from the position `i` on are the same, but for the case of letters in operators,
connectives and the names of fields. -/
inductive SameButCase : ℕ → List String → List String → Prop where
  | nil {i : ℕ} : SameButCase i [] []
  | cons {i : ℕ} {a b : String} {as bs : List String} (head : SameToken i a b)
      (tail : SameButCase (i + 1) as bs) : SameButCase i (a :: as) (b :: bs)

/-- The operands are the same, or they name the same field. -/
def SameOperand (a b : String) : Prop :=
  a = b ∨ ∃ f : Field, sameName f.name a = true ∧ sameName f.name b = true

section
variable {i n : ℕ} {a b : String} {tokens others : List String}

theorem SameToken.symm (h : SameToken i a b) : SameToken i b a := by
  cases h with
  | same => exact .same a
  | keyword odd h => exact .keyword odd (sameName_comm a b ▸ h)
  | field f ha hb => exact .field f hb ha

theorem SameToken.sameName (h : SameToken i a b) : sameName a b = true := by
  cases h with
  | same => exact sameName_refl a
  | keyword _ h => exact h
  | field f ha hb => exact sameName_of_sameName ha hb

theorem SameToken.operand (h : SameToken i a b) (even : i % 2 = 0) : SameOperand a b := by
  cases h with
  | same => exact .inl rfl
  | keyword odd => omega
  | field f ha hb => exact .inr ⟨f, ha, hb⟩

theorem SameButCase.symm (h : SameButCase n tokens others) : SameButCase n others tokens := by
  induction h with
  | nil => exact .nil
  | cons head _ ih => exact .cons head.symm ih

theorem SameButCase.length (h : SameButCase n tokens others) : tokens.length = others.length := by
  induction h with
  | nil => rfl
  | cons _ _ ih => rw [List.length_cons, List.length_cons, ih]

theorem SameButCase.getElem? (h : SameButCase n tokens others) {j : ℕ} (hj : tokens[j]? = some a) :
    ∃ b, others[j]? = some b ∧ SameToken (n + j) a b := by
  induction h generalizing j with
  | nil => cases hj
  | @cons n _ b _ _ head _ ih =>
    cases j with
    | zero =>
      obtain rfl := Option.some.inj hj
      exact ⟨b, rfl, head⟩
    | succ j =>
      obtain ⟨b, hb, htoken⟩ := ih hj
      exact ⟨b, hb, by rwa [Nat.add_comm j, ← Nat.add_assoc]⟩

/-! Operators and connectives -/

theorem toLower_eq_sign {c : Char} : c.toLower = '!' ↔ c = '!' := by
  constructor
  · intro h
    have hletter : c.isAlpha = false := by
      rw [← Char.isAlpha_toLower_eq_isAlpha, h]
      rfl
    rwa [Char.toLower_eq_of_not_isUpper fun hupper => by simp [Char.isAlpha, hupper] at hletter] at h
  · rintro rfl
    rfl

theorem carriesSign_eq (token : String) : carriesSign token = ((foldCase token).head? == some '!') := by
  rw [carriesSign, foldCase, List.head?_map]
  cases token.toList.head? with
  | none => rfl
  | some c =>
    rw [Option.map_some, Bool.eq_iff_iff, beq_iff_eq, beq_iff_eq, Option.some.injEq, Option.some.injEq,
      toLower_eq_sign]

theorem foldCase_unsignedToken (token : String) : foldCase (unsignedToken token) =
    if carriesSign token then (foldCase token).tail else foldCase token := by
  unfold unsignedToken
  split_ifs
  · rw [foldCase, String.toList_ofList, List.map_tail, foldCase]
  · rfl

theorem carriesSign_congr (h : sameName a b = true) : carriesSign a = carriesSign b := by
  rw [carriesSign_eq, carriesSign_eq, sameName_iff.mp h]

theorem sameName_unsignedToken (h : sameName a b = true) :
    sameName (unsignedToken a) (unsignedToken b) = true := by
  rw [sameName_iff, foldCase_unsignedToken, foldCase_unsignedToken, carriesSign_congr h, sameName_iff.mp h]

theorem names_congr (h : sameName a b = true) {o : Operator} : Names a o ↔ Names b o := by
  rw [Names, Names, sameName_congr_right (sameName_unsignedToken h)]

theorem isConnective_congr (h : sameName a b = true) : IsConnective a ↔ IsConnective b := by
  rw [← connectiveOfToken?_isSome, ← connectiveOfToken?_isSome, connectiveOfToken?_congr h]

/-! Operands -/

theorem resolve_name {f : Field} {name : String} (h : sameName f.name name = true) (m : Media) :
    resolve m.record name = m.field? f := by
  simp only [resolve, Media.record, ← Field.ofName?_congr h, Field.ofName?_name]
  cases m.field? f <;> rfl

theorem resolve_congr (h : SameOperand a b) (m : Media) : resolve m.record a = resolve m.record b := by
  rcases h with rfl | ⟨f, ha, hb⟩
  · rfl
  · rw [resolve_name ha, resolve_name hb]

/-- An operand that is no pattern names no field. -/
theorem eq_of_compile_error (h : SameOperand a b) {anchored : Bool} {fault : Pattern.Fault}
    (invalid : Pattern.compile (trimText a) anchored = .error fault) : a = b := by
  rcases h with rfl | ⟨f, ha, -⟩
  · rfl
  · obtain ⟨node, hnode⟩ := Field.compile_name ha anchored
    rw [hnode] at invalid
    cases invalid

theorem compile_congr (h : SameOperand a b) {anchored : Bool} {node : Pattern.Node}
    (valid : Pattern.compile (trimText a) anchored = .ok node) :
    ∃ node', Pattern.compile (trimText b) anchored = .ok node' := by
  rcases h with rfl | ⟨f, -, hb⟩
  · exact ⟨node, valid⟩
  · exact Field.compile_name hb anchored

theorem test_congr {left left' right right' : String} (hleft : SameOperand left left')
    (hright : SameOperand right right') (o : Operator) (m : Media) :
    Condition.test ⟨left, o, right⟩ m.record = Condition.test ⟨left', o, right'⟩ m.record := by
  simp only [Condition.test, resolve_congr hleft m, resolve_congr hright m]

end

/-! Clauses -/

/-- The clauses have the same sign and the same connective behind them, and their conditions hold of the same
records of media. -/
structure Clause.Agrees (c c' : Clause) : Prop where
  negated : c.negated = c'.negated
  next : c.next = c'.next
  test (m : Media) : c.condition.test m.record = c'.condition.test m.record

section
variable {n : ℕ} {left left' operator operator' right right' : String} {tokens others : List String}

theorem conditionOf_congr (hleft : SameOperand left left') (hoperator : sameName operator operator' = true)
    (hright : SameOperand right right') {negated : Bool} {condition : Condition}
    (h : Clause.conditionOf left operator right = .ok (negated, condition)) :
    ∃ condition', Clause.conditionOf left' operator' right' = .ok (negated, condition') ∧
      ∀ m : Media, condition.test m.record = condition'.test m.record := by
  obtain ⟨o, names, rfl, rfl, compiles⟩ := conditionOf_eq_ok_iff.mp h
  refine ⟨⟨left', o, right'⟩, conditionOf_eq_ok_iff.mpr
    ⟨o, (names_congr hoperator).mp names, carriesSign_congr hoperator, rfl, ?_⟩, test_congr hleft hright o⟩
  intro anchored isPattern
  obtain ⟨node, hnode⟩ := compiles anchored isPattern
  exact compile_congr hright hnode

/-- Behind a condition, at a connective. -/
theorem Tail.agree {k : Option Connective} {cs : List Clause} (h : Tail tokens k cs)
    (same : SameButCase n tokens others) (hn : n % 2 = 1) :
    ∃ cs', Tail others k cs' ∧ List.Forall₂ Clause.Agrees cs cs' := by
  induction h generalizing n others with
  | nil =>
    cases same
    exact ⟨[], .nil, .nil⟩
  | cons joint head _ ih =>
    obtain _ | ⟨htoken, _ | ⟨hleft, _ | ⟨hoperator, _ | ⟨hright, same⟩⟩⟩⟩ := same
    obtain ⟨condition', head', htest⟩ := conditionOf_congr (hleft.operand (by omega)) hoperator.sameName
      (hright.operand (by omega)) head
    obtain ⟨cs', tail', hcs⟩ := ih same (by omega)
    exact ⟨_, .cons ((connectiveOfToken?_congr htoken.sameName).symm.trans joint) head' tail',
      .cons ⟨rfl, rfl, htest⟩ hcs⟩

theorem Written.agree {c : Clause} {cs : List Clause} (h : Written tokens c cs)
    (same : SameButCase 0 tokens others) :
    ∃ c' cs', Written others c' cs' ∧ List.Forall₂ Clause.Agrees (c :: cs) (c' :: cs') := by
  cases h with
  | mk head tail =>
    obtain _ | ⟨hleft, _ | ⟨hoperator, _ | ⟨hright, same⟩⟩⟩ := same
    obtain ⟨condition', head', htest⟩ := conditionOf_congr (hleft.operand rfl) hoperator.sameName
      (hright.operand rfl) head
    obtain ⟨cs', tail', hcs⟩ := tail.agree same rfl
    exact ⟨_, cs', .mk head' tail', .cons ⟨rfl, rfl, htest⟩ hcs⟩

end

/-! The formula takes only the signs and the connectives of clauses, the bits only what they test. -/

section
variable {c c' : Clause} {cs cs' : List Clause}

theorem clauseChars_congr (h : List.Forall₂ Clause.Agrees cs cs') (letters : List Char) :
    clauseChars letters cs = clauseChars letters cs' := by
  induction h generalizing letters with
  | nil => rfl
  | cons head _ ih =>
    cases letters with
    | nil => rfl
    | cons l letters => rw [clauseChars_cons, clauseChars_cons, head.negated, head.next, ih]

theorem clauseLinks_congr (h : List.Forall₂ Clause.Agrees cs cs') (i : ℕ) (k : Option Connective) :
    clauseLinks i k cs = clauseLinks i k cs' := by
  induction h generalizing i k with
  | nil => rfl
  | cons head _ ih =>
    cases k with
    | none => rfl
    | some k => rw [clauseLinks, clauseLinks, signsOf, signsOf, head.negated, head.next, ih]

theorem generatedFormula_congr (h : List.Forall₂ Clause.Agrees (c :: cs) (c' :: cs')) :
    generatedFormula c cs = generatedFormula c' cs' := by
  have hchars := clauseChars_congr h variableLetters
  have hlength := h.length_eq
  obtain _ | ⟨head, rest⟩ := h
  rw [generatedFormula, generatedFormula, hchars, hlength, clauseChain, clauseChain, signsOf, signsOf,
    head.negated, head.next, clauseLinks_congr rest]

theorem bits_congr (h : List.Forall₂ Clause.Agrees cs cs') (m : Media) :
    (cs.map (·.condition)).map (·.test m.record) = (cs'.map (·.condition)).map (·.test m.record) := by
  induction h with
  | nil => rfl
  | cons head _ ih =>
    simp only [List.map_cons, head.test m, ih]

end

/-! Faults -/

/-- The faults are of one kind, and what they tell differs at most in the case of letters. -/
inductive SameFault : Fault → Fault → Prop where
  | same (fault : Fault) : SameFault fault fault
  | operator {a b : String} (h : sameName a b = true) :
      SameFault (.unknownOperator a) (.unknownOperator b)
  | connective {a b : String} (h : sameName a b = true) :
      SameFault (.unknownConnective a) (.unknownConnective b)

/-- What tokens are refused for, with the position of the token at fault. There is none if they are too few
or too many. -/
inductive RefusedAt (tokens : List String) : Option ℕ → Fault → Prop where
  | count (wrong : ¬ WellCounted tokens.length) : RefusedAt tokens none (.tokenCount tokens.length)
  | tooMany (counted : WellCounted tokens.length)
      (many : maxConditions < conditionCount tokens.length) :
      RefusedAt tokens none (.tooManyConditions (conditionCount tokens.length) maxConditions)
  | token {p : ℕ} {fault : Fault} (counted : WellCounted tokens.length)
      (few : conditionCount tokens.length ≤ maxConditions) (there : FaultAt tokens p fault)
      (first : ∀ q < p, ∀ other, ¬ FaultAt tokens q other) : RefusedAt tokens (some p) fault

section
variable {tokens others : List String} {fault : Fault}

theorem refused_iff : Refused tokens fault ↔ ∃ place, RefusedAt tokens place fault := by
  constructor
  · rintro (wrong | ⟨counted, many⟩ | ⟨counted, few, p, there, first⟩)
    · exact ⟨none, .count wrong⟩
    · exact ⟨none, .tooMany counted many⟩
    · exact ⟨some p, .token counted few there first⟩
  · rintro ⟨_, wrong | ⟨counted, many⟩ | ⟨counted, few, there, first⟩⟩
    · exact .count wrong
    · exact .tooMany counted many
    · exact .leftmost counted few ⟨_, there, first⟩

theorem FaultAt.congr {p : ℕ} (h : FaultAt tokens p fault) (same : SameButCase 0 tokens others) :
    ∃ fault', FaultAt others p fault' ∧ SameFault fault fault' := by
  cases h with
  | operator there unknown =>
    obtain ⟨b, hb, htoken⟩ := same.getElem? there
    refine ⟨_, .operator hb fun ⟨o, names⟩ => unknown ⟨o, ?_⟩, .operator htoken.sameName⟩
    exact (names_congr htoken.sameName).mpr names
  | pattern before there names isPattern invalid =>
    obtain ⟨b, hb, hoperator⟩ := same.getElem? before
    obtain ⟨c, hc, hright⟩ := same.getElem? there
    obtain rfl := eq_of_compile_error (hright.operand (by omega)) invalid
    exact ⟨_, .pattern hb hc ((names_congr hoperator.sameName).mp names) isPattern invalid, .same _⟩
  | connective there unknown =>
    obtain ⟨b, hb, htoken⟩ := same.getElem? there
    refine ⟨_, .connective hb fun known => unknown ?_, .connective htoken.sameName⟩
    exact (isConnective_congr htoken.sameName).mpr known

theorem RefusedAt.congr {place : Option ℕ} (h : RefusedAt tokens place fault)
    (same : SameButCase 0 tokens others) : ∃ fault', RefusedAt others place fault' ∧ SameFault fault fault' := by
  cases h with
  | count wrong =>
    rw [same.length] at wrong ⊢
    exact ⟨_, .count wrong, .same _⟩
  | tooMany counted many =>
    rw [same.length] at counted many ⊢
    exact ⟨_, .tooMany counted many, .same _⟩
  | token counted few there first =>
    rw [same.length] at counted few
    obtain ⟨fault', there', hfault⟩ := there.congr same
    refine ⟨fault', .token counted few there' fun q hq other hother => ?_, hfault⟩
    obtain ⟨other', hother', -⟩ := hother.congr same.symm
    exact first q hq other' hother'

end

/-! Queries -/

/-- Two queries of given tokens come to the same: to the criteria that each describes, with one formula and
with the same bits and the same verdict on every record of media, or to the same fault in the same place. -/
inductive SameOutcome (tokens others : List String) : Except Error Criteria → Except Error Criteria → Prop where
  | compiled {c c' : Criteria} (here : Describes tokens c) (there : Describes others c')
      (formula : c.formula = c'.formula)
      (bits : ∀ m : Media, c.bits m.record = c'.bits m.record)
      (verdict : ∀ m : Media, c.accepts m.record = c'.accepts m.record) :
      SameOutcome tokens others (.ok c) (.ok c')
  | refused {e e' : Error} {place : Option ℕ} (here : RefusedAt tokens place e.fault)
      (there : RefusedAt others place e'.fault) (fault : SameFault e.fault e'.fault) :
      SameOutcome tokens others (.error e) (.error e')

/-- A query that is written in other cases comes to the same, however its tokens are rendered. -/
theorem case_of_names_is_free (tokens others : List String) (h : SameButCase 0 tokens others) :
    tokenize (queryOf tokens) = tokens ∧ tokenize (queryOf others) = others ∧
      ∀ query query', tokenize query = tokens → tokenize query' = others →
        SameOutcome tokens others (Criteria.compile query) (Criteria.compile query') := by
  refine ⟨tokenize_queryOf tokens, tokenize_queryOf others, ?_⟩
  rintro query query' rfl rfl
  cases hquery : Criteria.compile query with
  | ok c =>
    obtain ⟨first, rest, hwritten, few, rfl⟩ := ofTokens_eq_ok_iff.mp (compile_eq_ok.mp hquery)
    obtain ⟨first', rest', hwritten', agree⟩ := hwritten.agree h
    have few' := agree.length_eq ▸ few
    have hquery' := compile_eq_ok.mpr (ofTokens_eq_ok_iff.mpr ⟨first', rest', hwritten', few', rfl⟩)
    have hformula := generatedFormula_congr agree
    rw [hquery']
    refine .compiled (hwritten.describes few) (hwritten'.describes few') hformula (bits_congr agree) fun m => ?_
    simp only [Criteria.accepts, Criteria.bits, hformula, bits_congr agree m]
  | error e =>
    obtain ⟨-, herror⟩ := compile_eq_error.mp hquery
    obtain ⟨place, here⟩ := refused_iff.mp (ofTokens_eq_error.mp herror)
    obtain ⟨fault', there, hfault⟩ := here.congr h
    have hquery' : Criteria.compile query' = .error ⟨fault', query'⟩ :=
      compile_eq_error.mpr ⟨rfl, ofTokens_eq_error.mpr (refused_iff.mpr ⟨place, there⟩)⟩
    rw [hquery']
    exact .refused here there hfault

theorem case_of_names_is_free_films :
    SameButCase 0 ["title", "find", "studio", "or", "Rating", "!=", "8"]
        ["TITLE", "Find", "Studio", "OR", "RATING", "!=", "8"] ∧
      ∃ c', Criteria.compile "TITLE Find Studio OR RATING != 8" = .ok c' ∧
        c'.formula.source = "(Av¬B)".toList ∧ c'.accepts Media.earlyFilm.record = true := by
  have hsame : SameButCase 0 ["title", "find", "studio", "or", "Rating", "!=", "8"]
      ["TITLE", "Find", "Studio", "OR", "RATING", "!=", "8"] :=
    .cons (.field .title (by decide) (by decide)) <| .cons (.keyword rfl (by decide)) <|
      .cons (.field .studio (by decide) (by decide)) <| .cons (.keyword rfl (by decide)) <|
      .cons (.field .rating (by decide) (by decide)) <| .cons (.same "!=") <| .cons (.same "8") .nil
  obtain ⟨-, -, houtcome⟩ := case_of_names_is_free _ _ hsame
  have hc : Criteria.compile "title find studio or Rating != 8" =
      .ok ⟨[⟨"title", .find, "studio"⟩, ⟨"Rating", .equals, "8"⟩],
        ⟨"(Av¬B)".toList, ['A', 'B'], .binary .or (.var 0) (.not (.var 1))⟩⟩ := by cbv
  have hpair := houtcome "title find studio or Rating != 8" "TITLE Find Studio OR RATING != 8"
    (by cbv) (by cbv)
  rw [hc] at hpair
  generalize Criteria.compile "TITLE Find Studio OR RATING != 8" = outcome at hpair
  cases hpair with
  | compiled here there formula bits verdict =>
    refine ⟨hsame, _, rfl, formula ▸ rfl, ?_⟩
    rw [← verdict]
    cbv

end Query

end MediaCatalogue
