import MediaCatalogue.Proofs.Query.LeftFold

/-! Which queries compile, and what is told of one that does not. Both are read off the places of the
tokens: of every four, the second is an operator, the third may be a pattern and the fourth is a
connective. The fault that is told is the leftmost one, once the number of tokens is right. -/

namespace MediaCatalogue.Query

/-- Conditions of three tokens with a connective between any two of them take so many tokens. -/
def WellCounted (n : Nat) : Prop := 3 ≤ n ∧ n % 4 = 3

def conditionCount (n : Nat) : Nat := (n + 1) / 4

/-- Whether a token names an operator, behind at most one sign. -/
def Names (token : String) (o : Operator) : Prop := sameName o.token (unsignedToken token) = true

def IsConnective (token : String) : Prop :=
  ∃ entry ∈ connectiveAliases, sameName entry.1 token = true

/-- What is wrong with the token at a position. -/
inductive FaultAt (tokens : List String) : Nat → Fault → Prop where
  | operator {i : Nat} {token : String} (there : tokens[4 * i + 1]? = some token)
      (unknown : ¬ ∃ o, Names token o) : FaultAt tokens (4 * i + 1) (.unknownOperator token)
  | pattern {i : Nat} {token right : String} {o : Operator} {anchored : Bool} {fault : Pattern.Fault}
      (before : tokens[4 * i + 1]? = some token) (there : tokens[4 * i + 2]? = some right)
      (names : Names token o) (isPattern : o.anchoring? = some anchored)
      (invalid : Pattern.compile (trimText right) anchored = .error fault) :
      FaultAt tokens (4 * i + 2) (.invalidPattern right fault.message)
  | connective {i : Nat} {token : String} (there : tokens[4 * i + 3]? = some token)
      (unknown : ¬ IsConnective token) : FaultAt tokens (4 * i + 3) (.unknownConnective token)

/-- The tokens have the fault at some position, and no fault to the left of it. -/
def Leftmost (tokens : List String) (fault : Fault) : Prop :=
  ∃ p, FaultAt tokens p fault ∧ ∀ q < p, ∀ other, ¬ FaultAt tokens q other

/-- The fault that is told of tokens: their number comes first, then the number of conditions. -/
inductive Refused (tokens : List String) : Fault → Prop where
  | count (wrong : ¬ WellCounted tokens.length) : Refused tokens (.tokenCount tokens.length)
  | tooMany (counted : WellCounted tokens.length)
      (many : maxConditions < conditionCount tokens.length) :
      Refused tokens (.tooManyConditions (conditionCount tokens.length) maxConditions)
  | leftmost {fault : Fault} (counted : WellCounted tokens.length)
      (few : conditionCount tokens.length ≤ maxConditions) (first : Leftmost tokens fault) :
      Refused tokens fault

structure Compilable (tokens : List String) : Prop where
  counted : WellCounted tokens.length
  few : conditionCount tokens.length ≤ maxConditions
  operators : ∀ i token, tokens[4 * i + 1]? = some token → ∃ o, Names token o
  connectives : ∀ i token, tokens[4 * i + 3]? = some token → IsConnective token
  patterns : ∀ i token right o anchored, tokens[4 * i + 1]? = some token →
    tokens[4 * i + 2]? = some right → Names token o → o.anchoring? = some anchored →
    ∃ node, Pattern.compile (trimText right) anchored = .ok node

/-- The condition stands at a position, its operands as they are. -/
structure StandsAt (tokens : List String) (p : Nat) (c : Condition) : Prop where
  left : tokens[p]? = some c.left
  operator : ∃ token, tokens[p + 1]? = some token ∧ Names token c.operator
  right : tokens[p + 2]? = some c.right

/-- The criteria hold the conditions of the tokens, one for each variable of their formula. -/
structure Describes (tokens : List String) (c : Criteria) : Prop where
  count : c.conditions.length = conditionCount tokens.length
  conditions : ∀ i condition, c.conditions[i]? = some condition → StandsAt tokens (4 * i) condition
  letters : c.formula.letters = variableLetters.take (conditionCount tokens.length)
  aligned : c.formula.letters.length = c.conditions.length

/-! Tokens that name operators and connectives -/

theorem ofToken?_token (o : Operator) : Operator.ofToken? o.token = some o := by
  cases o <;> decide +kernel

theorem ofToken?_eq_some {token : String} {o : Operator} :
    Operator.ofToken? token = some o ↔ sameName o.token token = true := by
  constructor
  · intro h
    unfold Operator.ofToken? at h
    simpa using List.find?_some h
  · intro h
    rw [← ofToken?_token o]
    unfold Operator.ofToken?
    congr 1
    funext o'
    rw [sameName, sameName, sameName_iff.mp h]

theorem Names.unique {token : String} {o o' : Operator} (h : Names token o) (h' : Names token o') : o = o' :=
  Option.some.inj ((ofToken?_eq_some.mpr h).symm.trans (ofToken?_eq_some.mpr h'))

theorem ofToken?_eq_none {token : String} :
    Operator.ofToken? (unsignedToken token) = none ↔ ¬ ∃ o, Names token o := by
  rw [Option.eq_none_iff_forall_ne_some, not_exists]
  exact forall_congr' fun o => not_congr ofToken?_eq_some

theorem connectiveOfToken?_congr {a b : String} (h : sameName a b = true) :
    connectiveOfToken? a = connectiveOfToken? b := by
  simp only [connectiveOfToken?, sameName_congr_right h]

theorem connectiveOfToken?_isSome {token : String} :
    (connectiveOfToken? token).isSome = true ↔ IsConnective token := by
  simp only [connectiveOfToken?, Option.isSome_map, List.find?_isSome, IsConnective]

/-! Faults of the first condition, and of those behind it -/

theorem FaultAt.lt_length {tokens : List String} {p : Nat} {fault : Fault}
    (h : FaultAt tokens p fault) : p < tokens.length := by
  cases h with
  | operator there _ => exact (List.getElem?_eq_some_iff.mp there).1
  | pattern _ there _ _ _ => exact (List.getElem?_eq_some_iff.mp there).1
  | connective there _ => exact (List.getElem?_eq_some_iff.mp there).1

theorem FaultAt.unique {tokens : List String} {p : Nat} {f g : Fault} (hf : FaultAt tokens p f)
    (hg : FaultAt tokens p g) : f = g := by
  generalize hq : p = q at hg
  cases hf with
  | @operator i token there _ =>
    cases hg with
    | @operator j token' there' _ =>
      obtain rfl : i = j := by omega
      rw [there, Option.some.injEq] at there'
      rw [there']
    | pattern => omega
    | connective => omega
  | @pattern i token right o anchored fault before there names isPattern invalid =>
    cases hg with
    | operator => omega
    | @pattern j token' right' o' anchored' fault' before' there' names' isPattern' invalid' =>
      obtain rfl : i = j := by omega
      obtain rfl := Option.some.inj (before.symm.trans before')
      obtain rfl := Option.some.inj (there.symm.trans there')
      obtain rfl := names.unique names'
      obtain rfl := Option.some.inj (isPattern.symm.trans isPattern')
      obtain rfl := Except.error.inj (invalid.symm.trans invalid')
      rfl
    | connective => omega
  | @connective i token there _ =>
    cases hg with
    | operator => omega
    | pattern => omega
    | @connective j token' there' _ =>
      obtain rfl : i = j := by omega
      rw [there, Option.some.injEq] at there'
      rw [there']

theorem Leftmost.unique {tokens : List String} {f g : Fault} (hf : Leftmost tokens f)
    (hg : Leftmost tokens g) : f = g := by
  obtain ⟨p, hp, hbefore⟩ := hf
  obtain ⟨q, hq, hbefore'⟩ := hg
  rcases Nat.lt_trichotomy p q with hlt | rfl | hlt
  · exact absurd hp (hbefore' p hlt f)
  · exact hp.unique hq
  · exact absurd hq (hbefore q hlt g)

section

variable {left operator right token : String} {rest : List String}

theorem faultAt_add_four {a b c d : String} {p : Nat} {fault : Fault} :
    FaultAt (a :: b :: c :: d :: rest) (p + 4) fault ↔ FaultAt rest p fault := by
  constructor
  · intro h
    generalize hq : p + 4 = q at h
    cases h with
    | @operator i token there unknown =>
      obtain ⟨j, rfl⟩ : ∃ j, i = j + 1 := ⟨i - 1, by omega⟩
      obtain rfl : p = 4 * j + 1 := by omega
      exact .operator there unknown
    | @pattern i token right o anchored fault before there names isPattern invalid =>
      obtain ⟨j, rfl⟩ : ∃ j, i = j + 1 := ⟨i - 1, by omega⟩
      obtain rfl : p = 4 * j + 2 := by omega
      exact .pattern before there names isPattern invalid
    | @connective i token there unknown =>
      obtain ⟨j, rfl⟩ : ∃ j, i = j + 1 := ⟨i - 1, by omega⟩
      obtain rfl : p = 4 * j + 3 := by omega
      exact .connective there unknown
  · intro h
    cases h with
    | @operator i token there unknown => exact FaultAt.operator (i := i + 1) there unknown
    | @pattern i token right o anchored fault before there names isPattern invalid =>
      exact FaultAt.pattern (i := i + 1) before there names isPattern invalid
    | @connective i token there unknown => exact FaultAt.connective (i := i + 1) there unknown

/-- What reading a condition comes to: no operator, no pattern, or the condition. -/
theorem conditionOf_cases (left operator right : String) :
    ((¬ ∃ o, Names operator o) ∧
      Clause.conditionOf left operator right = .error (.unknownOperator operator)) ∨
    (∃ o, Names operator o ∧
      ((∃ anchored fault, o.anchoring? = some anchored ∧
          Pattern.compile (trimText right) anchored = .error fault ∧
          Clause.conditionOf left operator right = .error (.invalidPattern right fault.message)) ∨
        ((∀ anchored, o.anchoring? = some anchored →
            ∃ node, Pattern.compile (trimText right) anchored = .ok node) ∧
          Clause.conditionOf left operator right = .ok (carriesSign operator, ⟨left, o, right⟩)))) := by
  unfold Clause.conditionOf
  rw [signOf_eq]
  cases ho : Operator.ofToken? (unsignedToken operator) with
  | none => exact .inl ⟨ofToken?_eq_none.mp ho, by simp only [ho]⟩
  | some o =>
    refine .inr ⟨o, ofToken?_eq_some.mp ho, ?_⟩
    cases ha : o.anchoring? with
    | none =>
      refine .inr ⟨?_, by simp only [ho, ha]; rfl⟩
      rintro _ ⟨⟩
    | some anchored =>
      cases hc : Pattern.compile (trimText right) anchored with
      | error fault => exact .inl ⟨anchored, fault, rfl, hc, by simp only [ho, ha, hc]⟩
      | ok node =>
        refine .inr ⟨?_, by simp only [ho, ha, hc]; rfl⟩
        rintro _ ⟨⟩
        exact ⟨node, hc⟩

theorem conditionOf_eq_ok_iff {negated : Bool} {condition : Condition} :
    Clause.conditionOf left operator right = .ok (negated, condition) ↔
      ∃ o, Names operator o ∧ negated = carriesSign operator ∧ condition = ⟨left, o, right⟩ ∧
        ∀ anchored, o.anchoring? = some anchored →
          ∃ node, Pattern.compile (trimText right) anchored = .ok node := by
  rcases conditionOf_cases left operator right with
    ⟨unknown, he⟩ | ⟨o, names, ⟨anchored, fault, isPattern, invalid, he⟩ | ⟨compiles, he⟩⟩
  · rw [he]
    refine ⟨nofun, ?_⟩
    rintro ⟨o, names, -⟩
    exact absurd ⟨o, names⟩ unknown
  · rw [he]
    refine ⟨nofun, ?_⟩
    rintro ⟨o', names', -, -, compiles⟩
    obtain rfl := names.unique names'
    obtain ⟨node, hnode⟩ := compiles anchored isPattern
    rw [hnode] at invalid
    cases invalid
  · rw [he, Except.ok.injEq, Prod.mk.injEq]
    constructor
    · rintro ⟨rfl, rfl⟩
      exact ⟨o, names, rfl, rfl, compiles⟩
    · rintro ⟨o', names', rfl, rfl, -⟩
      exact ⟨rfl, by rw [names.unique names']⟩

theorem clean_of_names {o : Operator} (names : Names operator o)
    (compiles : ∀ anchored, o.anchoring? = some anchored →
      ∃ node, Pattern.compile (trimText right) anchored = .ok node) {q : Nat} (hq : q < 3)
    (other : Fault) : ¬ FaultAt (left :: operator :: right :: rest) q other := by
  intro h
  cases h with
  | @operator i token there unknown =>
    obtain rfl : i = 0 := by omega
    obtain rfl := Option.some.inj there
    exact unknown ⟨o, names⟩
  | @pattern i token right' o' anchored fault before there names' isPattern invalid =>
    obtain rfl : i = 0 := by omega
    obtain rfl := Option.some.inj before
    obtain rfl := Option.some.inj there
    obtain rfl := names.unique names'
    obtain ⟨node, hnode⟩ := compiles anchored isPattern
    rw [hnode] at invalid
    cases invalid
  | connective => omega

/-- A fault of the first condition is the leftmost one. -/
theorem leftmost_of_conditionOf {fault : Fault}
    (h : Clause.conditionOf left operator right = .error fault) :
    Leftmost (left :: operator :: right :: rest) fault := by
  rcases conditionOf_cases left operator right with
    ⟨unknown, he⟩ | ⟨o, names, ⟨anchored, pf, isPattern, invalid, he⟩ | ⟨-, he⟩⟩
  · obtain rfl := Except.error.inj (he.symm.trans h)
    refine ⟨1, .operator (i := 0) rfl unknown, ?_⟩
    intro q hq other hother
    cases hother <;> omega
  · obtain rfl := Except.error.inj (he.symm.trans h)
    refine ⟨2, .pattern (i := 0) rfl rfl names isPattern invalid, ?_⟩
    intro q hq other hother
    cases hother with
    | @operator i token there unknown =>
      obtain rfl : i = 0 := by omega
      obtain rfl := Option.some.inj there
      exact unknown ⟨o, names⟩
    | pattern => omega
    | connective => omega
  · rw [he] at h
    cases h

/-- Behind a condition and a connective without faults, the faults are those of the rest. -/
theorem faultAt_behind (clean : ∀ q < 3, ∀ other, ¬ FaultAt (left :: operator :: right :: token :: rest) q other)
    (known : IsConnective token) {p : Nat} {fault : Fault} :
    FaultAt (left :: operator :: right :: token :: rest) p fault ↔
      ∃ q, p = q + 4 ∧ FaultAt rest q fault := by
  constructor
  · intro h
    have hp : ¬ p < 3 := fun hp => clean p hp fault h
    by_cases h3 : p = 3
    · subst h3
      generalize hq : 3 = q at h
      cases h with
      | operator => omega
      | pattern => omega
      | @connective i token' there unknown =>
        obtain rfl : i = 0 := by omega
        obtain rfl := Option.some.inj there
        exact absurd known unknown
    · obtain ⟨q, rfl⟩ : ∃ q, p = q + 4 := ⟨p - 4, by omega⟩
      exact ⟨q, rfl, faultAt_add_four.mp h⟩
  · rintro ⟨q, rfl, h⟩
    exact faultAt_add_four.mpr h

end

/-- Reading conditions succeeds exactly if no token has a fault, and else gives the leftmost fault. -/
theorem readAll_cases (count : Nat) {tokens : List String} (hlen : tokens.length % 4 = 3) :
    (∃ clauses, Clause.readAll count tokens = .ok clauses ∧ ∀ p fault, ¬ FaultAt tokens p fault) ∨
      ∃ fault, Clause.readAll count tokens = .error fault ∧ Leftmost tokens fault := by
  induction tokens using Clause.readAll.induct with
  | case1 => cases hlen
  | case2 left operator right rest ih =>
    rcases conditionOf_cases left operator right with
      ⟨-, he⟩ | ⟨o, names, ⟨_, _, -, -, he⟩ | ⟨compiles, he⟩⟩
    · exact .inr ⟨_, by rw [Clause.readAll, he]; rfl, leftmost_of_conditionOf he⟩
    · exact .inr ⟨_, by rw [Clause.readAll, he]; rfl, leftmost_of_conditionOf he⟩
    · have clean : ∀ q < 3, ∀ other, ¬ FaultAt (left :: operator :: right :: rest) q other :=
        fun q hq other => clean_of_names names compiles hq other
      cases rest with
      | nil =>
        refine .inl ⟨_, by rw [Clause.readAll, he]; rfl, ?_⟩
        intro p fault h
        exact clean p h.lt_length fault h
      | cons token rest =>
        cases hk : connectiveOfToken? token with
        | none =>
          have unknown : ¬ IsConnective token := by
            rw [← connectiveOfToken?_isSome, hk]
            exact Bool.false_ne_true
          refine .inr ⟨.unknownConnective token, by rw [Clause.readAll, he]; simp only [hk]; rfl, 3,
            .connective (i := 0) rfl unknown, clean⟩
        | some k =>
          have known : IsConnective token := by
            rw [← connectiveOfToken?_isSome, hk]
            rfl
          rcases ih (by simp only [List.length_cons] at hlen; omega) with
            ⟨clauses, hread, none⟩ | ⟨fault, hread, p, hp, before⟩
          · refine .inl ⟨_, by rw [Clause.readAll, he]; simp only [hk, hread]; rfl, ?_⟩
            intro p fault h
            obtain ⟨q, -, hq⟩ := (faultAt_behind clean known).mp h
            exact none q fault hq
          · refine .inr ⟨fault, by rw [Clause.readAll, he]; simp only [hk, hread]; rfl, p + 4,
              faultAt_add_four.mpr hp, ?_⟩
            intro q hq other h
            obtain ⟨q', rfl, hq'⟩ := (faultAt_behind clean known).mp h
            exact before q' (by omega) other hq'
  | case3 tokens hnil hcons =>
    -- fewer than three tokens, but at least one
    exfalso
    rcases tokens with _ | ⟨left, _ | ⟨operator, _ | ⟨right, rest⟩⟩⟩
    · exact hnil rfl
    · simp at hlen
    · simp at hlen
    · exact hcons _ _ _ _ rfl

/-! What a query compiles to -/

theorem compilable_iff {tokens : List String} :
    Compilable tokens ↔ WellCounted tokens.length ∧ conditionCount tokens.length ≤ maxConditions ∧
      ∀ p fault, ¬ FaultAt tokens p fault := by
  constructor
  · intro h
    refine ⟨h.counted, h.few, ?_⟩
    intro p fault hp
    cases hp with
    | @operator i token there unknown => exact unknown (h.operators i token there)
    | @pattern i token right o anchored fault before there names isPattern invalid =>
      obtain ⟨node, hnode⟩ := h.patterns i token right o anchored before there names isPattern
      rw [hnode] at invalid
      cases invalid
    | @connective i token there unknown => exact unknown (h.connectives i token there)
  · rintro ⟨counted, few, clean⟩
    refine ⟨counted, few, ?_, ?_, ?_⟩
    · intro i token there
      by_contra unknown
      exact clean _ _ (.operator there unknown)
    · intro i token there
      by_contra unknown
      exact clean _ _ (.connective there unknown)
    · intro i token right o anchored before there names isPattern
      cases hc : Pattern.compile (trimText right) anchored with
      | error fault => exact absurd (.pattern before there names isPattern hc) (clean _ _)
      | ok node => exact ⟨node, rfl⟩

theorem Refused.not_compilable {tokens : List String} {fault : Fault} (h : Refused tokens fault) :
    ¬ Compilable tokens := by
  intro hc
  obtain ⟨counted, few, clean⟩ := compilable_iff.mp hc
  cases h with
  | count wrong => exact wrong counted
  | tooMany _ many => omega
  | leftmost _ _ first =>
    obtain ⟨p, hp, -⟩ := first
    exact clean p fault hp

theorem Refused.unique {tokens : List String} {f g : Fault} (hf : Refused tokens f)
    (hg : Refused tokens g) : f = g := by
  cases hf with
  | count wrong =>
    cases hg with
    | count => rfl
    | tooMany counted => exact absurd counted wrong
    | leftmost counted => exact absurd counted wrong
  | tooMany counted many =>
    cases hg with
    | count wrong => exact absurd counted wrong
    | tooMany => rfl
    | leftmost _ few => omega
  | leftmost counted few first =>
    cases hg with
    | count wrong => exact absurd counted wrong
    | tooMany _ many => omega
    | leftmost _ _ first' => exact first.unique first'

theorem standsAt_conditionOf {left operator right : String} {negated : Bool} {condition : Condition}
    (h : Clause.conditionOf left operator right = .ok (negated, condition)) (before rest : List String) :
    StandsAt (before ++ left :: operator :: right :: rest) before.length condition := by
  obtain ⟨o, ho, -, rfl⟩ := conditionOf_eq_ok h
  exact ⟨by simp, ⟨operator, by simp, ofToken?_eq_some.mp ho⟩, by simp⟩

theorem Tail.standsAt {tokens : List String} {k : Option Connective} {cs : List Clause}
    (h : Tail tokens k cs) {i : Nat} {c : Clause} (hi : cs[i]? = some c) :
    StandsAt tokens (4 * i + 1) c.condition := by
  induction h generalizing i with
  | nil => cases hi
  | @cons token left operator right _ _ _ rest _ _ _ head _ ih =>
    cases i with
    | zero =>
      obtain rfl := Option.some.inj hi
      exact standsAt_conditionOf head [token] rest
    | succ i =>
      have := ih (i := i) hi
      exact ⟨this.left, this.operator, this.right⟩

theorem Written.standsAt {tokens : List String} {c : Clause} {cs : List Clause}
    (h : Written tokens c cs) {i : Nat} {clause : Clause} (hi : (c :: cs)[i]? = some clause) :
    StandsAt tokens (4 * i) clause.condition := by
  cases h with
  | @mk left operator right _ _ rest _ _ head tail =>
    cases i with
    | zero =>
      obtain rfl := Option.some.inj hi
      exact standsAt_conditionOf head [] rest
    | succ i =>
      have := tail.standsAt (i := i) hi
      exact ⟨this.left, this.operator, this.right⟩

theorem Written.describes {tokens : List String} {c : Clause} {cs : List Clause}
    (h : Written tokens c cs) (few : (c :: cs).length ≤ maxConditions) :
    Describes tokens ⟨(c :: cs).map (·.condition), generatedFormula c cs⟩ := by
  have hcount : (c :: cs).length = conditionCount tokens.length := by
    rw [h.length, conditionCount, List.length_cons]
    omega
  have hletters : variableLetters.length = maxConditions := by decide
  refine ⟨by rw [List.length_map, hcount], ?_, by rw [← hcount]; rfl, ?_⟩
  · intro i condition hi
    obtain ⟨clause, hclause, rfl⟩ := by simpa only [List.getElem?_map, Option.map_eq_some_iff] using hi
    exact h.standsAt hclause
  · rw [generatedFormula, List.length_take, List.length_map, hletters]
    omega

/-- Tokens either are compiled to the criteria that they describe, or have a fault that is told. -/
theorem ofTokens_cases (tokens : List String) :
    (∃ c, Criteria.ofTokens tokens = .ok c ∧ Compilable tokens ∧ Describes tokens c) ∨
      ∃ fault, Criteria.ofTokens tokens = .error fault ∧ Refused tokens fault := by
  by_cases counted : WellCounted tokens.length
  · have hnum : (tokens.length + 3) / 4 = conditionCount tokens.length := by
      have := counted.2
      rw [conditionCount]
      omega
    have hpass : ¬ (decide (tokens.length < 3) || (tokens.length - 3) % 4 != 0) = true := by
      have := counted.1
      have := counted.2
      simp only [Bool.or_eq_true, decide_eq_true_eq, bne_iff_ne]
      omega
    by_cases few : conditionCount tokens.length ≤ maxConditions
    · rcases readAll_cases tokens.length counted.2 with
        ⟨clauses, hread, clean⟩ | ⟨fault, hread, first⟩
      · obtain ⟨c, cs, rfl, hw⟩ := written_of_readAll hread counted.2
        have hfew : (c :: cs).length ≤ maxConditions := by
          rw [conditionCount, hw.length] at few
          rw [List.length_cons]
          omega
        exact .inl ⟨_, ofTokens_eq_ok_iff.mpr ⟨c, cs, hw, hfew, rfl⟩,
          compilable_iff.mpr ⟨counted, few, clean⟩, hw.describes hfew⟩
      · refine .inr ⟨fault, ?_, .leftmost counted few first⟩
        unfold Criteria.ofTokens
        rw [if_neg hpass, hnum, if_neg (by omega), hread]
        rfl
    · refine .inr ⟨_, ?_, .tooMany counted (by omega)⟩
      unfold Criteria.ofTokens
      rw [if_neg hpass, hnum, if_pos (by omega)]
  · refine .inr ⟨_, ?_, .count counted⟩
    unfold Criteria.ofTokens
    rw [if_pos]
    rw [WellCounted] at counted
    simp only [Bool.or_eq_true, decide_eq_true_eq, bne_iff_ne]
    omega

theorem ofTokens_eq_error {tokens : List String} {fault : Fault} :
    Criteria.ofTokens tokens = .error fault ↔ Refused tokens fault := by
  rcases ofTokens_cases tokens with ⟨c, hok, compilable, -⟩ | ⟨fault', herror, refused⟩
  · rw [hok]
    exact ⟨nofun, fun refused => absurd compilable refused.not_compilable⟩
  · rw [herror, Except.error.injEq]
    exact ⟨fun h => h ▸ refused, refused.unique⟩

theorem compile_eq_ok {query : String} {c : Criteria} :
    Criteria.compile query = .ok c ↔ Criteria.ofTokens (tokenize query) = .ok c := by
  unfold Criteria.compile
  cases Criteria.ofTokens (tokenize query) <;> simp

theorem compile_eq_error {query : String} {e : Error} :
    Criteria.compile query = .error e ↔
      e.query = query ∧ Criteria.ofTokens (tokenize query) = .error e.fault := by
  unfold Criteria.compile
  cases Criteria.ofTokens (tokenize query) with
  | ok c => simp
  | error fault =>
    obtain ⟨fault', query'⟩ := e
    simp only [Except.error.injEq, Error.mk.injEq]
    exact ⟨fun ⟨hf, hq⟩ => ⟨hq.symm, hf⟩, fun ⟨hq, hf⟩ => ⟨hf, hq.symm⟩⟩

/-- Exactly the queries whose tokens can be compiled are, and to the criteria that the tokens describe.
For all others the fault is the one that the tokens are refused for. So the formula is never at fault,
and no wrong number of tokens is met while conditions are read. -/
theorem compile_outcome (query : String) :
    ((∃ c, Criteria.compile query = .ok c) ↔ Compilable (tokenize query)) ∧
      (∀ c, Criteria.compile query = .ok c → Describes (tokenize query) c) ∧
      (∀ e, Criteria.compile query = .error e ↔
        e.query = query ∧ Refused (tokenize query) e.fault) ∧
      (∀ error other, Criteria.compile query ≠ .error ⟨.formula error, other⟩) ∧
      (WellCounted (tokenize query).length → ∀ count,
        Clause.readAll (tokenize query).length (tokenize query) ≠ .error (.tokenCount count)) := by
  simp only [compile_eq_ok, compile_eq_error, ne_eq]
  have outcome := ofTokens_cases (tokenize query)
  refine ⟨⟨?_, ?_⟩, ?_, ?_, ?_, ?_⟩
  · rintro ⟨c, hc⟩
    rcases outcome with ⟨-, -, compilable, -⟩ | ⟨fault, hfault, -⟩
    · exact compilable
    · rw [hc] at hfault
      cases hfault
  · intro compilable
    rcases outcome with ⟨c, hc, -, -⟩ | ⟨fault, -, refused⟩
    · exact ⟨c, hc⟩
    · exact absurd compilable refused.not_compilable
  · intro c hc
    rcases outcome with ⟨c', hc', -, describes⟩ | ⟨fault, hfault, -⟩
    · obtain rfl := Except.ok.inj (hc'.symm.trans hc)
      exact describes
    · rw [hc] at hfault
      cases hfault
  · intro e
    rcases outcome with ⟨c, hc, compilable, -⟩ | ⟨fault, hfault, refused⟩
    · rw [hc]
      refine ⟨fun ⟨_, h⟩ => ?_, fun ⟨_, h⟩ => absurd compilable h.not_compilable⟩
      cases h
    · rw [hfault, Except.error.injEq]
      exact and_congr_right fun _ => ⟨fun h => h ▸ refused, fun h => refused.unique h⟩
  · rintro error other ⟨-, herror⟩
    rcases outcome with ⟨c, hc, -, -⟩ | ⟨fault, hfault, refused⟩
    · rw [hc] at herror
      cases herror
    · obtain rfl := Except.error.inj (hfault.symm.trans herror)
      cases refused with
      | leftmost _ _ first =>
        obtain ⟨p, hp, -⟩ := first
        cases hp
  · intro counted count hcount
    rcases readAll_cases (tokenize query).length counted.2 with
      ⟨clauses, hread, -⟩ | ⟨fault, hread, p, hp, -⟩
    · rw [hread] at hcount
      cases hcount
    · obtain rfl := Except.error.inj (hread.symm.trans hcount)
      cases hp

end MediaCatalogue.Query
