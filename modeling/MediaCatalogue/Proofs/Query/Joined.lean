import MediaCatalogue.Proofs.Query.Spelling

/-! A condition put behind a query, with a connective between them. The tokens are those of the two texts, so
the conditions of the query keep their numbers and its tree becomes the left operand of a new root. -/

namespace MediaCatalogue.Query

open Formula Lexing

/-- Between tokens, or in one outside quotes and behind no backslash. -/
def Lexing.Settled : Lexing → Prop
  | gap => True
  | word _ quoted escaped => quoted = false ∧ escaped = false

/-- The reading of a text ends outside quotes and not behind a backslash that waits for a character. -/
def EndsSettled (text : String) : Prop := (gap.run text.toList).2.Settled

theorem Lexing.Settled.run_space {state : Lexing} (h : state.Settled) :
    state.run [' '] = (state.flush, gap) := by
  cases state with
  | gap => rfl
  | word read quoted escaped =>
    obtain ⟨rfl, rfl⟩ := h
    rfl

theorem tokenize_eq (text : String) :
    tokenize text = (gap.tokensFrom text.toList).map String.ofList := rfl

theorem tokenize_seam {a : String} (h : EndsSettled a) (b : String) :
    tokenize (a ++ " " ++ b) = tokenize a ++ tokenize b := by
  have hchars : (a ++ " " ++ b).toList = a.toList ++ ([' '] ++ b.toList) := by simp
  rw [tokenize_eq, hchars, tokensFrom_append, tokensFrom_append, h.run_space, tokenize_eq, tokenize_eq,
    ← List.append_assoc, List.map_append]
  rfl

/-- A token is a spelling of a connective, whatever the case of its letters. -/
def Spells (token : String) (k : Connective) : Prop :=
  ∃ entry ∈ connectiveAliases, sameName entry.1 token = true ∧ entry.2 = k

theorem Spells.connectiveOfToken? {token : String} {k : Connective} (h : Spells token k) :
    connectiveOfToken? token = some k := by
  obtain ⟨entry, hentry, hsame, rfl⟩ := h
  have hself : ∀ entry ∈ connectiveAliases, Query.connectiveOfToken? entry.1 = some entry.2 := by
    decide +kernel
  rw [← connectiveOfToken?_congr hsame, hself entry hentry]

/-- Lower case never makes another character of a space, a quote or a backslash. -/
theorem IsPlain.of_toLower {c : Char} (h : IsPlain c.toLower) : IsPlain c := by
  obtain ⟨hspace, hquote, hslash⟩ := h
  refine ⟨?_, ?_, ?_⟩
  · rintro rfl
    exact hspace rfl
  · rintro rfl
    exact hquote rfl
  · rintro rfl
    exact hslash rfl

theorem Spells.isPlain {token : String} {k : Connective} (h : Spells token k) :
    ∀ c ∈ token.toList, IsPlain c := by
  obtain ⟨entry, hentry, hsame, -⟩ := h
  have hclean : (connectiveAliases.all fun entry =>
      (foldCase entry.1).all fun c => c != ' ' && c != '"' && c != '\\') = true := by cbv
  have hplain : ∀ c ∈ foldCase entry.1, IsPlain c := by
    simpa [IsPlain, and_assoc] using List.all_eq_true.mp hclean entry hentry
  intro c hc
  have hfold : c.toLower ∈ foldCase token := List.mem_map_of_mem hc
  rw [← sameName_iff.mp hsame] at hfold
  exact (hplain _ hfold).of_toLower

theorem Spells.ne_nil {token : String} {k : Connective} (h : Spells token k) : token.toList ≠ [] := by
  obtain ⟨entry, hentry, hsame, -⟩ := h
  have hclean : ∀ entry ∈ connectiveAliases, foldCase entry.1 ≠ [] := by decide +kernel
  intro hnil
  apply hclean entry hentry
  rw [sameName_iff.mp hsame, foldCase, hnil]
  rfl

theorem Spells.run {token : String} {k : Connective} (h : Spells token k) :
    gap.run token.toList = ([], word token.toList.reverse false false) := by
  obtain ⟨c, cs, hcs⟩ := List.exists_cons_of_ne_nil h.ne_nil
  have hrun := run_plain h.isPlain []
  rw [hcs] at hrun ⊢
  rw [run_gap_cons (h.isPlain c (hcs ▸ List.mem_cons_self)).1, hrun, List.append_nil]

theorem Spells.endsSettled {token : String} {k : Connective} (h : Spells token k) : EndsSettled token := by
  rw [EndsSettled, h.run]
  exact ⟨rfl, rfl⟩

theorem Spells.tokenize {token : String} {k : Connective} (h : Spells token k) :
    tokenize token = [token] := by
  rw [tokenize_eq, tokensFrom, h.run]
  simp [flush]

theorem tokenize_joined {q token : String} {k : Connective} (hq : EndsSettled q) (hk : Spells token k)
    (d : String) : tokenize (q ++ " " ++ token ++ " " ++ d) = tokenize q ++ token :: tokenize d := by
  have hassoc : q ++ " " ++ token ++ " " ++ d = q ++ " " ++ (token ++ " " ++ d) := by
    simp only [String.append_assoc]
  rw [hassoc, tokenize_seam hq, tokenize_seam hk.endsSettled, hk.tokenize]
  rfl

/-- Clauses behind others: only the last of those in front changes, which gets a connective behind it. -/
theorem Tail.append {tokens more : List String} {k l : Option Connective} {cs ds : List Clause}
    (h : Tail tokens k cs) (hmore : Tail more l ds) :
    ∃ es, Tail (tokens ++ more) (k.or l) es ∧
      es.map (·.condition) = cs.map (·.condition) ++ ds.map (·.condition) ∧
      (∀ i, clauseLinks i (k.or l) es = clauseLinks i k cs ++ clauseLinks (i + cs.length) l ds) ∧
      ∀ record acc, clausesValue record acc (k.or l) es =
        clausesValue record (clausesValue record acc k cs) l ds := by
  induction h with
  | nil => exact ⟨ds, hmore, rfl, fun _ => rfl, fun _ _ => rfl⟩
  | cons joint head _ ih =>
    obtain ⟨es, htail, hconditions, hlinks, hvalue⟩ := ih
    refine ⟨_, .cons joint head htail, ?_, ?_, ?_⟩
    · rw [List.map_cons, hconditions]
      rfl
    · intro i
      have hi := hlinks (i + 1)
      rw [Nat.add_right_comm, Nat.add_assoc i] at hi
      simp only [Option.some_or, clauseLinks, hi, signsOf, List.length_cons, List.cons_append]
    · intro record acc
      exact hvalue record _

/-- The criteria of clauses accept what their values come to from left to right. -/
theorem accepts_clauses (record : Record) (c : Clause) (cs : List Clause) :
    Criteria.accepts ⟨(c :: cs).map (·.condition), generatedFormula c cs⟩ record =
      clausesValue record (c.negated ^^ c.condition.test record) c.next cs := by
  rw [Criteria.accepts, Criteria.bits, List.map_map]
  exact eval_clauseChain record c cs

/-- A query of one condition is three tokens. -/
theorem Written.single {tokens : List String} {c : Clause} (h : Written tokens c []) :
    c.next = none ∧ ∃ left operator right, tokens = [left, operator, right] ∧
      Clause.conditionOf left operator right = .ok (c.negated, c.condition) := by
  cases h with
  | mk head tail =>
    cases tail with
    | nil => exact ⟨rfl, _, _, _, rfl, head⟩

theorem Written.append {tokens more : List String} {l : Option Connective} {c : Clause}
    {cs ds : List Clause} (h : Written tokens c cs) (hmore : Tail more l ds) :
    ∃ e es, Written (tokens ++ more) e es ∧
      (e :: es).map (·.condition) = (c :: cs).map (·.condition) ++ ds.map (·.condition) ∧
      (clauseChain e es).expr =
        (clauseLinks (c :: cs).length l ds).foldl Chain.join (clauseChain c cs).expr ∧
      ∀ record, clausesValue record (e.negated ^^ e.condition.test record) e.next es =
        clausesValue record (clausesValue record (c.negated ^^ c.condition.test record) c.next cs) l ds := by
  cases h with
  | mk head tail =>
    obtain ⟨es, htail, hconditions, hlinks, hvalue⟩ := tail.append hmore
    refine ⟨_, es, .mk head htail, ?_, ?_, fun record => hvalue record _⟩
    · rw [List.map_cons, hconditions]
      rfl
    · simp only [Chain.expr, clauseChain, hlinks, List.foldl_append, List.length_cons, Nat.add_comm 1]
      rfl

/-- The criteria of a query with one more condition behind it. -/
structure Joined (k : Connective) (first last joined : Criteria) : Prop where
  conditions : joined.conditions = first.conditions ++ last.conditions
  /-- The variable of the new condition is the next one. -/
  root : ∃ n, last.formula.root = signed n (.var 0) ∧
    joined.formula.root = .binary k first.formula.root (signed n (.var first.conditions.length))
  accepts : ∀ record, joined.accepts record = k.apply (first.accepts record) (last.accepts record)

theorem compile_joined {q token d : String} {k : Connective} {first last : Criteria}
    (hq : Criteria.compile q = .ok first) (hfew : first.conditions.length < maxConditions)
    (hsettled : EndsSettled q) (hk : Spells token k) (hd : Criteria.compile d = .ok last)
    (hsingle : last.conditions.length = 1) :
    ∃ joined, Criteria.compile (q ++ " " ++ token ++ " " ++ d) = .ok joined ∧
      Joined k first last joined := by
  obtain ⟨c, cs, hw, -, rfl⟩ := ofTokens_eq_ok_iff.mp (compile_eq_ok.mp hq)
  obtain ⟨d', ds, hwd, -, rfl⟩ := ofTokens_eq_ok_iff.mp (compile_eq_ok.mp hd)
  obtain rfl : ds = [] := by simpa using hsingle
  obtain ⟨hnext, left, operator, right, htokens, hread⟩ := hwd.single
  have htail : Tail (token :: tokenize d) (some k) [⟨d'.negated, d'.condition, none⟩] := by
    rw [htokens]
    exact .cons hk.connectiveOfToken? hread .nil
  obtain ⟨e, es, hwe, hconditions, hroot, hvalue⟩ := hw.append htail
  have hlength : (e :: es).length = (c :: cs).length + 1 := by
    simpa using congrArg List.length hconditions
  have hmax : (e :: es).length ≤ maxConditions := by
    rw [hlength]
    simpa using hfew
  refine ⟨⟨(e :: es).map (·.condition), generatedFormula e es⟩, ?_, ⟨hconditions, ⟨signsOf d', ?_, ?_⟩, ?_⟩⟩
  · rw [compile_eq_ok, tokenize_joined hsettled hk]
    exact ofTokens_eq_ok_iff.mpr ⟨e, es, hwe, hmax, rfl⟩
  · simp only [generatedFormula, Chain.expr, clauseChain, clauseLinks, hnext, List.foldl_nil]
  · simp only [generatedFormula, hroot, clauseLinks, List.foldl_cons, List.foldl_nil, Chain.join,
      List.length_map, Nat.zero_add]
    rfl
  · intro record
    rw [accepts_clauses, accepts_clauses, accepts_clauses, hvalue, hnext]
    rfl

end MediaCatalogue.Query
