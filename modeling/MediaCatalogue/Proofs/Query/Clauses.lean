import MediaCatalogue.Query.Criteria
import MediaCatalogue.Proofs.Fallible

/-! The clauses of a token list, as a relation: conditions of three tokens with a connective token
between any two of them. Reading a list of the right length is deciding this relation. -/

namespace MediaCatalogue.Query

/-- The tokens behind a condition, with the connective that they start with and the clauses after it. -/
inductive Tail : List String → Option Connective → List Clause → Prop where
  | nil : Tail [] none []
  | cons {token left operator right : String} {k : Connective} {negated : Bool} {condition : Condition}
      {rest : List String} {next : Option Connective} {cs : List Clause}
      (joint : connectiveOfToken? token = some k)
      (head : Clause.conditionOf left operator right = .ok (negated, condition))
      (tail : Tail rest next cs) :
      Tail (token :: left :: operator :: right :: rest) (some k) (⟨negated, condition, next⟩ :: cs)

inductive Written : List String → Clause → List Clause → Prop where
  | mk {left operator right : String} {negated : Bool} {condition : Condition} {rest : List String}
      {next : Option Connective} {cs : List Clause}
      (head : Clause.conditionOf left operator right = .ok (negated, condition))
      (tail : Tail rest next cs) :
      Written (left :: operator :: right :: rest) ⟨negated, condition, next⟩ cs

theorem Tail.length {tokens : List String} {k : Option Connective} {cs : List Clause}
    (h : Tail tokens k cs) : tokens.length = 4 * cs.length := by
  induction h with
  | nil => rfl
  | cons _ _ _ ih =>
    simp only [List.length_cons, ih]
    omega

theorem Written.length {tokens : List String} {c : Clause} {cs : List Clause}
    (h : Written tokens c cs) : tokens.length = 4 * cs.length + 3 := by
  cases h with
  | mk _ tail => simp [tail.length]

theorem written_of_readAll {count : Nat} {tokens : List String} {clauses : List Clause}
    (h : Clause.readAll count tokens = .ok clauses) (hlen : tokens.length % 4 = 3) :
    ∃ c cs, clauses = c :: cs ∧ Written tokens c cs := by
  induction tokens using Clause.readAll.induct generalizing clauses with
  | case1 => cases hlen
  | case2 left operator right rest ih =>
    rw [Clause.readAll, bind_eq_ok] at h
    obtain ⟨⟨negated, condition⟩, hhead, h⟩ := h
    cases rest with
    | nil =>
      cases h
      exact ⟨_, _, rfl, .mk hhead .nil⟩
    | cons token rest =>
      cases hk : connectiveOfToken? token with
      | none =>
        simp only [hk] at h
        cases h
      | some k =>
        simp only [hk, bind_eq_ok] at h
        obtain ⟨clauses', hrest, h⟩ := h
        cases h
        obtain ⟨c, cs, rfl, hw⟩ := ih hrest (by simp only [List.length_cons] at hlen; omega)
        cases hw with
        | mk hhead' tail => exact ⟨_, _, rfl, .mk hhead (.cons hk hhead' tail)⟩
  | case3 tokens hnil hcons =>
    -- fewer than three tokens, but at least one
    rw [Clause.readAll] at h
    · cases h
    · exact hnil
    · exact hcons

theorem readAll_of_written (count : Nat) {tokens : List String} {c : Clause} {cs : List Clause}
    (h : Written tokens c cs) : Clause.readAll count tokens = .ok (c :: cs) := by
  induction cs generalizing tokens c with
  | nil =>
    cases h with
    | mk head tail =>
      cases tail with
      | nil =>
        rw [Clause.readAll, head]
        rfl
  | cons c' cs ih =>
    cases h with
    | mk head tail =>
      cases tail with
      | cons joint head' tail =>
        rw [Clause.readAll, head]
        simp only [bind, Except.bind, joint, ih (.mk head' tail)]
        rfl

/-- What a query compiles to, in terms of its clauses. -/
theorem ofTokens_eq_ok {tokens : List String} {criteria : Criteria} :
    Criteria.ofTokens tokens = .ok criteria ↔
      ∃ c cs, Written tokens c cs ∧ (c :: cs).length ≤ maxConditions ∧
        criteria.conditions = (c :: cs).map (·.condition) ∧
        Formula.parse (formulaText (c :: cs)) = .ok criteria.formula := by
  unfold Criteria.ofTokens
  constructor
  · intro h
    simp only at h
    split at h
    · cases h
    · next hlen =>
      have hlen : 3 ≤ tokens.length ∧ (tokens.length - 3) % 4 = 0 := by simpa using hlen
      split at h
      · cases h
      · next hmax =>
        obtain ⟨clauses, hread, h⟩ := bind_eq_ok.mp h
        obtain ⟨c, cs, rfl, hw⟩ := written_of_readAll hread (by omega)
        have := hw.length
        split at h
        · cases h
        · next formula hformula =>
          cases h
          refine ⟨c, cs, hw, ?_, rfl, hformula⟩
          simp only [List.length_cons]
          omega
  · rintro ⟨c, cs, hw, hmax, hconditions, hformula⟩
    have := hw.length
    simp only [List.length_cons] at hmax
    rw [if_neg (by simp; omega), if_neg (by omega), readAll_of_written _ hw]
    simp only [bind, Except.bind, hformula, ← hconditions]
    rfl

end MediaCatalogue.Query
