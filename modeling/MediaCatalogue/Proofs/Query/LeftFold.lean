import Mathlib
import MediaCatalogue.Proofs.Query.GeneratedFormula

/-! The verdict of criteria on a record, told from the tokens of the query alone: the values of the
conditions are combined from left to right, and no connective binds tighter than another. -/

namespace MediaCatalogue.Query

open Formula

def carriesSign (operator : String) : Bool := operator.toList.head? == some '!'

def unsignedToken (operator : String) : String :=
  if carriesSign operator then String.ofList operator.toList.tail else operator

/-- The text found for an operand, or else the operand itself. -/
def Lookup.textOr (operand : String) : Lookup → String
  | .value text => text
  | _ => operand

/-- The value of three tokens as a condition, if there is such an operator. An undefined operand makes
the condition false, and only then does the sign count. -/
def tripleValue (record : Record) (left operator right : String) : Option Bool :=
  (Operator.ofToken? (unsignedToken operator)).map fun o =>
    carriesSign operator ^^
      (record left != .undefined && record right != .undefined &&
        o.test ((record left).textOr left) ((record right).textOr right))

def combined (acc x : Bool) : Connective → Bool
  | .and => acc && x
  | .or => acc || x
  | .implies => !acc || x
  | .reverseImplies => acc || !x

/-- Combines `acc` with one condition after the other. -/
def foldRest (record : Record) (acc : Bool) : List String → Option Bool
  | [] => some acc
  | token :: left :: operator :: right :: rest => do
    let k ← connectiveOfToken? token
    let x ← tripleValue record left operator right
    foldRest record (combined acc x k) rest
  | _ => none

/-- The value of the tokens of a query, from left to right and without precedence. -/
def leftFold (record : Record) : List String → Option Bool
  | left :: operator :: right :: rest => do
    let x ← tripleValue record left operator right
    foldRest record x rest
  | _ => none

theorem signOf_eq (operator : String) :
    Clause.signOf operator = (carriesSign operator, unsignedToken operator) := by
  unfold Clause.signOf unsignedToken carriesSign
  split
  · next name h => simp [h]
  · next h =>
    have hhead : (operator.toList.head? == some '!') = false := by
      rw [beq_eq_false_iff_ne]
      intro hh
      obtain ⟨name, hname⟩ := List.head?_eq_some_iff.mp hh
      exact h name hname
    simp [hhead]

theorem combined_eq_apply (acc x : Bool) (k : Connective) : combined acc x k = k.apply acc x := by
  cases k <;> rfl

theorem test_eq (record : Record) (left right : String) (o : Operator) :
    Condition.test ⟨left, o, right⟩ record =
      (record left != .undefined && record right != .undefined &&
        o.test ((record left).textOr left) ((record right).textOr right)) := by
  unfold Condition.test resolve
  cases record left <;> cases record right <;> rfl

theorem conditionOf_eq_ok {left operator right : String} {negated : Bool} {condition : Condition}
    (h : Clause.conditionOf left operator right = .ok (negated, condition)) :
    ∃ o, Operator.ofToken? (unsignedToken operator) = some o ∧ negated = carriesSign operator ∧
      condition = ⟨left, o, right⟩ := by
  unfold Clause.conditionOf at h
  rw [signOf_eq] at h
  simp only at h
  split at h
  · cases h
  · next o ho =>
    split at h
    · cases h
      exact ⟨o, ho, rfl, rfl⟩
    · split at h
      · cases h
      · cases h
        exact ⟨o, ho, rfl, rfl⟩

theorem tripleValue_eq {left operator right : String} {negated : Bool} {condition : Condition}
    (h : Clause.conditionOf left operator right = .ok (negated, condition)) (record : Record) :
    tripleValue record left operator right = some (negated ^^ condition.test record) := by
  obtain ⟨o, ho, rfl, rfl⟩ := conditionOf_eq_ok h
  rw [tripleValue, ho, test_eq]
  rfl

/-- Combines `acc` with the values of clauses, of which the first stands behind the connective `k`. -/
def clausesValue (record : Record) (acc : Bool) : Option Connective → List Clause → Bool
  | some k, c :: cs =>
    clausesValue record (k.apply acc (c.negated ^^ c.condition.test record)) c.next cs
  | _, _ => acc

theorem foldRest_tail {tokens : List String} {k : Option Connective} {cs : List Clause}
    (h : Tail tokens k cs) (record : Record) (acc : Bool) :
    foldRest record acc tokens = some (clausesValue record acc k cs) := by
  induction h generalizing acc with
  | nil => rfl
  | cons joint head _ ih =>
    simp only [foldRest, joint, tripleValue_eq head record, Option.bind_eq_bind, Option.bind_some,
      combined_eq_apply, ih, clausesValue]

theorem eval_signed (b : List Bool) (n : Nat) (e : Expr) :
    (signed n e).eval b = (odd n ^^ e.eval b) := by
  rw [← signed_eq]
  cases odd n <;> simp [Expr.eval]

theorem odd_signsOf (c : Clause) : odd (signsOf c) = c.negated := by
  unfold signsOf
  cases c.negated <;> rfl

/-- Combines `acc` with values that clauses are given, of which the first stands behind the connective `k`. -/
def combine (acc : Bool) : Option Connective → List Clause → List Bool → Bool
  | some k, c :: cs, b :: bits => combine (k.apply acc (c.negated ^^ b)) c.next cs bits
  | _, _, _ => acc

theorem combine_test (record : Record) (cs : List Clause) (k : Option Connective) (acc : Bool) :
    combine acc k cs (cs.map (·.condition.test record)) = clausesValue record acc k cs := by
  induction cs generalizing k acc with
  | nil => cases k <;> rfl
  | cons c cs ih =>
    cases k with
    | none => rfl
    | some k => exact ih c.next _

/-- The variable behind the bits `before` has the value of the condition there. -/
theorem eval_links (cs : List Clause) (before bits : List Bool) (hlength : bits.length = cs.length)
    (k : Option Connective) (e : Expr) :
    ((clauseLinks before.length k cs).foldl Chain.join e).eval (before ++ bits) =
      combine (e.eval (before ++ bits)) k cs bits := by
  induction cs generalizing before bits k e with
  | nil => cases k <;> rfl
  | cons c cs ih =>
    obtain ⟨b, bits, rfl⟩ := List.exists_cons_of_length_eq_add_one hlength
    cases k with
    | none => rfl
    | some k =>
      have hbits : before ++ b :: bits = (before ++ [b]) ++ bits := by simp
      have hvar : (Expr.var before.length).eval (before ++ b :: bits) = b := by simp [Expr.eval]
      have ih := ih (before ++ [b]) bits (Nat.succ.inj hlength) c.next
        (Chain.join e ⟨0, k, signsOf c, .var before.length⟩)
      rw [List.length_append, List.length_singleton, ← hbits] at ih
      rw [clauseLinks, List.foldl_cons, ih, combine, Chain.join, Expr.eval, eval_signed, hvar,
        Nat.zero_add, odd_signsOf]

/-- The tree of a query joins any values of its conditions from left to right. -/
theorem eval_clauseChain_bits (c : Clause) {cs : List Clause} (b : Bool) {bits : List Bool}
    (hlength : bits.length = cs.length) :
    (clauseChain c cs).expr.eval (b :: bits) = combine (c.negated ^^ b) c.next cs bits := by
  have h := eval_links cs [b] bits hlength c.next (signed (signsOf c) (.var 0))
  rw [eval_signed, odd_signsOf] at h
  exact h

theorem eval_clauseChain (record : Record) (c : Clause) (cs : List Clause) :
    (clauseChain c cs).expr.eval ((c :: cs).map (·.condition.test record)) =
      clausesValue record (c.negated ^^ c.condition.test record) c.next cs := by
  rw [List.map_cons, eval_clauseChain_bits c _ (List.length_map ..), combine_test]

/-- The verdict of a query on any record is the left fold of the query's own tokens. -/
theorem accepts_eq_leftFold (query : String) (c : Criteria) (h : Criteria.compile query = .ok c)
    (record : Record) : leftFold record (tokenize query) = some (c.accepts record) := by
  have htokens : Criteria.ofTokens (tokenize query) = .ok c := by
    unfold Criteria.compile at h
    split at h
    · next hc => rw [hc, Except.ok.inj h]
    · cases h
  generalize tokenize query = tokens at htokens ⊢
  obtain ⟨first, rest, hw, -, rfl⟩ := ofTokens_eq_ok_iff.mp htokens
  have hvalue := eval_clauseChain record first rest
  cases hw with
  | mk head tail =>
    simp only [leftFold, tripleValue_eq head record, Option.bind_eq_bind, Option.bind_some,
      foldRest_tail tail record]
    rw [Criteria.accepts, Criteria.bits, List.map_map]
    exact congrArg some hvalue.symm

/-- A negated condition on an undefined field is true, and the last connective decides. -/
theorem accepts_eq_leftFold_undefined :
    ∃ c, Criteria.compile "dub != German or name = x and name = y" = .ok c ∧
      c.accepts (fun operand => if operand = "dub" then .undefined else .unknown) = false := by
  have hc : Criteria.compile "dub != German or name = x and name = y" =
      .ok ⟨[⟨"dub", .equals, "German"⟩, ⟨"name", .equals, "x"⟩, ⟨"name", .equals, "y"⟩],
        ⟨"(¬AvB^C)".toList, ['A', 'B', 'C'],
          .binary .and (.binary .or (.not (.var 0)) (.var 1)) (.var 2)⟩⟩ := by cbv
  have h := accepts_eq_leftFold _ _ hc fun operand => if operand = "dub" then .undefined else .unknown
  have hfold : leftFold (fun operand => if operand = "dub" then .undefined else .unknown)
      (tokenize "dub != German or name = x and name = y") = some false := by cbv
  exact ⟨_, hc, Option.some.inj (h.symm.trans hfold)⟩

end MediaCatalogue.Query
