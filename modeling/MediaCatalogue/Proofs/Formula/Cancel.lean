import MediaCatalogue.Proofs.Formula.Frame

/-! Two changes of a tree: another numbering of its variables, and the removal of negations that
cancel. Neither changes the value of the tree. -/

namespace MediaCatalogue

namespace Expr

open Formula

def rename (φ : Nat → Nat) : Expr → Expr
  | var i => var (φ i)
  | not e => not (e.rename φ)
  | binary c l r => binary c (l.rename φ) (r.rename φ)

def cancel : Expr → Expr
  | var i => var i
  | not (not e) => e.cancel
  | not e => not e.cancel
  | binary c l r => binary c l.cancel r.cancel

def signs : Expr → Nat
  | not e => e.signs + 1
  | _ => 0

/-- The tree under the negations at the root. -/
def core : Expr → Expr
  | not e => e.core
  | e => e

theorem signed_add_two (n : Nat) (e : Expr) : signed (n + 2) e = signed n e := by
  simp [signed]

/-- Of `n` negations in a row the parity is left. -/
theorem cancel_eq (e : Expr) : e.cancel = signed e.signs e.core.cancel := by
  induction e using cancel.induct with
  | case1 i => rfl
  | case2 e ih => rw [cancel, ih, signs, signs, signed_add_two, core, core]
  | case3 e hne ih =>
    cases e with
    | not e => exact absurd rfl (hne e)
    | var i => rfl
    | binary c l r => rfl
  | case4 c l r ihl ihr => rfl

theorem eval_cancel (b : List Bool) (e : Expr) : e.cancel.eval b = e.eval b := by
  induction e using cancel.induct with
  | case1 i => rfl
  | case2 e ih => rw [cancel, ih, eval, eval, Bool.not_not]
  | case3 e hne ih => rw [cancel, eval, eval, ih]; exact hne
  | case4 c l r ihl ihr => rw [cancel, eval, eval, ihl, ihr]

theorem leaves_cancel (e : Expr) : e.cancel.leaves = e.leaves := by
  induction e using cancel.induct with
  | case1 i => rfl
  | case2 e ih => rw [cancel, ih, leaves, leaves]
  | case3 e hne ih => rw [cancel, leaves, leaves, ih]; exact hne
  | case4 c l r ihl ihr => rw [cancel, leaves, leaves, ihl, ihr]

theorem eval_rename {φ : Nat → Nat} {b b' : List Bool} (e : Expr)
    (h : ∀ i ∈ e.leaves, b'.getD (φ i) false = b.getD i false) :
    (e.rename φ).eval b' = e.eval b := by
  induction e with
  | var i => exact h i (List.mem_singleton_self i)
  | not e ih => rw [rename, eval, eval, ih h]
  | binary c l r ihl ihr =>
    rw [rename, eval, eval, ihl fun i hi => h i (List.mem_append_left _ hi),
      ihr fun i hi => h i (List.mem_append_right _ hi)]

theorem rename_congr {φ ψ : Nat → Nat} (e : Expr) (h : ∀ i ∈ e.leaves, φ i = ψ i) :
    e.rename φ = e.rename ψ := by
  induction e with
  | var i => rw [rename, rename, h i (List.mem_singleton_self i)]
  | not e ih => rw [rename, rename, ih h]
  | binary c l r ihl ihr =>
    rw [rename, rename, ihl fun i hi => h i (List.mem_append_left _ hi),
      ihr fun i hi => h i (List.mem_append_right _ hi)]

theorem rename_id (e : Expr) : e.rename id = e := by
  induction e with
  | var i => rfl
  | not e ih => rw [rename, ih]
  | binary c l r ihl ihr => rw [rename, ihl, ihr]

theorem rename_signed (φ : Nat → Nat) (n : Nat) (e : Expr) :
    (signed n e).rename φ = signed n (e.rename φ) := by
  unfold signed
  split <;> rfl

theorem le_maxVariable {e : Expr} {i : Nat} (h : i ∈ e.leaves) : i ≤ e.maxVariable := by
  induction e with
  | var j => exact Nat.le_of_eq (List.mem_singleton.mp h)
  | not e ih => exact ih h
  | binary c l r ihl ihr =>
    rcases List.mem_append.mp h with h | h
    · exact Nat.le_trans (ihl h) (Nat.le_max_left _ _)
    · exact Nat.le_trans (ihr h) (Nat.le_max_right _ _)

end Expr

end MediaCatalogue
