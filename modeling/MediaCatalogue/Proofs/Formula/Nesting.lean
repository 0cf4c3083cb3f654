import MediaCatalogue.Proofs.Formula.Grammar

/-! How deep parentheses nest, in a text and in a token list. For the content of a section this is the
depth that the grammar gives it. -/

namespace MediaCatalogue

namespace Formula

/-- The greatest number of sections open at once in a list, when `level` are open before it. -/
def deepest {α : Type} (opens closes : α → Bool) (level : Nat) : List α → Nat
  | [] => level
  | a :: as =>
    if opens a then deepest opens closes (level + 1) as
    else if closes a then max level (deepest opens closes (level - 1) as)
    else deepest opens closes level as

def nesting (text : List Char) : Nat := deepest (· == '(') (· == ')') 0 text

section
variable {α β : Type} {opens closes : α → Bool}

theorem le_deepest (level : Nat) (as : List α) : level ≤ deepest opens closes level as := by
  induction as generalizing level with
  | nil => exact Nat.le_refl _
  | cons a as ih =>
    unfold deepest
    split
    · exact Nat.le_of_succ_le (ih (level + 1))
    · split
      · exact Nat.le_max_left _ _
      · exact ih level

theorem deepest_map (opens' closes' : β → Bool) (f : α → β) (level : Nat) (as : List α)
    (h : ∀ a ∈ as, opens' (f a) = opens a ∧ closes' (f a) = closes a) :
    deepest opens' closes' level (as.map f) = deepest opens closes level as := by
  induction as generalizing level with
  | nil => rfl
  | cons a as ih =>
    have ih := fun level => ih level fun b hb => h b (List.mem_cons_of_mem a hb)
    simp only [List.map_cons, deepest, h a List.mem_cons_self, ih]

theorem deepest_filter {keep : α → Bool} (level : Nat) (as : List α)
    (h : ∀ a, keep a = false → opens a = false ∧ closes a = false) :
    deepest opens closes level (as.filter keep) = deepest opens closes level as := by
  induction as generalizing level with
  | nil => rfl
  | cons a as ih =>
    cases hk : keep a with
    | true => simp only [List.filter_cons_of_pos hk, deepest, ih]
    | false =>
      rw [List.filter_cons_of_neg (by simp [hk]), ih, deepest]
      simp [h a hk]

end

/-- Content of depth `d` goes `d` levels down and comes back to the level it starts from. -/
theorem Content.deepest {d : Nat} {ts : List Token} {ps : List Part} (h : Content d ts ps) :
    ∀ (level : Nat) (rest : List Token),
      deepest (· == .opening) (· == .closing) level (ts ++ rest) =
        max (level + d) (deepest (· == .opening) (· == .closing) level rest) := by
  induction h with
  | nil =>
    intro level rest
    exact (Nat.max_eq_right (le_deepest level rest)).symm
  | @plain d ts ps t p before part ih =>
    intro level rest
    have hplain : t ≠ .opening ∧ t ≠ .closing := by
      constructor <;> rintro rfl <;> cases part
    rw [List.append_assoc, ih, List.singleton_append, Formula.deepest]
    simp [hplain]
  | @group d d' ts us ps qs root before inner shape ih ih' =>
    intro level rest
    have hclose : Formula.deepest (· == Token.opening) (· == .closing) (level + 1) (.closing :: rest) =
        max (level + 1) (Formula.deepest (· == .opening) (· == .closing) level rest) := by
      simp [Formula.deepest]
    rw [List.append_assoc, ih, List.cons_append, List.append_assoc, List.singleton_append]
    rw [Formula.deepest, if_pos (by rfl), ih', hclose]
    omega

end Formula

end MediaCatalogue
