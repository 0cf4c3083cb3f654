/-! The distinct members of a list in order of their first occurrence. -/

namespace MediaCatalogue

variable {α β : Type} [BEq α] [LawfulBEq α] [BEq β] [LawfulBEq β]

theorem eraseDups_of_nodup {l : List α} (h : l.Nodup) : l.eraseDups = l := by
  induction l with
  | nil => rfl
  | cons a as ih =>
    rw [List.nodup_cons] at h
    rw [List.eraseDups_cons, List.filter_eq_self.mpr, ih h.2]
    intro b hb
    have hne : b ≠ a := fun he => h.1 (he ▸ hb)
    simpa using hne

theorem beq_map {f : α → β} {a b : α} (hf : f a = f b → a = b) : (f a == f b) = (a == b) := by
  rw [Bool.eq_iff_iff, beq_iff_eq, beq_iff_eq]
  exact ⟨hf, fun h => h ▸ rfl⟩

/-- Renaming members apart from each other keeps their first occurrences. -/
theorem eraseDups_map {f : α → β} (l : List α) (hf : ∀ a ∈ l, ∀ b ∈ l, f a = f b → a = b) :
    (l.map f).eraseDups = l.eraseDups.map f := by
  match l with
  | [] => rfl
  | a :: as =>
    have hfilter : as.filter ((fun b => !b == f a) ∘ f) = as.filter (fun b => !b == a) := by
      apply List.filter_congr
      intro b hb
      have hba := beq_map (hf b (List.mem_cons_of_mem a hb) a List.mem_cons_self)
      simp only [Function.comp_apply, hba]
    rw [List.map_cons, List.eraseDups_cons, List.eraseDups_cons, List.map_cons, List.filter_map, hfilter]
    rw [eraseDups_map]
    intro b hb c hc
    exact hf b (List.mem_cons_of_mem a (List.mem_filter.mp hb).1) c
      (List.mem_cons_of_mem a (List.mem_filter.mp hc).1)
termination_by l.length
decreasing_by exact Nat.lt_succ_of_le (List.length_filter_le _ _)

theorem idxOf_map {f : α → β} {l : List α} {a : α} (hf : ∀ b ∈ l, f b = f a → b = a) :
    (l.map f).idxOf (f a) = l.idxOf a := by
  induction l with
  | nil => rfl
  | cons b bs ih =>
    rw [List.map_cons, List.idxOf_cons, List.idxOf_cons, beq_map (hf b List.mem_cons_self),
      ih fun c hc => hf c (List.mem_cons_of_mem b hc)]

theorem idxOf_filter_lt {p : α → Bool} {l : List α} {a b : α} (ha : p a = true) (hb : p b = true)
    (h : (l.filter p).idxOf a < (l.filter p).idxOf b) : l.idxOf a < l.idxOf b := by
  induction l with
  | nil => exact h
  | cons c l ih =>
    have hne : p c = false → ∀ d, p d = true → (c == d) = false := by
      intro hc d hd
      rw [beq_eq_false_iff_ne]
      rintro rfl
      simp [hd] at hc
    cases hc : p c with
    | false =>
      rw [List.filter_cons_of_neg (by simp [hc])] at h
      simp only [List.idxOf_cons, hne hc a ha, hne hc b hb, cond_false]
      exact Nat.succ_lt_succ (ih h)
    | true =>
      rw [List.filter_cons_of_pos hc] at h
      simp only [List.idxOf_cons] at h ⊢
      cases hca : c == a <;> cases hcb : c == b <;> simp only [hca, hcb, cond_true, cond_false] at h ⊢
      · exact Nat.succ_lt_succ (ih (Nat.lt_of_succ_lt_succ h))
      · cases h
      · exact Nat.succ_pos _
      · cases h

/-- The distinct members stand in the order in which they occur first. -/
theorem pairwise_eraseDups (l : List α) : l.eraseDups.Pairwise fun a b => l.idxOf a < l.idxOf b := by
  match l with
  | [] => exact .nil
  | a :: as =>
    have hne : ∀ b ∈ (as.filter fun b => !b == a).eraseDups, (a == b) = false := by
      intro b hb
      have hb : (!b == a) = true := (List.mem_filter.mp (List.mem_eraseDups.mp hb)).2
      rw [beq_eq_false_iff_ne]
      rintro rfl
      simp at hb
    rw [List.eraseDups_cons]
    refine .cons (fun b hb => ?_) ?_
    · simp [List.idxOf_cons, hne b hb]
    · refine (pairwise_eraseDups (as.filter fun b => !b == a)).imp_of_mem fun {b c} hb hc hbc => ?_
      have hb' : (!b == a) = true := (List.mem_filter.mp (List.mem_eraseDups.mp hb)).2
      have hc' : (!c == a) = true := (List.mem_filter.mp (List.mem_eraseDups.mp hc)).2
      simp only [List.idxOf_cons, hne b hb, hne c hc, cond_false]
      exact Nat.succ_lt_succ (idxOf_filter_lt (p := fun b => !b == a) hb' hc' hbc)
termination_by l.length
decreasing_by exact Nat.lt_succ_of_le (List.length_filter_le _ _)

theorem eraseDups_concat (l : List α) (a : α) :
    (l ++ [a]).eraseDups = if a ∈ l then l.eraseDups else l.eraseDups ++ [a] := by
  rw [List.eraseDups_append]
  by_cases ha : a ∈ l
  · rw [if_pos ha, List.removeAll, List.filter_cons_of_neg (by simpa using ha)]
    exact List.append_nil _
  · rw [if_neg ha, List.removeAll, List.filter_cons_of_pos (by simpa using ha)]
    rfl

end MediaCatalogue
