import Mathlib

/-! Texts as lines, and lines as parts. -/

namespace MediaCatalogue

def textLines (text : String) : List (List Char) := text.toList.splitOn '\n'

theorem newline_notMem_splitOn {cs line : List Char} (h : line ∈ cs.splitOn '\n') : '\n' ∉ line := by
  induction cs generalizing line with
  | nil =>
    obtain rfl := List.mem_singleton.mp h
    exact List.not_mem_nil
  | cons c cs ih =>
    rw [List.splitOn_cons_eq_if_modifyHead] at h
    obtain ⟨first, more, hlines⟩ := List.exists_cons_of_ne_nil (List.splitOn_ne_nil '\n' cs)
    rw [hlines] at h ih
    split_ifs at h with hc
    · rcases List.mem_cons.mp h with rfl | h
      · exact List.not_mem_nil
      · exact ih h
    · rcases List.mem_cons.mp h with rfl | h
      · have hne : '\n' ≠ c := fun hc' => hc (hc' ▸ beq_self_eq_true _)
        exact List.not_mem_cons_of_ne_of_not_mem hne (ih List.mem_cons_self)
      · exact ih (List.mem_cons_of_mem _ h)

/-- Parts with a mark behind each are told apart by the mark. -/
theorem splitOn_flatMap {mark : Char} {parts : List (List Char)} {last : List Char}
    (hparts : ∀ p ∈ parts, mark ∉ p) (hlast : mark ∉ last) :
    (parts.flatMap (· ++ [mark]) ++ last).splitOn mark = parts ++ [last] := by
  induction parts with
  | nil => exact List.splitOn_eq_singleton hlast
  | cons p parts ih =>
    rw [List.flatMap_cons, List.append_assoc, List.append_assoc, List.singleton_append,
      List.splitOn_append_cons_self_of_not_mem (hparts p List.mem_cons_self),
      ih fun q hq => hparts q (List.mem_cons_of_mem p hq), List.cons_append]

theorem toList_pushn (s : String) (c : Char) (n : Nat) :
    (s.pushn c n).toList = s.toList ++ List.replicate n c := by
  induction n with
  | zero => exact (List.append_nil _).symm
  | succ n ih =>
    have hpush : s.pushn c (n + 1) = (s.pushn c n).push c := rfl
    rw [hpush, String.toList_push, ih, List.append_assoc, ← List.replicate_succ']

end MediaCatalogue
