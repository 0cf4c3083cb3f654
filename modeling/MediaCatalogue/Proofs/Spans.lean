/-! Lists that are cut in front of the first member of a kind. -/

namespace MediaCatalogue

section

variable {α : Type} {p : α → Bool} {front rest : List α}

theorem takeWhile_span (hfront : ∀ a ∈ front, p a = true) (hrest : ∀ a ∈ rest.head?, p a = false) :
    (front ++ rest).takeWhile p = front := by
  rw [List.takeWhile_append_of_pos hfront]
  cases rest with
  | nil => simp
  | cons a rest => simp [hrest a rfl]

theorem dropWhile_span (hfront : ∀ a ∈ front, p a = true) (hrest : ∀ a ∈ rest.head?, p a = false) :
    (front ++ rest).dropWhile p = rest := by
  rw [List.dropWhile_append_of_pos hfront]
  cases rest with
  | nil => rfl
  | cons a rest => simp [hrest a rfl]

theorem eq_false_of_dropWhile {l : List α} {a : α} (h : l.dropWhile p = a :: rest) : p a = false := by
  simpa [h] using List.head_dropWhile_not p (l := l) (by simp [h])

/-- A list has only one such cut. -/
theorem span_inj {front' rest' : List α} (hfront : ∀ a ∈ front, p a = true)
    (hfront' : ∀ a ∈ front', p a = true) (hrest : ∀ a ∈ rest.head?, p a = false)
    (hrest' : ∀ a ∈ rest'.head?, p a = false) (h : front ++ rest = front' ++ rest') :
    front = front' ∧ rest = rest' := by
  have hbefore := congrArg (List.takeWhile p) h
  have hbehind := congrArg (List.dropWhile p) h
  rw [takeWhile_span hfront hrest, takeWhile_span hfront' hrest'] at hbefore
  rw [dropWhile_span hfront hrest, dropWhile_span hfront' hrest'] at hbehind
  exact ⟨hbefore, hbehind⟩

end

variable {mark : Char} {front : List Char}

theorem bne_mark (h : mark ∉ front) : ∀ c ∈ front, (c != mark) = true := by
  intro c hc
  rw [bne_iff_ne]
  rintro rfl
  exact h hc

theorem takeWhile_mark (h : mark ∉ front) (back : List Char) :
    (front ++ mark :: back).takeWhile (· != mark) = front :=
  takeWhile_span (bne_mark h) (by simp)

theorem dropWhile_mark (h : mark ∉ front) (back : List Char) :
    (front ++ mark :: back).dropWhile (· != mark) = mark :: back :=
  dropWhile_span (bne_mark h) (by simp)

end MediaCatalogue
