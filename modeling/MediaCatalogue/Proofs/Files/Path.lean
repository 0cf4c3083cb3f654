import Mathlib
import MediaCatalogue.Files.Path
import MediaCatalogue.Proofs.Spans

/-! The segments of a path and the text that they make up. What a parent keeps of a path is the front of
its text. -/

namespace MediaCatalogue.Path

theorem splitAtSlash_ne_nil (cs : List Char) : splitAtSlash cs ≠ [] := by
  cases cs with
  | nil => simp [splitAtSlash]
  | cons c cs =>
    rw [splitAtSlash]
    split_ifs
    · simp
    · split <;> simp

@[simp]
theorem joinSegments_singleton (s : List Char) : joinSegments [s] = s := List.intercalate_singleton

theorem joinSegments_cons {s : List Char} {ss : List (List Char)} (h : ss ≠ []) :
    joinSegments (s :: ss) = s ++ '/' :: joinSegments ss := by
  obtain ⟨s', ss, rfl⟩ := List.exists_cons_of_ne_nil h
  rw [joinSegments, List.intercalate_cons_cons, List.append_assoc]
  rfl

theorem joinSegments_splitAtSlash (cs : List Char) : joinSegments (splitAtSlash cs) = cs := by
  induction cs with
  | nil => rfl
  | cons c cs ih =>
    have hne := splitAtSlash_ne_nil cs
    rw [splitAtSlash]
    split_ifs with hc
    · rw [joinSegments_cons hne, ih, hc]
      rfl
    · obtain ⟨s, ss, hcs⟩ := List.exists_cons_of_ne_nil hne
      rw [hcs] at ih ⊢
      cases ss with
      | nil => simpa using ih
      | cons s' ss =>
        rw [joinSegments_cons (List.cons_ne_nil _ _)] at ih ⊢
        rw [← ih, List.cons_append]

theorem slash_notMem_of_mem_splitAtSlash {cs s : List Char} (h : s ∈ splitAtSlash cs) : '/' ∉ s := by
  induction cs generalizing s with
  | nil =>
    obtain rfl := List.mem_singleton.mp h
    exact List.not_mem_nil
  | cons c cs ih =>
    obtain ⟨s', ss, hcs⟩ := List.exists_cons_of_ne_nil (splitAtSlash_ne_nil cs)
    rw [splitAtSlash] at h
    split_ifs at h with hc
    · obtain rfl | h := List.mem_cons.mp h
      · exact List.not_mem_nil
      · exact ih h
    · simp only [hcs] at h ih
      obtain rfl | h := List.mem_cons.mp h
      · rintro (_ | ⟨_, hmem⟩)
        · exact hc rfl
        · exact ih List.mem_cons_self hmem
      · exact ih (List.mem_cons_of_mem _ h)

theorem splitAtSlash_append {s : List Char} (hs : '/' ∉ s) (cs : List Char) :
    splitAtSlash (s ++ '/' :: cs) = s :: splitAtSlash cs := by
  induction s with
  | nil => simp [splitAtSlash]
  | cons c s ih =>
    rw [List.mem_cons, not_or] at hs
    rw [List.cons_append, splitAtSlash, if_neg (Ne.symm hs.1), ih hs.2]

theorem splitAtSlash_plain {s : List Char} (hs : '/' ∉ s) : splitAtSlash s = [s] := by
  induction s with
  | nil => rfl
  | cons c s ih =>
    rw [List.mem_cons, not_or] at hs
    rw [splitAtSlash, if_neg (Ne.symm hs.1), ih hs.2]

theorem splitAtSlash_joinSegments {ss : List (List Char)} (hss : ∀ s ∈ ss, '/' ∉ s) (hne : ss ≠ []) :
    splitAtSlash (joinSegments ss) = ss := by
  induction ss with
  | nil => exact absurd rfl hne
  | cons s ss ih =>
    have hs := hss s List.mem_cons_self
    cases ss with
    | nil => simpa using splitAtSlash_plain hs
    | cons s' ss =>
      rw [joinSegments_cons (List.cons_ne_nil _ _), splitAtSlash_append hs,
        ih (fun x hx => hss x (List.mem_cons_of_mem _ hx)) (List.cons_ne_nil _ _)]

theorem joinSegments_isPrefix (front rest : List (List Char)) :
    joinSegments front <+: joinSegments (front ++ rest) := by
  induction front with
  | nil => exact List.nil_prefix
  | cons s front ih =>
    cases front with
    | nil =>
      cases rest with
      | nil => exact List.prefix_rfl
      | cons r rest =>
        rw [List.singleton_append, joinSegments_cons (List.cons_ne_nil _ _), joinSegments_singleton]
        exact List.prefix_append _ _
    | cons s' front =>
      obtain ⟨more, hmore⟩ := ih
      refine ⟨more, ?_⟩
      rw [List.cons_append, joinSegments_cons (List.cons_ne_nil _ _),
        joinSegments_cons (List.append_ne_nil_of_left_ne_nil (List.cons_ne_nil _ _) _), ← hmore,
        List.append_assoc, List.cons_append]

theorem segments_split (p : Path) :
    (∃ body, body ≠ [] ∧ p.segments = [] :: body ∧ p.split = (.absolute, body)) ∨
      (∃ body, p.segments = ['.'] :: body ∧ p.split = (.dot, body)) ∨
      p.split = (.relative, p.segments) := by
  rw [split]
  split
  · next s ss heq => exact .inl ⟨s :: ss, List.cons_ne_nil _ _, heq, rfl⟩
  · next ss heq => exact .inr (.inl ⟨ss, heq, rfl⟩)
  · exact .inr (.inr rfl)

theorem slash_notMem_of_mem_split {p : Path} {s : List Char} (h : s ∈ p.split.2) : '/' ∉ s := by
  have hall : ∀ s ∈ p.segments, '/' ∉ s := fun _ => slash_notMem_of_mem_splitAtSlash
  obtain ⟨body, -, hsegments, hsplit⟩ | ⟨body, hsegments, hsplit⟩ | hsplit := p.segments_split
  · rw [hsplit] at h
    exact hall s (hsegments ▸ List.mem_cons_of_mem _ h)
  · rw [hsplit] at h
    exact hall s (hsegments ▸ List.mem_cons_of_mem _ h)
  · rw [hsplit] at h
    exact hall s h

theorem unsplit_split (p : Path) : unsplit p.split.1 p.split.2 = p := by
  have hchars : joinSegments p.segments = p.chars := joinSegments_splitAtSlash p.chars
  obtain ⟨body, hne, hsegments, hsplit⟩ | ⟨body, hsegments, hsplit⟩ | hsplit := p.segments_split
  · rw [hsegments, joinSegments_cons hne] at hchars
    rw [hsplit, unsplit]
    exact congrArg Path.mk hchars
  · rw [hsplit]
    cases body with
    | nil =>
      rw [hsegments] at hchars
      exact congrArg Path.mk hchars
    | cons s ss =>
      rw [hsegments, joinSegments_cons (List.cons_ne_nil _ _)] at hchars
      exact congrArg Path.mk hchars
  · rw [hsplit]
    exact congrArg Path.mk hchars

theorem chars_unsplit_isPrefix (lead : Lead) (front rest : List (List Char)) :
    (unsplit lead front).chars <+: (unsplit lead (front ++ rest)).chars := by
  have hjoin := joinSegments_isPrefix front rest
  cases lead with
  | absolute => exact List.cons_prefix_cons.mpr ⟨rfl, hjoin⟩
  | relative => exact hjoin
  | dot =>
    cases front with
    | nil => cases rest <;> simp [unsplit]
    | cons s front => simpa [unsplit] using hjoin

/-- A parent is what stands before the last segment that says something, or else the empty path. -/
theorem parent_eq_some {p q : Path} (h : p.parent? = some q) :
    (p.split.1 = .dot ∧ (∀ s ∈ p.split.2, isSkipped s = true) ∧ q = ⟨[]⟩) ∨
      ∃ front between s behind, p.split.2 = front ++ (between ++ s :: behind) ∧
        (∀ x ∈ between ++ behind, isSkipped x = true) ∧ isSkipped s = false ∧
        q = unsplit p.split.1 front := by
  rcases hsplit : p.split with ⟨lead, body⟩
  have hbody := List.takeWhile_append_dropWhile (p := isSkipped) (l := body.reverse)
  simp only [parent?, hsplit] at h
  split at h
  · next heq =>
    split_ifs at h with hdot
    refine .inl ⟨hdot, ?_, (Option.some.inj h).symm⟩
    intro s hs
    exact List.dropWhile_eq_nil_iff.mp heq s (List.mem_reverse.mpr hs)
  · next s rest heq =>
    obtain rfl := Option.some.inj h
    have hrest := List.takeWhile_append_dropWhile (p := isSkipped) (l := rest)
    refine .inr ⟨(rest.dropWhile isSkipped).reverse, (rest.takeWhile isSkipped).reverse, s,
      (body.reverse.takeWhile isSkipped).reverse, ?_, ?_, ?_, rfl⟩
    · have hreverse : rest.reverse =
          (rest.dropWhile isSkipped).reverse ++ (rest.takeWhile isSkipped).reverse := by
        rw [← List.reverse_append, hrest]
      calc body = (body.reverse.takeWhile isSkipped ++ s :: rest).reverse := by
            rw [← heq, hbody, List.reverse_reverse]
        _ = _ := by rw [List.reverse_append, List.reverse_cons, hreverse]; simp
    · intro x hx
      simp only [List.mem_append, List.mem_reverse] at hx
      exact hx.elim List.mem_takeWhile_imp List.mem_takeWhile_imp
    · exact eq_false_of_dropWhile heq

end MediaCatalogue.Path
