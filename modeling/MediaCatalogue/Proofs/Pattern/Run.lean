import MediaCatalogue.Proofs.Pattern.Reader

/-! Patterns are read in runs of steps, one for each element. A run goes on behind the pattern, unless that
ends in a comment, and a group around the pattern does not change it. -/

namespace MediaCatalogue.Pattern

/-- Reading a text element by element up to its end. -/
inductive Run : Reading → List Char → Reading → Prop where
  | done {r : Reading} {cs : List Char} (skipped : skip r.verbose cs = []) : Run r cs r
  | step {r next last : Reading} {c : Char} {cs tail rest : List Char}
    (skipped : skip r.verbose cs = c :: tail) (element : readElement r c tail = .ok (next, rest))
    (run : Run next rest last) : Run r cs last

section
variable {r last : Reading} {c : Char} {cs tail : List Char}

theorem run_nil (h : skip r.verbose cs = []) : Run r cs last ↔ last = r := by
  constructor
  · rintro (_ | ⟨skipped, -, -⟩)
    · rfl
    · rw [h] at skipped
      cases skipped
  · rintro rfl
    exact .done h

theorem run_cons (h : skip r.verbose cs = c :: tail) :
    Run r cs last ↔ ∃ next rest, readElement r c tail = .ok (next, rest) ∧ Run next rest last := by
  constructor
  · rintro (skipped | ⟨skipped, element, run⟩)
    · rw [h] at skipped
      cases skipped
    · rw [h] at skipped
      obtain ⟨rfl, rfl⟩ := List.cons.inj skipped
      exact ⟨_, _, element, run⟩
  · rintro ⟨next, rest, element, run⟩
    exact .step h element run

/-- An element leaves less than its text, so fuel beyond the length of the text is enough for a run. -/
theorem readElements_iff {fuel : Nat} (hfuel : cs.length < fuel) :
    readElements fuel r cs = .ok last ↔ Run r cs last := by
  induction fuel generalizing r cs with
  | zero => exact absurd hfuel (Nat.not_lt_zero _)
  | succ fuel ih =>
    rw [readElements]
    cases hskip : skip r.verbose cs with
    | nil => rw [run_nil hskip, Except.ok.injEq, eq_comm]
    | cons c tail =>
      rw [run_cons hskip, bind_eq_ok, Prod.exists]
      refine exists_congr fun next => exists_congr fun rest => and_congr_right fun element => ih ?_
      have hrest := (reads_element element).suffix.length_le
      have htail := (suffix_of_skip hskip).length_le
      rw [List.length_cons] at htail
      omega

theorem Run.unique {last' : Reading} (h : Run r cs last) (h' : Run r cs last') : last = last' := by
  have hread := (readElements_iff (Nat.lt_succ_self cs.length)).mpr h
  rw [(readElements_iff (Nat.lt_succ_self cs.length)).mpr h'] at hread
  exact (Except.ok.inj hread).symm

end

/-- The same with one more open group around all others. -/
def Reading.inside (g : OpenGroup) (r : Reading) : Reading := { r with outer := r.outer ++ [g] }

section
variable {g : OpenGroup} {r r' : Reading}

theorem leave_inside (h : r.leave = .ok r') : (r.inside g).leave = .ok (r'.inside g) := by
  unfold Reading.leave at h ⊢
  cases houter : r.outer with
  | nil =>
    rw [houter] at h
    cases h
  | cons top outer =>
    rw [houter] at h
    obtain rfl := Except.ok.inj h
    simp only [Reading.inside, houter]
    rfl

theorem repeated_inside {least : Nat} {most : Option Nat} (h : r.repeated least most = .ok r') :
    (r.inside g).repeated least most = .ok (r'.inside g) := by
  unfold Reading.repeated at h ⊢
  simp only [Reading.inside]
  split at h
  · cases h
  · cases h
  · obtain rfl := Except.ok.inj h
    rfl

theorem named_inside {cs rest : List Char} (h : readNamed r cs = .ok (r', rest)) :
    readNamed (r.inside g) cs = .ok (r'.inside g, rest) := by
  obtain ⟨⟨name, behind⟩, hname, hpure⟩ := bind_eq_ok.mp h
  obtain ⟨rfl, rfl⟩ := Prod.mk.inj (Except.ok.inj hpure)
  exact bind_eq_ok.mpr ⟨(name, behind), hname, rfl⟩

theorem flagged_inside {cs rest : List Char} (h : readFlagged r cs = .ok (r', rest)) :
    readFlagged (r.inside g) cs = .ok (r'.inside g, rest) := by
  obtain ⟨⟨changes, behind⟩, hflags, h⟩ := bind_eq_ok.mp h
  refine bind_eq_ok.mpr ⟨(changes, behind), hflags, ?_⟩
  simp only at h ⊢
  split at h
  · split_ifs at h ⊢
    obtain ⟨rfl, rfl⟩ := Prod.mk.inj (Except.ok.inj h)
    rfl
  · obtain ⟨rfl, rfl⟩ := Prod.mk.inj (Except.ok.inj h)
    rfl

theorem group_inside {cs rest : List Char} (h : readGroup r cs = .ok (r', rest)) :
    readGroup (r.inside g) cs = .ok (r'.inside g, rest) := by
  cases hskip : skip r.verbose cs with
  | nil =>
    rw [readGroup_end hskip] at h
    obtain ⟨rfl, rfl⟩ := Prod.mk.inj (Except.ok.inj h)
    exact readGroup_end hskip
  | cons c tail =>
    by_cases hc : c = '?'
    · subst hc
      rcases group_start hskip h with ⟨c, name, rfl, hc⟩ | ⟨name, rfl⟩ | ⟨c, flags, rfl, hc⟩
      · rw [readGroup_named hskip hc] at h
        exact (readGroup_named (r := r.inside g) hskip hc).trans (named_inside h)
      · rw [readGroup_namedWord hskip] at h
        exact (readGroup_namedWord (r := r.inside g) hskip).trans (named_inside h)
      · rw [readGroup_flags hskip hc] at h
        exact (readGroup_flags (r := r.inside g) hskip hc).trans (flagged_inside h)
    · rw [readGroup_plain hskip hc] at h
      obtain ⟨rfl, rfl⟩ := Prod.mk.inj (Except.ok.inj h)
      exact readGroup_plain hskip hc

theorem element_inside {c : Char} {cs rest : List Char} (h : readElement r c cs = .ok (r', rest)) :
    readElement (r.inside g) c cs = .ok (r'.inside g, rest) := by
  revert h
  fun_cases readElement r c cs <;> intro h
  case case1 => exact group_inside h
  case case2 =>
    obtain ⟨left, hleave, hpure⟩ := bind_eq_ok.mp h
    obtain ⟨rfl, rfl⟩ := Prod.mk.inj (Except.ok.inj hpure)
    exact bind_eq_ok.mpr ⟨left.inside g, leave_inside hleave, rfl⟩
  case case4 | case9 =>
    obtain ⟨found, hfound, hpure⟩ := bind_eq_ok.mp h
    obtain ⟨rfl, rfl⟩ := Prod.mk.inj (Except.ok.inj hpure)
    exact bind_eq_ok.mpr ⟨found, hfound, rfl⟩
  case case5 | case6 | case7 =>
    obtain ⟨repeated, hrepeated, hpure⟩ := bind_eq_ok.mp h
    obtain ⟨rfl, rfl⟩ := Prod.mk.inj (Except.ok.inj hpure)
    exact bind_eq_ok.mpr ⟨repeated.inside g, repeated_inside hrepeated, rfl⟩
  case case8 =>
    obtain ⟨⟨⟨least, most⟩, behind⟩, hcounts, h⟩ := bind_eq_ok.mp h
    obtain ⟨repeated, hrepeated, hpure⟩ := bind_eq_ok.mp h
    obtain ⟨rfl, rfl⟩ := Prod.mk.inj (Except.ok.inj hpure)
    refine bind_eq_ok.mpr ⟨((least, most), behind), hcounts, ?_⟩
    exact bind_eq_ok.mpr ⟨repeated.inside g, repeated_inside hrepeated, rfl⟩
  case case3 | case10 | case11 | case12 =>
    obtain ⟨rfl, rfl⟩ := Prod.mk.inj (Except.ok.inj h)
    rfl
  case case13 =>
    obtain ⟨rfl, rfl⟩ := Prod.mk.inj (Except.ok.inj h)
    rw [readElement] <;> first | rfl | assumption

end

theorem Run.inside {r last : Reading} {cs : List Char} (g : OpenGroup) (h : Run r cs last) :
    Run (r.inside g) cs (last.inside g) := by
  induction h with
  | done skipped => exact .done skipped
  | step skipped element run ih => exact .step skipped (element_inside element) ih

theorem skip_closing (verbose : Bool) (cs : List Char) : skip verbose (')' :: cs) = ')' :: cs := by
  cases verbose <;> rfl

/-- A run inside a group goes on at a parenthesis behind its text, or the text ends in a comment, which takes
in all that is behind. -/
theorem Run.further {r last : Reading} {cs : List Char} (g : OpenGroup) (h : Run r cs last) :
    (∀ more final, Run (last.inside g) (')' :: more) final →
        Run (r.inside g) (cs ++ ')' :: more) final) ∨
      (Marked cs ∧ ∀ more, '\n' ∉ more → Run r (cs ++ more) last) := by
  induction h with
  | @done r cs skipped =>
    refine (skip_append_nil skipped).imp (fun hmore more final hfinal => ?_) fun hmarked => ?_
    · have hskip : skip (r.inside g).verbose (cs ++ ')' :: more) = ')' :: more := hmore more
      exact (run_cons hskip).mpr ((run_cons (skip_closing _ more)).mp hfinal)
    · exact hmarked.imp_right fun hmore more hline => .done (hmore more hline)
  | @step r next last c cs tail rest skipped element run ih =>
    have htail := tail_suffix_of_skip skipped
    cases (reads_element element).further with
    | apart read =>
      refine ih.imp (fun hmore more final hfinal => ?_) fun ⟨marked, hmore⟩ => ⟨?_, fun more hline => ?_⟩
      · have hnext := hmore more final hfinal
        exact .step (skip_append_cons skipped _) (element_inside (read _)) hnext
      · exact marked.of_suffix ((reads_element element).suffix.trans htail)
      · exact .step (skip_append_cons skipped _) (read _) (hmore more hline)
    | closing read =>
      obtain rfl := (run_nil (by cases next.verbose <;> rfl)).mp run
      refine .inl fun more final hfinal => ?_
      exact .step (skip_append_cons skipped _) (element_inside (read more)) hfinal
    | comment marked read =>
      refine .inr ⟨marked.of_suffix htail, fun more hline => ?_⟩
      exact .step (skip_append_cons skipped _) (read more hline) run

end MediaCatalogue.Pattern
