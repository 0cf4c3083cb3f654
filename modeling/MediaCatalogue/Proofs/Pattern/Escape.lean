import Mathlib
import MediaCatalogue.Pattern.Escape
import MediaCatalogue.Proofs.Fallible

/-! Reading on where a text went on. What a reader takes of a text does not depend on what is behind it,
with two exceptions. A reader that has come to the end of the text may take a question mark or the like as
well, but no closing parenthesis; and in verbose mode the text may end in a comment, which then goes on to
the end of the line. -/

namespace MediaCatalogue.Pattern

/-- The last line holds the mark of a comment. -/
def Marked (cs : List Char) : Prop := ∃ front back, cs = front ++ '#' :: back ∧ '\n' ∉ back

theorem Marked.of_suffix {cs cs' : List Char} (h : Marked cs) (hcs : cs <:+ cs') : Marked cs' := by
  obtain ⟨front, back, rfl, hline⟩ := h
  obtain ⟨lead, rfl⟩ := hcs
  exact ⟨lead ++ front, back, (List.append_assoc _ _ _).symm, hline⟩

/-- What a reader makes of longer texts than `cs`, of which it leaves `rest`. -/
inductive Further {α : Type} (R : List Char → Except Fault (Parsed α)) (cs : List Char) (a : α) :
    List Char → Prop where
  | apart {rest : List Char} (read : ∀ more, R (cs ++ more) = .ok (a, rest ++ more)) : Further R cs a rest
  | closing (read : ∀ more, R (cs ++ ')' :: more) = .ok (a, ')' :: more)) : Further R cs a []
  /-- What is behind on the same line is not read. -/
  | comment (marked : Marked cs) (read : ∀ more, '\n' ∉ more → R (cs ++ more) = .ok (a, [])) :
    Further R cs a []

/-- A reader leaves `rest` of `cs`, and the same of longer texts. -/
structure Reads {α : Type} (R : List Char → Except Fault (Parsed α)) (cs : List Char) (a : α)
    (rest : List Char) : Prop where
  suffix : rest <:+ cs
  further : Further R cs a rest

/-- A reader that reads from `cs` what it reads, whatever is behind. -/
structure Apart {α : Type} (R : List Char → Except Fault (Parsed α)) (cs : List Char) (a : α)
    (rest : List Char) : Prop where
  suffix : rest <:+ cs
  read : ∀ more, R (cs ++ more) = .ok (a, rest ++ more)

section
variable {α β : Type} {R : List Char → Except Fault (Parsed α)}
  {R' : List Char → Except Fault (Parsed β)} {cs cs' rest : List Char} {a : α} {b : β}

theorem Apart.reads (h : Apart R cs a rest) : Reads R cs a rest := ⟨h.suffix, .apart h.read⟩

/-- What is left is in the way of what is behind. -/
theorem Reads.apart (h : Reads R cs a rest) (hrest : rest ≠ []) : Apart R cs a rest := by
  refine ⟨h.suffix, ?_⟩
  cases h.further with
  | apart read => exact read
  | closing read => exact absurd rfl hrest
  | comment marked read => exact absurd rfl hrest

/-- A reader that does to one text what another does to the end of it. -/
theorem Reads.imp (h : Reads R cs a rest) (hcs : cs <:+ cs')
    (hread : ∀ more out, R (cs ++ more) = .ok (a, out) → R' (cs' ++ more) = .ok (b, out)) :
    Reads R' cs' b rest := by
  refine ⟨h.suffix.trans hcs, ?_⟩
  cases h.further with
  | apart read => exact .apart fun more => hread more _ (read more)
  | closing read => exact .closing fun more => hread _ _ (read more)
  | comment marked read =>
    exact .comment (marked.of_suffix hcs) fun more hline => hread _ _ (read more hline)

theorem Apart.imp (h : Apart R cs a rest) (hcs : cs <:+ cs')
    (hread : ∀ more out, R (cs ++ more) = .ok (a, out) → R' (cs' ++ more) = .ok (b, out)) :
    Apart R' cs' b rest :=
  ⟨h.suffix.trans hcs, fun more => hread more _ (h.read more)⟩

end

/-! Blanks and comments -/

/-- Skipping stops at a character, or it goes on in the text behind. -/
theorem skipVerbose_append (inComment : Bool) (cs : List Char) :
    (skipVerbose inComment cs ≠ [] ∧
      ∀ more, skipVerbose inComment (cs ++ more) = skipVerbose inComment cs ++ more) ∨
    (skipVerbose inComment cs = [] ∧
      ∃ stillIn, (stillIn = true → inComment = true ∧ '\n' ∉ cs ∨ Marked cs) ∧
        ∀ more, skipVerbose inComment (cs ++ more) = skipVerbose stillIn more) := by
  induction cs generalizing inComment with
  | nil => exact .inr ⟨rfl, inComment, fun h => .inl ⟨h, List.not_mem_nil⟩, fun _ => rfl⟩
  | cons c cs ih =>
    have hmarked : Marked cs → Marked (c :: cs) := fun h => h.of_suffix (List.suffix_cons c cs)
    simp only [List.cons_append, skipVerbose]
    split_ifs with hcomment hblank hmark
    · refine (ih _).imp_right fun ⟨hnil, stillIn, hstill, hmore⟩ => ⟨hnil, stillIn, fun h => ?_, hmore⟩
      refine (hstill h).imp (fun ⟨hc, hline⟩ => ⟨hcomment, ?_⟩) hmarked
      exact List.not_mem_cons_of_ne_of_not_mem (bne_iff_ne.mp hc).symm hline
    · refine (ih _).imp_right fun ⟨hnil, stillIn, hstill, hmore⟩ => ⟨hnil, stillIn, fun h => ?_, hmore⟩
      exact .inr (hmarked ((hstill h).resolve_left nofun))
    · refine (ih _).imp_right fun ⟨hnil, stillIn, hstill, hmore⟩ => ⟨hnil, stillIn, fun h => .inr ?_, hmore⟩
      exact (hstill h).elim (fun ⟨_, hline⟩ => ⟨[], cs, by rw [beq_iff_eq.mp hmark]; rfl, hline⟩) hmarked
    · exact .inl ⟨List.cons_ne_nil _ _, fun _ => rfl⟩

theorem skipVerbose_line {more : List Char} (h : '\n' ∉ more) : skipVerbose true more = [] := by
  induction more with
  | nil => rfl
  | cons c cs ih =>
    have hline : (c != '\n') = true := bne_iff_ne.mpr (List.ne_of_not_mem_cons h).symm
    rw [skipVerbose, if_pos rfl, hline]
    exact ih (List.not_mem_of_not_mem_cons h)

theorem skip_append {verbose : Bool} {cs : List Char} (h : skip verbose cs ≠ []) (more : List Char) :
    skip verbose (cs ++ more) = skip verbose cs ++ more := by
  cases verbose with
  | false => rfl
  | true =>
    rcases skipVerbose_append false cs with ⟨-, hmore⟩ | ⟨hnil, -⟩
    · exact hmore more
    · exact absurd hnil h

theorem skip_append_cons {verbose : Bool} {cs tail : List Char} {c : Char}
    (h : skip verbose cs = c :: tail) (more : List Char) :
    skip verbose (cs ++ more) = c :: (tail ++ more) := by
  rw [skip_append (by rw [h]; exact List.cons_ne_nil _ _), h]
  rfl

/-- Where all is skipped, either a parenthesis behind is not, or all behind on the same line is. -/
theorem skip_append_nil {verbose : Bool} {cs : List Char} (h : skip verbose cs = []) :
    (∀ more, skip verbose (cs ++ ')' :: more) = ')' :: more) ∨
      (Marked cs ∧ ∀ more, '\n' ∉ more → skip verbose (cs ++ more) = []) := by
  cases verbose with
  | false =>
    obtain rfl : cs = [] := h
    exact .inl fun _ => rfl
  | true =>
    rcases skipVerbose_append false cs with ⟨hne, -⟩ | ⟨-, stillIn, hstill, hmore⟩
    · exact absurd h hne
    · cases stillIn with
      | false => exact .inl fun more => hmore _
      | true =>
        have hmarked := (hstill rfl).resolve_left nofun
        exact .inr ⟨hmarked, fun more hline => (hmore more).trans (skipVerbose_line hline)⟩

theorem skip_suffix (verbose : Bool) (cs : List Char) : skip verbose cs <:+ cs := by
  have hverbose : ∀ inComment, skipVerbose inComment cs <:+ cs := by
    induction cs with
    | nil => exact fun _ => List.suffix_rfl
    | cons c cs ih =>
      intro inComment
      rw [skipVerbose]
      split_ifs
      · exact (ih _).trans (List.suffix_cons _ _)
      · exact (ih _).trans (List.suffix_cons _ _)
      · exact (ih _).trans (List.suffix_cons _ _)
      · exact List.suffix_rfl
  cases verbose with
  | false => exact List.suffix_rfl
  | true => exact hverbose false

theorem suffix_of_skip {verbose : Bool} {cs tail : List Char} {c : Char}
    (h : skip verbose cs = c :: tail) : c :: tail <:+ cs := h ▸ skip_suffix verbose cs

theorem tail_suffix_of_skip {verbose : Bool} {cs tail : List Char} {c : Char}
    (h : skip verbose cs = c :: tail) : tail <:+ cs := (List.suffix_cons _ _).trans (suffix_of_skip h)

namespace Reads

variable {α : Type} {R : List Char → Except Fault (Parsed α)} {cs rest : List Char} {a : α}
  {verbose : Bool}

/-- A reader behind what is skipped. If that is all, the reader must be content with the end of the text
and leave a closing parenthesis. -/
theorem skip (hread : R (Pattern.skip verbose cs) = .ok (a, rest))
    (hend : Pattern.skip verbose cs = [] → rest = [] ∧ ∀ more, R (')' :: more) = .ok (a, ')' :: more))
    (h : Pattern.skip verbose cs ≠ [] → Reads R (Pattern.skip verbose cs) a rest) :
    Reads (fun cs => R (Pattern.skip verbose cs)) cs a rest := by
  by_cases hskip : Pattern.skip verbose cs = []
  · obtain ⟨rfl, hclosing⟩ := hend hskip
    rw [hskip] at hread
    refine ⟨List.nil_suffix, ?_⟩
    rcases skip_append_nil hskip with hmore | ⟨hmarked, hmore⟩
    · refine .closing fun more => ?_
      simp only [hmore, hclosing]
    · refine .comment hmarked fun more hline => ?_
      simp only [hmore more hline, hread]
  · refine (h hskip).imp (skip_suffix _ _) fun more out hout => ?_
    rw [← skip_append hskip] at hout
    exact hout

/-- Nothing but skipping. -/
theorem skipped (verbose : Bool) (a : α) (cs : List Char) :
    Reads (fun cs => .ok (a, Pattern.skip verbose cs)) cs a (Pattern.skip verbose cs) := by
  refine Reads.skip (R := fun cs => .ok (a, cs)) rfl (fun h => ⟨h, fun _ => rfl⟩) fun _ => ?_
  exact ⟨List.suffix_rfl, .apart fun _ => rfl⟩

end Reads

theorem Apart.skip {α : Type} {R : List Char → Except Fault (Parsed α)} {cs rest : List Char} {a : α}
    {verbose : Bool} (hskip : Pattern.skip verbose cs ≠ [])
    (h : Apart R (Pattern.skip verbose cs) a rest) :
    Apart (fun cs => R (Pattern.skip verbose cs)) cs a rest := by
  refine h.imp (skip_suffix _ _) fun more out hout => ?_
  rw [← skip_append hskip] at hout
  exact hout

/-- The fuel for a text is no more than that for a longer text. -/
theorem fuel_le (cs more : List Char) : cs.length + 1 ≤ (cs ++ more).length + 1 := by simp

/-! Hexadecimal digits -/

theorem scalar_bind_eq_ok {n : Nat} {cs rest : List Char} {c : Char} :
    (do return (← scalar n, cs) : Except Fault (Parsed Char)) = .ok (c, rest) ↔
      scalar n = .ok c ∧ rest = cs := by
  cases hn : scalar n with
  | error fault => exact ⟨nofun, nofun⟩
  | ok x =>
    constructor
    · intro h
      obtain ⟨rfl, rfl⟩ := Prod.mk.inj (Except.ok.inj h)
      exact ⟨rfl, rfl⟩
    · rintro ⟨h, rfl⟩
      obtain rfl := Except.ok.inj h
      rfl

theorem reads_hexDigits {verbose : Bool} {n value : Nat} {cs rest : List Char} {c : Char}
    (h : readHexDigits verbose n value cs = .ok (c, rest)) :
    Reads (readHexDigits verbose n value) cs c rest := by
  induction n generalizing value cs with
  | zero =>
    obtain ⟨hc, rfl⟩ := scalar_bind_eq_ok.mp h
    exact ⟨List.suffix_rfl, .apart fun more => scalar_bind_eq_ok.mpr ⟨hc, rfl⟩⟩
  | succ n ih =>
    cases cs with
    | nil => cases h
    | cons x cs =>
      rw [readHexDigits] at h
      cases hd : hexValue? x with
      | none =>
        rw [hd] at h
        cases h
      | some d =>
        rw [hd] at h
        have hrest : Reads (fun cs => readHexDigits verbose n (16 * value + d) (skip verbose cs)) cs c
            rest := by
          refine .skip h (fun hskip => ?_) fun _ => ih h
          rw [hskip] at h
          cases n with
          | zero =>
            obtain ⟨hc, rfl⟩ := scalar_bind_eq_ok.mp h
            exact ⟨rfl, fun more => scalar_bind_eq_ok.mpr ⟨hc, rfl⟩⟩
          | succ n => cases h
        refine hrest.imp (List.suffix_cons _ _) fun more out hout => ?_
        rw [List.cons_append, readHexDigits, hd]
        exact hout

theorem reads_hexBraced {verbose : Bool} {fuel : Nat} {value : Option Nat} {cs rest : List Char}
    {c : Char} (h : readHexBraced verbose fuel value cs = .ok (c, rest)) :
    Reads (readHexBraced verbose fuel value) cs c rest := by
  induction fuel generalizing value cs with
  | zero => cases h
  | succ fuel ih =>
    rw [readHexBraced] at h
    cases hskip : skip verbose cs with
    | nil =>
      rw [hskip] at h
      cases h
    | cons x tail =>
      have htail := tail_suffix_of_skip hskip
      rw [hskip] at h
      by_cases hx : x = '\x7d'
      · subst hx
        cases value with
        | none => cases h
        | some n =>
          obtain ⟨hc, rfl⟩ := scalar_bind_eq_ok.mp h
          refine (Reads.skipped verbose c tail).imp htail fun more out hout => ?_
          obtain ⟨-, rfl⟩ := Prod.mk.inj (Except.ok.inj hout)
          rw [readHexBraced, skip_append_cons hskip]
          exact scalar_bind_eq_ok.mpr ⟨hc, rfl⟩
      · cases hd : hexValue? x with
        | none => simp [hd] at h
        | some d =>
          simp only [hd] at h
          refine (ih h).imp htail fun more out hout => ?_
          rw [readHexBraced, skip_append_cons hskip]
          simp [hd, hout]

/-- More fuel changes nothing. -/
theorem readHexBraced_mono {verbose : Bool} {fuel fuel' : Nat} {value : Option Nat} {cs : List Char}
    {x : Parsed Char} (hle : fuel ≤ fuel') (h : readHexBraced verbose fuel value cs = .ok x) :
    readHexBraced verbose fuel' value cs = .ok x := by
  induction fuel generalizing value cs fuel' with
  | zero => cases h
  | succ fuel ih =>
    obtain ⟨fuel', rfl⟩ : ∃ n, fuel' = n + 1 := ⟨fuel' - 1, by omega⟩
    rw [readHexBraced] at h ⊢
    cases hskip : skip verbose cs with
    | nil =>
      rw [hskip] at h
      cases h
    | cons c tail =>
      rw [hskip] at h
      by_cases hc : c = '\x7d'
      · subst hc
        exact h
      · cases hd : hexValue? c with
        | none => simp [hd] at h
        | some d =>
          simp only [hd] at h ⊢
          exact ih (Nat.le_of_succ_le_succ hle) h

/-- What follows `\x` and the like; there is at least one digit. -/
theorem reads_hex {verbose : Bool} {n : Nat} {cs rest : List Char} {l : Literal} (hn : n ≠ 0)
    (h : readHex verbose n cs = .ok (l, rest)) : Reads (readHex verbose n) cs l rest := by
  unfold readHex at h
  cases hskip : skip verbose cs with
  | nil =>
    rw [hskip] at h
    obtain ⟨n, rfl⟩ := Nat.exists_eq_succ_of_ne_zero hn
    cases h
  | cons x tail =>
    rw [hskip] at h
    by_cases hx : x = '\x7b'
    · subst hx
      obtain ⟨⟨c, rest'⟩, hread, hpure⟩ := bind_eq_ok.mp h
      obtain ⟨rfl, rfl⟩ := Prod.mk.inj (Except.ok.inj hpure)
      refine (reads_hexBraced hread).imp (tail_suffix_of_skip hskip) fun more out hout => ?_
      have hout := readHexBraced_mono (fuel_le tail more) hout
      unfold readHex
      rw [skip_append_cons hskip]
      simp only [hout]
      rfl
    · split at h
      · next heq => exact absurd (List.cons.inj heq).1 hx
      · obtain ⟨⟨c, rest'⟩, hread, hpure⟩ := bind_eq_ok.mp h
        obtain ⟨rfl, rfl⟩ := Prod.mk.inj (Except.ok.inj hpure)
        refine (reads_hexDigits hread).imp (suffix_of_skip hskip) fun more out hout => ?_
        unfold readHex
        rw [skip_append_cons hskip, ← List.cons_append]
        split
        · next heq => exact absurd (List.cons.inj heq).1 hx
        · rw [hout]
          rfl

/-! Properties -/

theorem apart_bracedName {verbose : Bool} {fuel fuel' : Nat} {read cs rest name : List Char}
    (hle : fuel ≤ fuel') (h : readBracedName verbose fuel read cs = .ok (name, rest)) :
    Apart (readBracedName verbose fuel' read) cs name rest := by
  induction fuel generalizing read cs fuel' with
  | zero => cases h
  | succ fuel ih =>
    obtain ⟨fuel', rfl⟩ : ∃ n, fuel' = n + 1 := ⟨fuel' - 1, by omega⟩
    rw [readBracedName] at h
    cases hskip : skip verbose cs with
    | nil =>
      rw [hskip] at h
      cases h
    | cons c tail =>
      have htail := tail_suffix_of_skip hskip
      rw [hskip] at h
      by_cases hc : c = '\x7d'
      · subst hc
        obtain ⟨rfl, rfl⟩ := Prod.mk.inj (Except.ok.inj h)
        refine ⟨htail, fun more => ?_⟩
        rw [readBracedName, skip_append_cons hskip]
        rfl
      · simp only at h
        refine (ih (Nat.le_of_succ_le_succ hle) h).imp htail fun more out hout => ?_
        rw [readBracedName, skip_append_cons hskip]
        simp [hout]

theorem reads_property {verbose negated : Bool} {cs rest : List Char} {a : Atom}
    (h : readProperty verbose negated cs = .ok (a, rest)) : Reads (readProperty verbose negated) cs a rest := by
  unfold readProperty at h
  cases hskip : skip verbose cs with
  | nil =>
    rw [hskip] at h
    cases h
  | cons c tail =>
    have htail := tail_suffix_of_skip hskip
    rw [hskip] at h
    split at h
    · next heq => cases heq
    · next tail' heq =>
      obtain ⟨rfl, rfl⟩ := List.cons.inj heq
      obtain ⟨⟨name, rest'⟩, hread, hpure⟩ := bind_eq_ok.mp h
      obtain ⟨rfl, rfl⟩ := Prod.mk.inj (Except.ok.inj hpure)
      refine Apart.reads ⟨(apart_bracedName le_rfl hread).suffix.trans htail, fun more => ?_⟩
      have hmore := (apart_bracedName (fuel_le tail more) hread).read more
      unfold readProperty
      rw [skip_append_cons hskip]
      simp only [hmore]
      rfl
    · cases h
    · next c' tail' hbrace hslash heq =>
      obtain ⟨rfl, rfl⟩ := List.cons.inj heq
      obtain ⟨rfl, rfl⟩ := Prod.mk.inj (Except.ok.inj h)
      refine (Reads.skipped verbose () tail).imp htail fun more out hout => ?_
      obtain ⟨-, rfl⟩ := Prod.mk.inj (Except.ok.inj hout)
      unfold readProperty
      rw [skip_append_cons hskip]
      split
      · next heq => cases heq
      · next heq => exact absurd (List.cons.inj heq).1 hbrace
      · next heq => exact absurd (List.cons.inj heq).1 hslash
      · next heq =>
        obtain ⟨rfl, rfl⟩ := List.cons.inj heq
        rfl

/-! Word boundaries -/

theorem apart_boundaryName {verbose : Bool} {fuel fuel' : Nat} {read cs rest name : List Char}
    (hle : fuel ≤ fuel') (h : readBoundaryName verbose fuel read cs = .ok (name, rest)) :
    Apart (readBoundaryName verbose fuel' read) cs name rest := by
  induction fuel generalizing read cs fuel' with
  | zero => cases h
  | succ fuel ih =>
    obtain ⟨fuel', rfl⟩ : ∃ n, fuel' = n + 1 := ⟨fuel' - 1, by omega⟩
    cases cs with
    | nil => cases h
    | cons c cs =>
      by_cases hc : c = '\x7d'
      · subst hc
        obtain ⟨rfl, rfl⟩ := Prod.mk.inj (Except.ok.inj h)
        exact ⟨List.suffix_cons _ _, fun _ => rfl⟩
      · simp only [readBoundaryName] at h
        split_ifs at h with hname
        have hskip : skip verbose cs ≠ [] := by
          intro hskip
          rw [hskip] at h
          cases fuel <;> cases h
        have hrest := (ih (Nat.le_of_succ_le_succ hle) h).skip hskip
        refine hrest.imp (List.suffix_cons _ _) fun more out hout => ?_
        simp only [List.cons_append, readBoundaryName, hname, if_true]
        exact hout

theorem reads_boundary {verbose : Bool} {cs rest : List Char} {a : Atom}
    (h : readBoundary verbose cs = .ok (a, rest)) : Reads (readBoundary verbose) cs a rest := by
  unfold readBoundary at h
  split at h
  · next inner =>
    cases hskip : skip verbose inner with
    | nil =>
      rw [hskip] at h
      cases h
    | cons c name =>
      rw [hskip] at h
      simp only at h
      split_ifs at h with hname
      · obtain ⟨⟨found, rest'⟩, hread, hnamed⟩ := bind_eq_ok.mp h
        obtain ⟨assertion, hassertion, hpure⟩ := bind_eq_ok.mp hnamed
        obtain ⟨rfl, rfl⟩ := Prod.mk.inj (Except.ok.inj hpure)
        have hinner := (suffix_of_skip hskip).trans (List.suffix_cons '\x7b' inner)
        refine Apart.reads ⟨(apart_boundaryName le_rfl hread).suffix.trans hinner, fun more => ?_⟩
        have hmore := (apart_boundaryName (fuel_le inner more) hread).read more
        rw [List.cons_append] at hmore
        simp only [List.cons_append, readBoundary, skip_append_cons hskip, hname, if_true]
        rw [hmore]
        simp only [bind, Except.bind, hassertion]
        rfl
      · obtain ⟨rfl, rfl⟩ := Prod.mk.inj (Except.ok.inj h)
        refine Apart.reads ⟨List.suffix_rfl, fun more => ?_⟩
        simp [readBoundary, skip_append_cons hskip, hname]
  · next hbrace =>
    obtain ⟨rfl, rfl⟩ := Prod.mk.inj (Except.ok.inj h)
    cases cs with
    | nil => exact ⟨List.suffix_rfl, .closing fun _ => rfl⟩
    | cons c cs =>
      refine Apart.reads ⟨List.suffix_rfl, fun more => ?_⟩
      unfold readBoundary
      split
      · next heq => exact absurd (congrArg (· :: cs) (List.cons.inj heq).1) (hbrace cs)
      · rfl

/-! Escapes -/

theorem reads_escape {verbose : Bool} {cs rest : List Char} {a : Atom}
    (h : readEscape verbose cs = .ok (a, rest)) : Reads (readEscape verbose) cs a rest := by
  revert h
  fun_cases readEscape verbose cs <;> intro h
  case case1 | case2 => cases h
  -- hexadecimal digits
  case case3 | case4 | case5 =>
    obtain ⟨⟨l, rest'⟩, hread, hpure⟩ := bind_eq_ok.mp h
    obtain ⟨rfl, rfl⟩ := Prod.mk.inj (Except.ok.inj hpure)
    refine (reads_hex (by decide) hread).imp (List.suffix_cons _ _) fun more out hout => ?_
    rw [List.cons_append, readEscape, if_neg (by decide)]
    simp only [hout]
    rfl
  case case6 | case7 =>
    refine (reads_property h).imp (List.suffix_cons _ _) fun more out hout => ?_
    rw [List.cons_append, readEscape, if_neg (by decide)]
    exact hout
  case case22 =>
    refine (reads_boundary h).imp (List.suffix_cons _ _) fun more out hout => ?_
    rw [List.cons_append, readEscape, if_neg (by decide)]
    exact hout
  case case26 hescapable hdigit =>
    obtain ⟨rfl, rfl⟩ := Prod.mk.inj (Except.ok.inj h)
    refine Apart.reads ⟨List.suffix_cons _ _, fun more => ?_⟩
    rw [List.cons_append, readEscape, if_neg hdigit, if_pos hescapable] <;> assumption
  case case27 => cases h
  -- single letters
  all_goals
    obtain ⟨rfl, rfl⟩ := Prod.mk.inj (Except.ok.inj h)
    exact Apart.reads ⟨List.suffix_cons _ _, fun _ => rfl⟩

end MediaCatalogue.Pattern
