import Mathlib
import MediaCatalogue.Proofs.Formula.Leaves

/-! Which token lists are the beginning of a formula. What has been read without a fault leaves sections
open, and these close one by one, each with an operand more where it needs one. This fails only for a
group that holds an operand and stands directly behind another one: the connective that is missing in
front of it cannot be put in any more, although the fault is met only where the group closes. -/

namespace MediaCatalogue.Formula

/-- The tokens go on to a list that is read as a formula. -/
def Continues (ts : List Token) : Prop := ∃ more e, ∀ source, parseTokens (ts ++ more) source = .ok e

/-- Whether a list closes no section but those that it opens itself and `level` others. -/
def staysInside (level : Nat) : List Token → Bool
  | [] => true
  | .opening :: ts => staysInside (level + 1) ts
  | .closing :: ts => decide (0 < level) && staysInside (level - 1) ts
  | _ :: ts => staysInside level ts

/-- A group with a variable in it, at any depth, stands behind an operand of the section around it with
no connective between. -/
inductive Misplaced : List Token → Prop
  | group {around inner deeper more : List Token} {d i : Nat} {c : Chain}
      (operand : Content d inner c.parts) (held : staysInside 0 deeper = true) :
      Misplaced (around ++ .opening :: (inner ++ .opening :: (deeper ++ .variable i :: more)))

theorem Misplaced.append {ts : List Token} (h : Misplaced ts) (us : List Token) :
    Misplaced (ts ++ us) := by
  cases h with
  | group operand held =>
    simp only [List.append_assoc, List.cons_append]
    exact .group operand held

/-! Tokens that stay inside a section -/

theorem staysInside_part {t : Token} {p : Part} (ht : t.part? = some p) (level : Nat) (ts : List Token) :
    staysInside level (t :: ts) = staysInside level ts := by
  cases t <;> first | rfl | cases ht

theorem staysInside_mono {level : Nat} {ts : List Token} (h : staysInside level ts = true) :
    staysInside (level + 1) ts = true := by
  induction ts generalizing level with
  | nil => rfl
  | cons t ts ih =>
    cases t with
    | opening => exact @ih (level + 1) h
    | closing =>
      simp only [staysInside, Bool.and_eq_true, decide_eq_true_eq] at h ⊢
      obtain ⟨level, rfl⟩ := Nat.exists_eq_add_of_lt h.1
      refine ⟨Nat.succ_pos _, ?_⟩
      have := ih h.2
      simpa using this
    | «variable» _ | connective _ | not => exact @ih level h

theorem staysInside_append {level : Nat} {ts us : List Token} (hts : staysInside level ts = true)
    (hus : staysInside 0 us = true) : staysInside level (ts ++ us) = true := by
  induction ts generalizing level with
  | nil =>
    induction level with
    | zero => exact hus
    | succ level ih => exact staysInside_mono (ih rfl)
  | cons t ts ih =>
    cases t with
    | opening => exact @ih (level + 1) hts
    | closing =>
      simp only [staysInside, List.cons_append, Bool.and_eq_true] at hts ⊢
      exact ⟨hts.1, ih hts.2⟩
    | «variable» _ | connective _ | not => exact @ih level hts

theorem staysInside_of_append {level : Nat} {ts us : List Token}
    (h : staysInside level (ts ++ us) = true) : staysInside level ts = true := by
  induction ts generalizing level with
  | nil => rfl
  | cons t ts ih =>
    cases t with
    | opening => exact @ih (level + 1) h
    | closing =>
      simp only [staysInside, List.cons_append, Bool.and_eq_true] at h ⊢
      exact ⟨h.1, ih h.2⟩
    | «variable» _ | connective _ | not => exact @ih level h

/-- Content comes back to the section that it starts in. -/
theorem Content.staysInside {d : Nat} {ts : List Token} {ps : List Part} (h : Content d ts ps) :
    ∀ (level : Nat) (rest : List Token),
      Formula.staysInside level (ts ++ rest) = Formula.staysInside level rest := by
  induction h with
  | nil => exact fun _ _ => rfl
  | plain before part ih =>
    intro level rest
    rw [List.append_assoc, ih, List.singleton_append, staysInside_part part]
  | group before inner shape ih ih' =>
    intro level rest
    rw [List.append_assoc, ih, List.cons_append, List.append_assoc, Formula.staysInside, ih']
    simp [Formula.staysInside]

/-- Content with an operand has a variable. -/
theorem Content.exists_variable {d : Nat} {ts : List Token} {ps : List Part} {e : Expr}
    (h : Content d ts ps) (he : .operand e ∈ ps) : ∃ i, .variable i ∈ ts := by
  have hleaf : e.maxVariable ∈ ps.flatMap Part.leaves :=
    List.mem_flatMap.mpr ⟨_, he, e.maxVariable_mem⟩
  rw [h.leaves] at hleaf
  obtain ⟨t, ht, hindex⟩ := List.mem_filterMap.mp hleaf
  cases t <;> simp only [Token.index?, reduceCtorEq, Option.some.injEq] at hindex
  exact ⟨_, ht⟩

namespace Frame

variable {f g : Frame}

def IsOccupied (f : Frame) : Prop := ∃ e, f.node = some e

/-- Whether a section stands behind an operand, so that a connective has to come before the next one. -/
def IsFull (f : Frame) : Prop := f.IsOccupied ∧ f.pending = none

theorem operand_of_isFull (h : f.IsFull) (e : Expr) : f.operand e = .error .missingConnective := by
  obtain ⟨⟨l, hl⟩, hp⟩ := h
  simp only [operand, hl, hp]

theorem operand_of_not_isFull (h : ¬ f.IsFull) (e : Expr) :
    ∃ e', f.operand e = .ok { opened := f.opened, node := some e' } := by
  unfold operand
  cases hn : f.node with
  | none => exact ⟨_, rfl⟩
  | some l =>
    cases hp : f.pending with
    | none => exact absurd ⟨⟨l, hn⟩, hp⟩ h
    | some c => exact ⟨_, rfl⟩

theorem isOccupied_operand {e : Expr} (h : f.operand e = .ok g) : g.IsOccupied := by
  by_cases hf : f.IsFull
  · rw [operand_of_isFull hf] at h
    cases h
  · obtain ⟨e', he'⟩ := operand_of_not_isFull hf e
    obtain rfl := Except.ok.inj (h.symm.trans he')
    exact ⟨e', rfl⟩

theorem IsOccupied.feed {p : Part} (hf : f.IsOccupied) (h : f.feed p = .ok g) : g.IsOccupied := by
  cases p with
  | not =>
    cases h
    exact hf
  | connective c =>
    obtain ⟨e, he⟩ := hf
    cases hp : f.pending <;> simp only [Frame.feed, connect, he, hp, reduceCtorEq, Except.ok.injEq] at h
    exact ⟨e, h ▸ rfl⟩
  | operand e => exact isOccupied_operand h

theorem IsOccupied.feedAll {ps : List Part} (hf : f.IsOccupied) (h : f.feedAll ps = .ok g) :
    g.IsOccupied := by
  induction ps generalizing f with
  | nil =>
    cases h
    exact hf
  | cons p ps ih =>
    obtain ⟨f', hf', h⟩ := bind_eq_ok.mp h
    exact ih (hf.feed hf') h

theorem isOccupied_feedAll_operand {e : Expr} (h : f.feedAll [.operand e] = .ok g) : g.IsOccupied := by
  obtain ⟨f', hf', hnil⟩ := bind_eq_ok.mp h
  cases hnil
  exact isOccupied_operand hf'

theorem close_eq_ok {root : Option Expr} (h : f.close = .ok root) : root = f.node := by
  unfold close at h
  cases hp : f.pending with
  | some c => simp only [hp, reduceCtorEq] at h
  | none =>
    rw [hp] at h
    cases hn : f.negated <;> simp [hn] at h
    exact h.symm

section
variable {opened : Nat} {ps : List Part}

theorem Stands.opened_eq (h : Stands opened f ps) : f.opened = opened := by
  cases h <;> rfl

/-- A connective waits only behind an operand. -/
theorem Stands.pending_eq_none (h : Stands opened f ps) (hn : f.node = none) : f.pending = none := by
  cases h with
  | start n => rfl
  | operand c => cases hn
  | connective c k n => cases hn

theorem Stands.exists_operand (h : Stands opened f ps) (hf : f.IsOccupied) : ∃ e, .operand e ∈ ps := by
  cases h with
  | start n =>
    obtain ⟨e, he⟩ := hf
    cases he
  | operand c => exact ⟨c.first, by simp [Chain.parts]⟩
  | connective c k n => exact ⟨c.first, by simp [Chain.parts]⟩

theorem Stands.exists_chain (h : Stands opened f ps) (hf : f.IsFull) : ∃ c : Chain, ps = c.parts := by
  cases h with
  | start n =>
    obtain ⟨e, he⟩ := hf.1
    cases he
  | operand c => exact ⟨c, rfl⟩
  | connective c k n => cases hf.2

end

end Frame

namespace Reading

variable {s s' : Reading} {f g : Frame} {base outer fs : List Frame} {position : Nat} {ts us : List Token}
  {t : Token}

theorem run_cons_eq_ok :
    s.run position (t :: ts) = .ok s' ↔
      ∃ r, s.step position t = .ok r ∧ r.run (position + 1) ts = .ok s' := bind_eq_ok

theorem run_append_eq_ok :
    s.run position (ts ++ us) = .ok s' ↔
      ∃ r, s.run position ts = .ok r ∧ r.run (position + ts.length) us = .ok s' := by
  rw [run_append, bind_eq_ok]

theorem step_opening (h : s.step position .opening = .ok s') :
    ∃ fs, s' = inside { opened := position } fs := by
  cases s with
  | start => exact ⟨[], (Except.ok.inj h).symm⟩
  | inside f outer =>
    simp only [step] at h
    split at h
    · exact ⟨f :: outer, (Except.ok.inj h).symm⟩
    · cases h
  | done root => cases h

theorem step_inside_opening (h : (inside f outer).step position .opening = .ok s') :
    s' = inside { opened := position } (f :: outer) := by
  simp only [step] at h
  split at h
  · exact (Except.ok.inj h).symm
  · cases h

/-! Lists that do not go on -/

/-- If content is read at all, only the innermost section changes, by the parts of the content. -/
theorem feedAll_of_run {d : Nat} {ps : List Part} (h : Content d ts ps) :
    ∀ {position : Nat} {f : Frame} {outer : List Frame} {s : Reading},
      (inside f outer).run position ts = .ok s → ∃ g, f.feedAll ps = .ok g ∧ s = inside g outer := by
  induction h with
  | nil =>
    intro position f outer s hs
    cases hs
    exact ⟨f, rfl, rfl⟩
  | @plain d ts ps t p before part ih =>
    intro position f outer s hs
    obtain ⟨r, hr, hs⟩ := run_append_eq_ok.mp hs
    obtain ⟨g, hg, rfl⟩ := ih hr
    obtain ⟨r, hr, hs⟩ := run_cons_eq_ok.mp hs
    cases hs
    obtain ⟨g', hg', rfl⟩ := (step_part part _ g outer).mp hr
    exact ⟨g', (Frame.feedAll_snoc hg p).trans hg', rfl⟩
  | @group d d' ts us ps qs root before inner shape ih ih' =>
    intro position f outer s hs
    obtain ⟨r, hr, hs⟩ := run_append_eq_ok.mp hs
    obtain ⟨g, hg, rfl⟩ := ih hr
    obtain ⟨r, hopen, hs⟩ := run_cons_eq_ok.mp hs
    obtain rfl := step_inside_opening hopen
    obtain ⟨r, hr, hs⟩ := run_append_eq_ok.mp hs
    obtain ⟨i, hi, rfl⟩ := ih' hr
    obtain ⟨r, hclose, hs⟩ := run_cons_eq_ok.mp hs
    cases hs
    obtain ⟨root', hroot', hleave⟩ := step_closing.mp hclose
    -- the group stands for the tree of its shape
    obtain ⟨i', hi', hroot⟩ := shape.closes (position + ts.length)
    obtain rfl := Except.ok.inj (hi'.symm.trans hi)
    obtain rfl := Except.ok.inj (hroot.symm.trans hroot')
    obtain ⟨g', hg', rfl⟩ := leave_cons.mp hleave
    refine ⟨g', ?_, rfl⟩
    rw [Frame.feedAll_append, hg]
    exact hg'

/-- A list that stays inside the sections above `base` leaves `base` as it is. -/
theorem run_staysInside (h : staysInside fs.length ts = true)
    (hs : (inside f (fs ++ base)).run position ts = .ok s) : ∃ g gs, s = inside g (gs ++ base) := by
  induction ts generalizing f fs position with
  | nil =>
    cases hs
    exact ⟨f, fs, rfl⟩
  | cons t ts ih =>
    obtain ⟨r, hr, hs⟩ := run_cons_eq_ok.mp hs
    cases ht : t.part? with
    | some p =>
      obtain ⟨g, -, rfl⟩ := (step_part ht _ _ _).mp hr
      rw [staysInside_part ht] at h
      exact ih h hs
    | none =>
      cases t with
      | «variable» _ | connective _ | not => cases ht
      | opening =>
        obtain rfl := step_inside_opening hr
        exact @ih _ (f :: fs) _ h hs
      | closing =>
        simp only [staysInside, Bool.and_eq_true, decide_eq_true_eq] at h
        obtain ⟨f', fs, rfl⟩ := List.exists_cons_of_length_pos h.1
        obtain ⟨root, -, hleave⟩ := step_closing.mp hr
        obtain ⟨g, -, rfl⟩ := leave_cons.mp hleave
        exact ih h.2 hs

/-- Of the sections above `base` one has an operand. -/
def Holds (base : List Frame) (s : Reading) : Prop :=
  ∃ f fs, s = inside f (fs ++ base) ∧ ∃ g ∈ f :: fs, g.IsOccupied

/-- Above a section that stands behind an operand, an operand cannot be got rid of. -/
theorem Holds.step {full : Frame} (hfull : full.IsFull) (h : Holds (full :: base) s)
    (hs : s.step position t = .ok s') : Holds (full :: base) s' := by
  obtain ⟨f, fs, rfl, g, hg, hoccupied⟩ := h
  cases ht : t.part? with
  | some p =>
    obtain ⟨f', hf', rfl⟩ := (step_part ht _ _ _).mp hs
    obtain rfl | hg := List.mem_cons.mp hg
    · exact ⟨f', fs, rfl, f', List.mem_cons_self, hoccupied.feed hf'⟩
    · exact ⟨f', fs, rfl, g, List.mem_cons_of_mem _ hg, hoccupied⟩
  | none =>
    cases t with
    | «variable» _ | connective _ | not => cases ht
    | opening =>
      obtain rfl := step_inside_opening hs
      exact ⟨_, f :: fs, rfl, g, List.mem_cons_of_mem _ hg, hoccupied⟩
    | closing =>
      obtain ⟨root, hroot, hleave⟩ := step_closing.mp hs
      obtain rfl := Frame.close_eq_ok hroot
      cases fs with
      | nil =>
        -- the group that closes has the operand, and the section around it takes none
        obtain rfl := List.mem_singleton.mp hg
        obtain ⟨e, he⟩ := hoccupied
        simp [he, leave, Frame.operand_of_isFull hfull, blame, Except.map] at hleave
      | cons f' fs =>
        obtain ⟨g', hg', rfl⟩ := leave_cons.mp hleave
        obtain rfl | hg := List.mem_cons.mp hg
        · obtain ⟨e, he⟩ := hoccupied
          rw [he] at hg'
          exact ⟨g', fs, rfl, g', List.mem_cons_self, Frame.isOccupied_feedAll_operand hg'⟩
        · obtain rfl | hg := List.mem_cons.mp hg
          · exact ⟨g', fs, rfl, g', List.mem_cons_self, hoccupied.feedAll hg'⟩
          · exact ⟨g', fs, rfl, g, List.mem_cons_of_mem _ hg, hoccupied⟩

theorem Holds.run {full : Frame} (hfull : full.IsFull) (h : Holds (full :: base) s)
    (hs : s.run position ts = .ok s') : Holds (full :: base) s' := by
  induction ts generalizing s position with
  | nil =>
    cases hs
    exact h
  | cons t ts ih =>
    obtain ⟨r, hr, hs⟩ := run_cons_eq_ok.mp hs
    exact ih (h.step hfull hr) hs

end Reading

open Reading in
/-- Behind a misplaced group nothing helps. -/
theorem Misplaced.not_continues {ts : List Token} (h : Misplaced ts) : ¬ Continues ts := by
  rintro ⟨rest, e, hread⟩
  obtain ⟨s, hs, hfinish⟩ := bind_eq_ok.mp (parseTokens_eq_ok.mp (hread []))
  cases h with
  | @group around inner deeper more d i c operand held =>
    simp only [List.append_assoc, List.cons_append] at hs
    obtain ⟨r, -, hs⟩ := run_append_eq_ok.mp hs
    obtain ⟨r, hr, hs⟩ := run_cons_eq_ok.mp hs
    obtain ⟨outer, rfl⟩ := step_opening hr
    obtain ⟨r, hr, hs⟩ := run_append_eq_ok.mp hs
    obtain ⟨full, hfull, rfl⟩ := feedAll_of_run operand hr
    obtain rfl := Except.ok.inj ((Frame.feedAll_chain _ c).symm.trans hfull)
    obtain ⟨r, hr, hs⟩ := run_cons_eq_ok.mp hs
    obtain rfl := step_inside_opening hr
    obtain ⟨r, hr, hs⟩ := run_append_eq_ok.mp hs
    obtain ⟨g, gs, rfl⟩ := @run_staysInside _ _ _ [] _ _ held hr
    obtain ⟨r, hr, hs⟩ := run_cons_eq_ok.mp hs
    obtain ⟨g', hg', rfl⟩ := (step_part rfl _ _ _).mp hr
    have hholds := Holds.run ⟨⟨_, rfl⟩, rfl⟩
      ⟨g', gs, rfl, g', List.mem_cons_self, Frame.isOccupied_operand hg'⟩ hs
    obtain ⟨f, fs, rfl, -⟩ := hholds
    cases hfinish

/-! Lists that go on -/

/-- No section that has an operand is open inside one that stands behind an operand. -/
def Fits (fs : List Frame) : Prop := fs.Pairwise fun inner outer => inner.IsOccupied → ¬ outer.IsFull

namespace Reading

variable {f : Frame} {outer fs : List Frame} {ts : List Token}

/-- A section gets to where it may close, with an operand. -/
theorem exists_run_operand (f : Frame) :
    ∃ ts e, ∀ position outer, (inside f outer).run position ts =
      .ok (inside { opened := f.opened, node := some e } outer) := by
  by_cases hfull : f.IsFull
  · obtain ⟨⟨e, he⟩, hp⟩ := hfull
    obtain ⟨opened, node, pending, negated⟩ := f
    obtain rfl : node = some e := he
    obtain rfl : pending = none := hp
    cases negated with
    | false => exact ⟨[], e, fun _ _ => rfl⟩
    | true => exact ⟨[.not], e, fun _ _ => rfl⟩
  · obtain ⟨e, he⟩ := Frame.operand_of_not_isFull hfull (.var 0)
    refine ⟨[.variable 0], e, fun position outer => ?_⟩
    have hstep := (step_part (t := .variable 0) rfl position f outer).mpr ⟨_, he, rfl⟩
    exact run_cons_eq_ok.mpr ⟨_, hstep, rfl⟩

/-- A section without an operand gets to where it may close as an empty group. -/
theorem exists_run_empty (hn : f.node = none) (hp : f.pending = none) :
    ∃ ts, ∀ position outer, (inside f outer).run position ts =
      .ok (inside { opened := f.opened } outer) := by
  obtain ⟨opened, node, pending, negated⟩ := f
  obtain rfl : node = none := hn
  obtain rfl : pending = none := hp
  cases negated with
  | false => exact ⟨[], fun _ _ => rfl⟩
  | true => exact ⟨[.not], fun _ _ => rfl⟩

/-- Sections that fit close one by one. A section without an operand stays empty, but the outermost one
gets an operand. -/
theorem exists_run_done (hfits : Fits (f :: outer))
    (hled : ∀ g ∈ f :: outer, g.node = none → g.pending = none) :
    ∃ ts e, ∀ position, (inside f outer).run position ts = .ok (done (some e)) := by
  induction outer generalizing f with
  | nil =>
    obtain ⟨ts, e, hrun⟩ := exists_run_operand f
    refine ⟨ts ++ [.closing], e, fun position => ?_⟩
    rw [run_snoc (hrun position [])]
    rfl
  | cons g outer ih =>
    have hled' := fun h hh => hled h (List.mem_cons_of_mem f hh)
    obtain ⟨houter, hfits'⟩ := List.pairwise_cons.mp hfits
    cases hn : f.node with
    | none =>
      obtain ⟨ts, hrun⟩ := exists_run_empty hn (hled f List.mem_cons_self hn)
      obtain ⟨ts', e, hrest⟩ := ih hfits' hled'
      refine ⟨ts ++ [.closing] ++ ts', e, fun position => run_append_eq_ok.mpr ⟨_, ?_, hrest _⟩⟩
      rw [run_snoc (hrun position (g :: outer))]
      rfl
    | some e =>
      have hclear : ∀ h ∈ g :: outer, ¬ h.IsFull := fun h hh => houter h hh ⟨e, hn⟩
      obtain ⟨ts, e, hrun⟩ := exists_run_operand f
      obtain ⟨e', he'⟩ := Frame.operand_of_not_isFull (hclear g List.mem_cons_self) e
      have hfits : Fits ({ opened := g.opened, node := some e' } :: outer) :=
        List.pairwise_cons.mpr ⟨fun h hh _ => hclear h (List.mem_cons_of_mem g hh),
          (List.pairwise_cons.mp hfits').2⟩
      obtain ⟨ts', root, hrest⟩ := ih hfits (List.forall_mem_cons.mpr
        ⟨nofun, fun h hh => hled' h (List.mem_cons_of_mem g hh)⟩)
      refine ⟨ts ++ [.closing] ++ ts', root, fun position => run_append_eq_ok.mpr ⟨_, ?_, hrest _⟩⟩
      rw [run_snoc (hrun position (g :: outer)), step_closing]
      refine ⟨some e, rfl, leave_cons.mpr ⟨_, ?_, rfl⟩⟩
      simp only [Option.map_some, Option.toList_some, Frame.feedAll, Frame.feed, he', bind, Except.bind]

def ofOpen : List Frame → Reading
  | [] => start
  | f :: outer => inside f outer

/-- Tokens that leave sections open are read without a fault. -/
theorem Opens.run (h : Opens fs ts) : start.run 0 ts = .ok (ofOpen fs) := by
  induction h with
  | nil => rfl
  | @cons f outer before ts d ps around content state depth ih =>
    have hopen : (ofOpen outer).step before.length .opening =
        .ok (inside { opened := before.length } outer) := by
      cases outer with
      | nil => rfl
      | cons g outer =>
        simp only [List.length_cons] at depth
        simp only [ofOpen, step]
        rw [if_pos (by omega)]
    have hinner := run_content content (before.length + 1) _ f outer state depth
    rw [← Nat.zero_add before.length] at hopen hinner
    exact run_append_eq_ok.mpr ⟨_, ih, run_cons_eq_ok.mpr ⟨_, hopen, hinner⟩⟩

theorem Opens.pending_eq_none (h : Opens fs ts) : ∀ g ∈ fs, g.node = none → g.pending = none := by
  induction h with
  | nil => exact nofun
  | cons around content state depth ih =>
    exact List.forall_mem_cons.mpr ⟨(Frame.stands_of_feedAll state).pending_eq_none, ih⟩

theorem Opens.continues (h : Opens fs ts) (hfits : Fits fs) : Continues ts := by
  have hrun := h.run
  cases fs with
  | nil =>
    cases h
    exact ⟨[.opening, .variable 0, .closing], .var 0, fun _ => rfl⟩
  | cons f outer =>
    obtain ⟨more, e, hdone⟩ := exists_run_done hfits h.pending_eq_none
    refine ⟨more, e, fun source => parseTokens_eq_ok.mpr ?_⟩
    exact bind_eq_ok.mpr ⟨_, run_append_eq_ok.mpr ⟨_, hrun, hdone _⟩, rfl⟩

/-- Where a section stands behind an operand, whatever opens behind it is a group behind an operand. -/
theorem Opens.exists_operand (h : Opens fs ts) {full : Frame} (hmem : full ∈ fs) (hfull : full.IsFull) :
    ∃ around inner deeper d, ∃ c : Chain, Content d inner c.parts ∧ staysInside 0 deeper = true ∧
      ts ++ [.opening] = around ++ .opening :: (inner ++ .opening :: deeper) := by
  induction h with
  | nil => cases hmem
  | @cons f outer before ts d ps around content state depth ih =>
    obtain rfl | hmem := List.mem_cons.mp hmem
    · obtain ⟨c, rfl⟩ := (Frame.stands_of_feedAll state).exists_chain hfull
      exact ⟨before, ts, [], d, c, content, rfl, by simp⟩
    · obtain ⟨around, inner, deeper, d', c, hinner, hdeeper, hbefore⟩ := ih hmem
      refine ⟨around, inner, deeper ++ (ts ++ [.opening]), d', c, hinner,
        staysInside_append hdeeper ((content.staysInside 0 _).trans rfl), ?_⟩
      calc (before ++ .opening :: ts) ++ [.opening]
          = (before ++ [.opening]) ++ (ts ++ [.opening]) := by simp
        _ = _ := by rw [hbefore]; simp

/-- Sections that do not fit are due to a misplaced group. -/
theorem Opens.misplaced (h : Opens fs ts) (hfits : ¬ Fits fs) : Misplaced ts := by
  induction h with
  | nil => exact absurd List.Pairwise.nil hfits
  | @cons f outer before ts d ps around content state depth ih =>
    by_cases houter : Fits outer
    · have hpair : ¬ ∀ g ∈ outer, f.IsOccupied → ¬ g.IsFull :=
        fun hall => hfits (List.pairwise_cons.mpr ⟨hall, houter⟩)
      push Not at hpair
      obtain ⟨full, hmem, hoccupied, hfull⟩ := hpair
      obtain ⟨e, he⟩ := (Frame.stands_of_feedAll state).exists_operand hoccupied
      obtain ⟨i, hi⟩ := content.exists_variable he
      obtain ⟨front, more, rfl⟩ := List.append_of_mem hi
      obtain ⟨around', inner, deeper, d', c, hinner, hdeeper, hbefore⟩ := around.exists_operand hmem hfull
      have hfront : staysInside 0 front = true := by
        have := content.staysInside 0 []
        rw [List.append_nil] at this
        exact staysInside_of_append this
      have htokens : before ++ .opening :: (front ++ .variable i :: more) =
          around' ++ .opening :: (inner ++ .opening :: ((deeper ++ front) ++ .variable i :: more)) := by
        calc before ++ .opening :: (front ++ .variable i :: more)
            = (before ++ [.opening]) ++ (front ++ .variable i :: more) := by simp
          _ = _ := by rw [hbefore]; simp
      rw [htokens]
      exact .group hinner (staysInside_append hdeeper hfront)
    · exact (ih houter).append _

/-- What is read without a fault goes on just if it has no misplaced group. -/
theorem Opens.continues_iff (h : Opens fs ts) : Continues ts ↔ ¬ Misplaced ts := by
  constructor
  · exact fun hcontinues hmisplaced => hmisplaced.not_continues hcontinues
  · intro hmisplaced
    by_contra hcontinues
    exact hmisplaced (h.misplaced fun hfits => hcontinues (h.continues hfits))

end Reading

end MediaCatalogue.Formula
