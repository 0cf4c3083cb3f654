import MediaCatalogue.Proofs.Formula.Frame

/-! A token list is read as a formula exactly when the grammar has it as one section. A section that
the grammar has is read from any state of the sections around it; and whatever has been read without
a fault leaves a stack of open sections, each with content that the grammar has. -/

namespace MediaCatalogue

namespace Formula

theorem blame_eq_ok {α : Type} {position : Nat} {x : Except Fault α} {a : α} :
    blame position x = .ok a ↔ x = .ok a := by
  cases x <;> simp [blame]

namespace Reading

theorem run_append (position : Nat) (s : Reading) (ts us : List Token) :
    s.run position (ts ++ us) =
      s.run position ts >>= fun s' => s'.run (position + ts.length) us := by
  induction ts generalizing position s with
  | nil => rfl
  | cons t ts ih =>
    simp only [List.cons_append, run, List.length_cons]
    cases s.step position t with
    | error fault => rfl
    | ok s' =>
      have := ih (position + 1) s'
      rw [Nat.add_assoc, Nat.add_comm 1] at this
      exact this

theorem run_snoc {position : Nat} {s s' : Reading} {ts : List Token}
    (h : s.run position ts = .ok s') (t : Token) :
    s.run position (ts ++ [t]) = s'.step (position + ts.length) t := by
  rw [run_append, h]
  cases h' : s'.step (position + ts.length) t <;> simp [run, h', bind, Except.bind]

/-- A token other than a parenthesis only changes the innermost section. -/
theorem step_part {t : Token} {p : Part} (ht : t.part? = some p) (position : Nat) (f : Frame)
    (outer : List Frame) {s : Reading} :
    (inside f outer).step position t = .ok s ↔ ∃ g, f.feed p = .ok g ∧ inside g outer = s := by
  cases t with
  | «variable» i =>
    cases ht
    simp only [step, map_eq_ok, blame_eq_ok, Frame.feed]
  | connective c =>
    cases ht
    simp only [step, map_eq_ok, blame_eq_ok, Frame.feed]
  | not =>
    cases ht
    simp [step, Frame.feed]
  | opening => cases ht
  | closing => cases ht

/-- A group hands its tree, if it has one, to the section around it. -/
theorem leave_cons {opened : Nat} {root : Option Expr} {f : Frame} {outer : List Frame} {s : Reading} :
    leave opened root (f :: outer) = .ok s ↔
      ∃ g, f.feedAll (root.map Part.operand).toList = .ok g ∧ inside g outer = s := by
  cases root with
  | none => simp [leave, Frame.feedAll]
  | some e =>
    simp only [leave, map_eq_ok, blame_eq_ok, Option.map_some, Option.toList_some, Frame.feedAll,
      Frame.feed]
    cases f.operand e <;> simp [bind, Except.bind]

theorem step_closing {position : Nat} {f : Frame} {outer : List Frame} {s : Reading} :
    (inside f outer).step position .closing = .ok s ↔
      ∃ root, f.close = .ok root ∧ leave f.opened root outer = .ok s := by
  simp only [step, bind_eq_ok, blame_eq_ok]

/-- Content that the grammar has takes a section from the state before its parts to the one behind. -/
theorem run_content {d : Nat} {ts : List Token} {ps : List Part} (h : Content d ts ps) :
    ∀ (position : Nat) (f g : Frame) (outer : List Frame), f.feedAll ps = .ok g →
      outer.length + d ≤ maxDepth →
      (inside f outer).run position ts = .ok (inside g outer) := by
  induction h with
  | nil =>
    intro position f g outer hf _
    cases hf
    rfl
  | @plain d ts ps t p before part ih =>
    intro position f g outer hf hd
    rw [Frame.feedAll_append, bind_eq_ok] at hf
    obtain ⟨f', hf', hp⟩ := hf
    rw [run_snoc (ih position f f' outer hf' hd), step_part part]
    obtain ⟨g', hg', hg⟩ := bind_eq_ok.mp hp
    cases hg
    exact ⟨g, hg', rfl⟩
  | @group d d' ts us ps qs root before inner shape ih ih' =>
    intro position f g outer hf hd
    rw [Frame.feedAll_append, bind_eq_ok] at hf
    obtain ⟨f', hf', hroot⟩ := hf
    obtain ⟨i, hi, hclose⟩ := shape.closes (position + ts.length)
    rw [run_append, ih position f f' outer hf' (by omega)]
    have hopen : (inside f' outer).step (position + ts.length) .opening =
        .ok (inside { opened := position + ts.length } (f' :: outer)) := by
      simp only [step]
      rw [if_pos (by omega)]
    have hinner := ih' (position + ts.length + 1) { opened := position + ts.length } i (f' :: outer)
      hi (by simp only [List.length_cons]; omega)
    simp only [bind, Except.bind, run, hopen]
    rw [run_snoc hinner, step_closing]
    exact ⟨root, hclose, leave_cons.mpr ⟨g, hroot, rfl⟩⟩

/-- `Opens fs ts`: behind the tokens `ts` the sections `fs` are open, the nearest first. -/
inductive Opens : List Frame → List Token → Prop where
  | nil : Opens [] []
  | cons {f : Frame} {outer : List Frame} {before ts : List Token} {d : Nat} {ps : List Part}
      (around : Opens outer before) (content : Content d ts ps)
      (state : Frame.feedAll { opened := before.length } ps = .ok f)
      (depth : outer.length + d ≤ maxDepth) : Opens (f :: outer) (before ++ .opening :: ts)

/-- `Follows s ts`: the tokens `ts` lead to the state `s`. -/
inductive Follows : Reading → List Token → Prop where
  | start : Follows start []
  | inside {f : Frame} {outer : List Frame} {ts : List Token} (h : Opens (f :: outer) ts) :
      Follows (inside f outer) ts
  | done {d : Nat} {ts : List Token} {ps : List Part} {root : Option Expr} (content : Content d ts ps)
      (depth : d ≤ maxDepth) (shape : Shape ps root) :
      Follows (done root) (.opening :: (ts ++ [.closing]))

theorem Opens.plain {f g : Frame} {outer : List Frame} {ts : List Token} {t : Token} {p : Part}
    (h : Opens (f :: outer) ts) (part : t.part? = some p) (hp : f.feed p = .ok g) :
    Opens (g :: outer) (ts ++ [t]) := by
  cases h with
  | cons around content state depth =>
    rw [List.append_assoc, List.cons_append]
    exact .cons around (.plain content part) ((Frame.feedAll_snoc state p).trans hp) depth

theorem Opens.closing {f : Frame} {outer : List Frame} {ts : List Token} {root : Option Expr}
    {s : Reading} (h : Opens (f :: outer) ts) (hc : f.close = .ok root)
    (hs : leave f.opened root outer = .ok s) : Follows s (ts ++ [.closing]) := by
  cases h with
  | @cons _ _ before us d ps around content state depth =>
    have shape := (Frame.stands_of_feedAll state).shape hc
    cases around with
    | nil =>
      cases hs
      exact .done content (by simpa using depth) shape
    | @cons f' outer before ts' d' ps' around content' state' depth' =>
      obtain ⟨g, hg, rfl⟩ := leave_cons.mp hs
      have state : Frame.feedAll { opened := before.length } (ps' ++ (root.map Part.operand).toList) =
          .ok g := by
        rw [Frame.feedAll_append, state']
        exact hg
      have := Opens.cons around (content'.group content shape) state
        (by simp only [List.length_cons] at depth; omega)
      exact .inside (by simpa using this)

theorem Follows.step {s s' : Reading} {ts : List Token} {t : Token} (h : Follows s ts)
    (hs : s.step ts.length t = .ok s') : Follows s' (ts ++ [t]) := by
  cases h with
  | start =>
    cases t <;> simp only [Reading.step, Except.ok.injEq, reduceCtorEq] at hs
    subst hs
    exact .inside (.cons .nil .nil rfl (Nat.zero_le _))
  | @inside f outer ts h =>
    cases ht : t.part? with
    | some p =>
      obtain ⟨g, hg, rfl⟩ := (step_part ht _ f outer).mp hs
      exact .inside (h.plain ht hg)
    | none =>
      cases t with
      | «variable» i => cases ht
      | connective c => cases ht
      | not => cases ht
      | opening =>
        simp only [Reading.step] at hs
        split at hs
        · next hd =>
          cases hs
          exact .inside (.cons h .nil rfl (by simp only [List.length_cons]; omega))
        · cases hs
      | closing =>
        obtain ⟨root, hc, hl⟩ := step_closing.mp hs
        exact h.closing hc hl
  | done content depth shape => simp [Reading.step] at hs

theorem Follows.run {s s' : Reading} {ts us : List Token} (h : Follows s ts)
    (hs : s.run ts.length us = .ok s') : Follows s' (ts ++ us) := by
  induction us generalizing s ts with
  | nil =>
    cases hs
    simpa using h
  | cons u us ih =>
    obtain ⟨s₁, hu, hs⟩ := bind_eq_ok.mp hs
    simpa using ih (h.step hu) (by simpa using hs)

end Reading

/-- A section of the grammar is read as its tree. -/
theorem readTokens_section {d : Nat} {ts : List Token} {ps : List Part} {e : Expr}
    (content : Content d ts ps) (depth : d ≤ maxDepth) (shape : Shape ps (some e)) :
    readTokens (.opening :: (ts ++ [.closing])) = .ok e := by
  obtain ⟨f, hf, hclose⟩ := shape.closes 0
  have hrun := Reading.run_content content 1 { opened := 0 } f [] hf (by simpa using depth)
  have hdone : Reading.start.run 0 (.opening :: (ts ++ [.closing])) = .ok (.done (some e)) := by
    simp only [Reading.run, Reading.step, bind, Except.bind]
    rw [Reading.run_snoc hrun, Reading.step_closing]
    exact ⟨some e, hclose, rfl⟩
  unfold readTokens
  rw [hdone]
  rfl

/-- What is read as a tree is a section of the grammar. -/
theorem section_of_readTokens {tokens : List Token} {e : Expr} (h : readTokens tokens = .ok e) :
    ∃ d ts ps, tokens = .opening :: (ts ++ [.closing]) ∧ d ≤ maxDepth ∧ Content d ts ps ∧
      Shape ps (some e) := by
  obtain ⟨s, hs, hf⟩ := bind_eq_ok.mp h
  have follows := Reading.Follows.run .start hs
  rw [List.nil_append] at follows
  cases follows with
  | start => cases hf
  | inside _ => cases hf
  | @done d ts ps root content depth shape =>
    cases root with
    | none => cases hf
    | some e' =>
      cases hf
      exact ⟨d, ts, ps, rfl, depth, content, shape⟩

theorem parseTokens_eq_ok {tokens : List Token} {source : List Char} {e : Expr} :
    parseTokens tokens source = .ok e ↔ readTokens tokens = .ok e := by
  unfold parseTokens
  cases readTokens tokens <;> simp

/-- The parser accepts exactly one section of the grammar, with groups at most `maxDepth` deep, and
gives the tree of its shape. -/
theorem parseTokens_accepts_iff (tokens : List Token) (source : List Char) (e : Expr) :
    parseTokens tokens source = .ok e ↔
      ∃ d ts ps, tokens = .opening :: (ts ++ [.closing]) ∧ d ≤ maxDepth ∧ Content d ts ps ∧
        Shape ps (some e) := by
  rw [parseTokens_eq_ok]
  constructor
  · exact section_of_readTokens
  · rintro ⟨d, ts, ps, rfl, depth, content, shape⟩
    exact readTokens_section content depth shape

end Formula

end MediaCatalogue
