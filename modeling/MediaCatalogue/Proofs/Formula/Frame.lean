import MediaCatalogue.Formula.Section
import MediaCatalogue.Proofs.Fallible
import MediaCatalogue.Proofs.Formula.Grammar

/-! The state of one open section after any parts: it closes exactly when the parts have one of the
two shapes, and then holds the tree of that shape. -/

namespace MediaCatalogue

namespace Formula

theorem nots_succ (n : Nat) : nots (n + 1) = nots n ++ [.not] := List.replicate_succ'

def odd (n : Nat) : Bool := decide (n % 2 = 1)

theorem odd_succ (n : Nat) : odd (n + 1) = !odd n := by
  unfold odd
  rcases Nat.mod_two_eq_zero_or_one n with h | h
  · simp [show (n + 1) % 2 = 1 by omega, h]
  · simp [show (n + 1) % 2 = 0 by omega, h]

theorem odd_add (m n : Nat) : odd (m + n) = (odd m ^^ odd n) := by
  induction n with
  | zero => simp [odd]
  | succ n ih => rw [← Nat.add_assoc, odd_succ, odd_succ, ih, Bool.xor_not]

theorem odd_eq_false {n : Nat} : odd n = false ↔ n % 2 = 0 := by
  unfold odd
  rw [decide_eq_false_iff_not]
  omega

theorem signed_eq (n : Nat) (e : Expr) : (if odd n = true then .not e else e) = signed n e := by
  simp only [odd, signed, decide_eq_true_eq]

theorem Chain.parts_snoc (c : Chain) (k : Connective) (n : Nat) (e : Expr) :
    (c.snoc k n e).parts = c.parts ++ .connective k :: nots n ++ [.operand e] := by
  simp [Chain.parts, Chain.snoc, Link.parts, nots]

theorem Chain.expr_snoc (c : Chain) (k : Connective) (n : Nat) (e : Expr) :
    (c.snoc k n e).expr = .binary k c.expr (signed (c.trailing + n) e) := by
  simp [Chain.expr, Chain.snoc, Chain.join]

namespace Frame

def feed (f : Frame) : Part → Except Fault Frame
  | .not => .ok f.negate
  | .connective c => f.connect c
  | .operand e => f.operand e

def feedAll (f : Frame) : List Part → Except Fault Frame
  | [] => .ok f
  | p :: ps => f.feed p >>= fun g => g.feedAll ps

theorem feedAll_append (f : Frame) (ps qs : List Part) :
    f.feedAll (ps ++ qs) = f.feedAll ps >>= fun g => g.feedAll qs := by
  induction ps generalizing f with
  | nil => rfl
  | cons p ps ih =>
    simp only [List.cons_append, feedAll]
    cases f.feed p with
    | error fault => rfl
    | ok g => exact ih g

theorem feedAll_snoc {f g : Frame} {ps : List Part} (h : f.feedAll ps = .ok g) (p : Part) :
    f.feedAll (ps ++ [p]) = g.feed p := by
  rw [feedAll_append, h]
  cases h' : g.feed p <;> simp [feedAll, h', bind, Except.bind]

theorem feedAll_nots (f : Frame) (n : Nat) :
    f.feedAll (nots n) = .ok { f with negated := f.negated ^^ odd n } := by
  induction n with
  | zero => simp [nots, feedAll, odd]
  | succ n ih =>
    rw [nots_succ, feedAll_snoc ih, odd_succ]
    simp [feed, negate]

/-- The state of a section with the parts `ps`: before any operand, behind an operand, or behind a
connective. Of the negations since then only the parity is kept. -/
inductive Stands (opened : Nat) : Frame → List Part → Prop where
  | start (n : Nat) : Stands opened { opened, negated := odd n } (nots n)
  | operand (c : Chain) :
      Stands opened { opened, node := some c.expr, negated := odd c.trailing } c.parts
  | connective (c : Chain) (k : Connective) (n : Nat) :
      Stands opened { opened, node := some c.expr, pending := some k, negated := odd (c.trailing + n) }
        (c.parts ++ .connective k :: nots n)

theorem Stands.feed {opened : Nat} {f g : Frame} {ps : List Part} {p : Part}
    (h : Stands opened f ps) (hp : f.feed p = .ok g) : Stands opened g (ps ++ [p]) := by
  cases h with
  | start n =>
    cases p with
    | not =>
      cases hp
      rw [← nots_succ]
      simpa [negate, ← odd_succ] using @Stands.start opened (n + 1)
    | connective c => simp [Frame.feed, connect] at hp
    | operand e =>
      simp only [Frame.feed, Frame.operand, signed_eq, Except.ok.injEq] at hp
      subst hp
      simpa [Chain.parts, Chain.expr, nots, odd] using @Stands.operand opened ⟨n, e, [], 0⟩
  | operand c =>
    cases p with
    | not =>
      cases hp
      have := @Stands.operand opened { c with trailing := c.trailing + 1 }
      simpa [negate, ← odd_succ, Chain.parts, Chain.expr, nots_succ] using this
    | connective k =>
      cases hp
      exact Stands.connective c k 0
    | operand e => simp [Frame.feed, Frame.operand] at hp
  | connective c k n =>
    cases p with
    | not =>
      cases hp
      have := @Stands.connective opened c k (n + 1)
      simpa [negate, ← odd_succ, nots_succ, Nat.add_assoc] using this
    | connective c => simp [Frame.feed, connect] at hp
    | operand e =>
      simp only [Frame.feed, Frame.operand, signed_eq, Except.ok.injEq] at hp
      subst hp
      rw [← Chain.expr_snoc, ← Chain.parts_snoc]
      exact Stands.operand (c.snoc k n e)

theorem Stands.feedAll {opened : Nat} {f g : Frame} {ps qs : List Part}
    (h : Stands opened f ps) (hq : f.feedAll qs = .ok g) : Stands opened g (ps ++ qs) := by
  induction qs generalizing f ps with
  | nil =>
    cases hq
    simpa using h
  | cons q qs ih =>
    obtain ⟨f', hf, hq⟩ := bind_eq_ok.mp hq
    simpa using ih (h.feed hf) hq

theorem stands_of_feedAll {opened : Nat} {f : Frame} {ps : List Part}
    (h : feedAll { opened } ps = .ok f) : Stands opened f ps :=
  Stands.feedAll (Stands.start 0) h

/-- A section that closes has one of the two shapes. -/
theorem Stands.shape {opened : Nat} {f : Frame} {ps : List Part} {root : Option Expr}
    (h : Stands opened f ps) (hc : f.close = .ok root) : Shape ps root := by
  cases h with
  | start n =>
    cases hn : odd n with
    | true => simp [close, hn] at hc
    | false =>
      simp only [close, hn, Bool.false_eq_true, if_false, Except.ok.injEq] at hc
      subst hc
      exact Shape.empty (odd_eq_false.mp hn)
  | operand c =>
    cases hn : odd c.trailing with
    | true => simp [close, hn] at hc
    | false =>
      simp only [close, hn, Bool.false_eq_true, if_false, Except.ok.injEq] at hc
      subst hc
      exact Shape.joined c (odd_eq_false.mp hn)
  | connective c k n => simp [close] at hc

theorem feedAll_link (opened : Nat) (e : Expr) (l : Link) :
    feedAll { opened, node := some e } l.parts = .ok { opened, node := some (Chain.join e l) } := by
  unfold Link.parts
  rw [feedAll_append, feedAll_nots]
  simp only [bind, Except.bind, feedAll, feed, connect]
  rw [feedAll_snoc (feedAll_nots _ _)]
  simp [feed, operand, Chain.join, ← signed_eq, odd_add]

theorem feedAll_links (opened : Nat) (e : Expr) (links : List Link) :
    feedAll { opened, node := some e } (links.flatMap Link.parts) =
      .ok { opened, node := some (links.foldl Chain.join e) } := by
  induction links generalizing e with
  | nil => rfl
  | cons l links ih =>
    rw [List.flatMap_cons, feedAll_append, feedAll_link]
    exact ih (Chain.join e l)

theorem feedAll_chain (opened : Nat) (c : Chain) :
    feedAll { opened } c.parts =
      .ok { opened, node := some c.expr, negated := odd c.trailing } := by
  unfold Chain.parts
  rw [feedAll_append, feedAll_nots]
  simp only [bind, Except.bind, feedAll, feed, operand, Bool.false_xor, signed_eq]
  rw [feedAll_append, feedAll_links]
  simp only [bind, Except.bind]
  rw [feedAll_nots, Bool.false_xor]
  rfl

end Frame

/-- A section of either shape closes, with the tree of the shape. -/
theorem Shape.closes {ps : List Part} {root : Option Expr} (h : Shape ps root) (opened : Nat) :
    ∃ f, Frame.feedAll { opened } ps = .ok f ∧ f.close = .ok root := by
  cases h with
  | @empty n even =>
    refine ⟨_, Frame.feedAll_nots _ n, ?_⟩
    simp [Frame.close, odd_eq_false.mpr even]
  | joined c even =>
    refine ⟨_, Frame.feedAll_chain opened c, ?_⟩
    simp [Frame.close, odd_eq_false.mpr even]

end Formula

end MediaCatalogue
