import MediaCatalogue.Pattern.Node

/-! Where a compiled pattern can lead in a text. Sets of positions are numbers whose bit `i` stands
for the position before the character `i`. -/

namespace MediaCatalogue.Pattern

/-- The positions of the characters that `p` accepts. -/
def charMask (p : Char → Bool) : List Char → Nat
  | [] => 0
  | c :: cs => (if p c then 1 else 0) + 2 * charMask p cs

/-- The positions between characters that `p` accepts. -/
def gapMask (p : Option Char → Option Char → Bool) (before : Option Char) : List Char → Nat
  | [] => if p before none then 1 else 0
  | c :: cs => (if p before (some c) then 1 else 0) + 2 * gapMask p (some c) cs

/-- Applies `f` a number of times, or until nothing is left. -/
def iterate (f : Nat → Nat) : (times : Nat) → Nat → Nat
  | 0, s => s
  | n + 1, s => if s = 0 then 0 else iterate f n (f s)

/-- Everything that `f` reaches in at most `times` applications, or until nothing is new. -/
def closure (f : Nat → Nat) : (times : Nat) → Nat → Nat
  | 0, s => s
  | n + 1, s =>
    let grown := s ||| f s
    if grown = s then s else closure f n grown

/-- The positions where a match can end that starts at one of `starts`. -/
def Node.reach (text : List Char) (starts : Nat) : Node → Nat
  | .empty => starts
  | .one s => (starts &&& charMask s.contains text) <<< 1
  | .look l => starts &&& gapMask l.holds none text
  | .sequence l r => r.reach text (l.reach text starts)
  | .alternation l r => l.reach text starts ||| r.reach text starts
  | .repetition least most body =>
    let start := iterate (body.reach text ·) least starts
    match most with
    | none => closure (body.reach text ·) (text.length + 1) start
    | some most => closure (body.reach text ·) (most - least) start

def Node.occursIn (n : Node) (text : List Char) : Bool :=
  n.reach text (1 <<< (text.length + 1) - 1) != 0

def Node.spans (n : Node) (text : List Char) : Bool := (n.reach text 1).testBit text.length

end MediaCatalogue.Pattern
