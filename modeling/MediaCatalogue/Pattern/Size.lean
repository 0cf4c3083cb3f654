import MediaCatalogue.Pattern.Node

/-! The memory that the automaton of a pattern takes, by approximation. It is counted for the automaton
that reads a text backwards, byte by byte, because that one is the larger of the two that a search needs.
The case variants of a set are not counted, so near the limit an automaton can be larger than its count. -/

namespace MediaCatalogue.Pattern

/-- Ascending boundaries at which a set of code points begins and ends by turns. -/
abbrev Boundaries := List Nat

/-- Joins two sets with a truth function; `inL` and `inR` say whether the last boundaries passed lie
inside. -/
def joinBoundaries (join : Bool → Bool → Bool) :
    (fuel : Nat) → (inL inR : Bool) → Boundaries → Boundaries → Boundaries
  | 0, _, _, _, _ => []
  | fuel + 1, inL, inR, l, r =>
    let here := join inL inR
    let emit (inL inR : Bool) (at_ : Nat) (l r : Boundaries) : Boundaries :=
      let rest := joinBoundaries join fuel inL inR l r
      if join inL inR != here then at_ :: rest else rest
    match l, r with
    | [], [] => []
    | x :: l, [] => emit (!inL) inR x l []
    | [], y :: r => emit inL (!inR) y [] r
    | x :: l, y :: r =>
      if x < y then emit (!inL) inR x l (y :: r)
      else if y < x then emit inL (!inR) y (x :: l) r
      else emit (!inL) (!inR) x l r

def join (f : Bool → Bool → Bool) (l r : Boundaries) : Boundaries :=
  joinBoundaries f (l.length + r.length + 1) false false l r

/-- The boundaries of the runs whose value `p` accepts. -/
def runBoundaries (t : Unicode.RunTable) (p : String → Bool) : Boundaries :=
  let runs := t.starts.toList.zip t.values.toList
  (runs.foldl (fun (inside, out) (start, value) =>
    if p value != inside then (!inside, start :: out) else (inside, out)) (false, [])).2.reverse

def codeEnd : Nat := 0x110000

/-- The boundaries of a set, of its members alone where it stands for their case variants too. -/
def CharSet.boundaries : CharSet → Boundaries
  | none => []
  | range first last => if first ≤ last then [first.toNat, last.toNat + 1] else []
  | codes s => s.bounds.toList
  | category g => runBoundaries Unicode.categoryRuns g.members.contains
  | script code => runBoundaries Unicode.scriptRuns (· == code)
  | usedInScript code => runBoundaries Unicode.scriptRuns (· == code)
  | union l r => join (· || ·) l.boundaries r.boundaries
  | intersection l r => join (· && ·) l.boundaries r.boundaries
  | complement s => join (fun l r => l && !r) [0, codeEnd] s.boundaries
  | anyCase s => s.boundaries
  | anyAsciiCase s => s.boundaries

def rangesOf : Boundaries → List (Nat × Nat)
  | first :: stop :: rest => (first, stop - 1) :: rangesOf rest
  | [first] => [(first, codeEnd - 1)]
  | [] => []

def utf8Bytes (n : Nat) : List Nat :=
  if n < 0x80 then [n]
  else if n < 0x800 then [0xC0 + n / 64, 0x80 + n % 64]
  else if n < 0x10000 then [0xE0 + n / 4096, 0x80 + n / 64 % 64, 0x80 + n % 64]
  else [0xF0 + n / 262144, 0x80 + n / 4096 % 64, 0x80 + n / 64 % 64, 0x80 + n % 64]

/-- Where a range has to be split so that the encodings of each part differ by one range a byte. -/
def splitPoint? (lo hi : Nat) : Option Nat :=
  if lo < 0xE000 && 0xD800 ≤ hi && 0xD800 ≤ lo then some 0xE000
  else if lo < 0xD800 && 0xD800 ≤ hi then some 0xD800
  else
    match [0x80, 0x800, 0x10000].find? fun m => lo < m && m ≤ hi with
    | some m => some m
    | none =>
      if hi < 0x80 then none
      else [64, 4096, 262144].findSome? fun m =>
        if lo / m = hi / m then none
        else if lo % m ≠ 0 then some ((lo / m + 1) * m)
        else if hi % m ≠ m - 1 then some (hi / m * m)
        else none

/-- The ranges of bytes that the encodings of a range run through. -/
def byteRanges : (fuel lo hi : Nat) → List (List (Nat × Nat))
  | 0, _, _ => []
  | fuel + 1, lo, hi =>
    if 0xD800 ≤ lo && hi < 0xE000 then []
    else
      match splitPoint? lo hi with
      | some m => byteRanges fuel lo (m - 1) ++ byteRanges fuel m hi
      | none => [(utf8Bytes lo).zip (utf8Bytes hi)]

def commonLength : List (Nat × Nat) → List (Nat × Nat) → Nat
  | x :: xs, y :: ys => if x = y then commonLength xs ys + 1 else 0
  | _, _ => 0

/-- The number of nodes of the tree in which sequences share their beginnings. -/
def treeNodes (last : List (Nat × Nat)) : List (List (Nat × Nat)) → Nat
  | [] => 0
  | s :: rest => s.length - commonLength last s + treeNodes s rest

def stateBytes : Nat := 32

def linkBytes : Nat := 4

def transitionBytes : Nat := 8

def CharSet.bytes (s : CharSet) : Nat :=
  let ranges := rangesOf s.boundaries
  match s with
  | range first last =>
    if first = last then stateBytes * first.utf8Size else classBytes ranges
  | _ => classBytes ranges
where
  classBytes (ranges : List (Nat × Nat)) : Nat :=
    if ranges.all (·.2 < 0x80) then
      2 * stateBytes + (if ranges.length ≤ 1 then 0 else transitionBytes * ranges.length)
    else
      let sequences := ranges.flatMap fun (lo, hi) => byteRanges 64 lo hi
      stateBytes * (treeNodes [] sequences + 2) + linkBytes * sequences.length

namespace Node

/-- Whether the node matches nothing but the empty text. -/
def spansNothing : Node → Bool
  | empty => true
  | one _ => false
  | look _ => true
  | sequence l r => l.spansNothing && r.spansNothing
  | alternation l r => l.spansNothing && r.spansNothing
  | repetition _ most body => most == some 0 || body.spansNothing

def branchBytes : Nat := stateBytes + 2 * linkBytes

/-- The memory of the automaton of a node, as far as it is counted. -/
def bytes : Node → Nat
  | empty => stateBytes
  | one s => s.bytes
  | look _ => stateBytes
  | sequence l r => l.bytes + r.bytes
  | alternation l r => l.bytes + r.bytes + branchBytes
  | repetition least most body =>
    let once := body.spansNothing
    let least := if once then min least 1 else least
    match if once then some (min (most.getD 1) 1) else most with
    | none => max least 1 * body.bytes + branchBytes
    | some most =>
      if most = 0 then stateBytes
      else least * body.bytes + (most - least) * (body.bytes + branchBytes) + stateBytes

end Node

/-- The memory that the automaton of a pattern may take. -/
def maxBytes : Nat := 10 <<< 20

end MediaCatalogue.Pattern
