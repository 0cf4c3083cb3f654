/-! Sets and partitions of the code points, kept as ascending arrays of boundaries and searched by
halving. Tables are written as words: `41-5A` is a range and `41` a single code point. -/

namespace MediaCatalogue.Unicode

/-- Halves the range from `lo` to `hi`, at most `fuel` times. -/
def rankBetween (a : Array Nat) (x : Nat) : (fuel lo hi : Nat) → Nat
  | 0, lo, _ => lo
  | fuel + 1, lo, hi =>
    if lo < hi then
      let mid := (lo + hi) / 2
      if a.getD mid 0 ≤ x then rankBetween a x fuel (mid + 1) hi else rankBetween a x fuel lo mid
    else lo

/-- How many entries of the ascending array `a` are at most `x`. -/
def rank (a : Array Nat) (x : Nat) : Nat := rankBetween a x (a.size.log2 + 1) 0 a.size

def digitValue (c : Char) : Nat :=
  if c.isDigit then c.toNat - '0'.toNat else c.toNat - 'A'.toNat + 10

/-- The number that capital hexadecimal digits stand for. -/
def hexNumber (s : String) : Nat := s.toList.foldl (fun n c => 16 * n + digitValue c) 0

def words (lines : List String) : List String := lines.flatMap (·.splitOn " ")

/-- A set of code points: every second boundary starts a range, the next one ends it. -/
structure CodeSet where
  bounds : Array Nat

namespace CodeSet

def contains (s : CodeSet) (c : Char) : Bool := rank s.bounds c.toNat % 2 == 1

def boundsOfWord (w : String) : List Nat :=
  match w.splitOn "-" with
  | [first, last] => [hexNumber first, hexNumber last + 1]
  | _ => [hexNumber w, hexNumber w + 1]

def ofLines (lines : List String) : CodeSet := ⟨((words lines).flatMap boundsOfWord).toArray⟩

end CodeSet

/-- A partition of the code points: the value at `i` holds from the start at `i` on. -/
structure RunTable where
  starts : Array Nat
  values : Array String

namespace RunTable

def value (t : RunTable) (c : Char) : String := t.values.getD (rank t.starts c.toNat - 1) ""

def runOfWord (w : String) : Nat × String :=
  match w.splitOn ":" with
  | [start, value] => (hexNumber start, value)
  | _ => (0, w)

def ofLines (lines : List String) : RunTable :=
  let runs := (words lines).map runOfWord
  ⟨(runs.map (·.1)).toArray, (runs.map (·.2)).toArray⟩

end RunTable

end MediaCatalogue.Unicode
