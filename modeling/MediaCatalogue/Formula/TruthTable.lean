import MediaCatalogue.Formula.Basic

/-! All assignments of a number of variables, and the truth table of a formula. Row `i` gives the
variable `k` the bit `k` of `i`. -/

namespace MediaCatalogue

namespace Formula

/-- The assignments that are still to come of those of `width` variables. -/
structure Assignments where
  width : Nat
  /-- The number of all rows. -/
  rows : UInt64
  /-- The row that comes next. -/
  next : UInt64 := 0
  deriving DecidableEq

namespace Assignments

def maxWidth : Nat := 63

def ofWidth (width : Nat) : Assignments :=
  let width := min width maxWidth
  { width, rows := 1 <<< width.toUInt64 }

def remaining (a : Assignments) : Nat := (a.rows - a.next).toNat

def row (a : Assignments) (i : UInt64) : List Bool :=
  (List.range a.width).map fun k => (i >>> k.toUInt64) &&& 1 == 1

def next? (a : Assignments) : Option (List Bool × Assignments) :=
  if a.next < a.rows then some (a.row a.next, { a with next := a.next + 1 }) else none

/-- The next `n` rows, or as many as there are, and what is left then. -/
def take (a : Assignments) : Nat → List (List Bool) × Assignments
  | 0 => ([], a)
  | n + 1 =>
    match a.next? with
    | none => ([], a)
    | some (r, a) => let (rs, a) := a.take n; (r :: rs, a)

def toList (a : Assignments) : List (List Bool) :=
  (List.range a.remaining).map fun i => a.row (a.next + i.toUInt64)

end Assignments

def assignments (f : Formula) : Assignments := .ofWidth f.letters.length

structure Row where
  inputs : List Bool
  output : Bool
  deriving DecidableEq

def rowOf (f : Formula) (inputs : List Bool) : Row := { inputs, output := f.root.eval inputs }

def tableRows (f : Formula) : List Row := f.assignments.toList.map f.rowOf

def bit (b : Bool) : Char := if b then '1' else '0'

def Row.text (r : Row) : String :=
  String.ofList (r.inputs.flatMap fun b => [bit b, '|']) ++ String.ofList [bit r.output, '\n']

def tableHeader (f : Formula) : String :=
  String.ofList (f.letters.flatMap fun c => [c, '|']) ++ f.display ++ "\n"

/-- The truth table as text: a header line, then one line for each row. -/
def tableText (f : Formula) : String :=
  String.join (f.tableHeader :: f.tableRows.map Row.text)

end Formula

end MediaCatalogue
