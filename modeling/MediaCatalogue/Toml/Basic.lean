/-! TOML values. Dates and fractions have no use in settings, so of a date nothing is kept, and of a
number with a fraction only whether a double can hold it. -/

namespace MediaCatalogue

/-- How a table came to be, which decides what may be added to it. -/
inductive Toml.Origin where
  /-- Between braces; it is complete. -/
  | inline
  /-- Under a header of its own. -/
  | header
  /-- By a header of a table below it. -/
  | implied
  /-- By a dotted key. -/
  | dotted
  deriving DecidableEq

inductive Toml where
  | text (s : String)
  | integer (n : Int)
  | decimal (fits : Bool)
  | boolean (b : Bool)
  | moment
  /-- A list; `open_` if its tables have headers and more can follow. -/
  | array (items : List Toml) (open_ : Bool)
  | table (origin : Toml.Origin) (entries : List (String × Toml))

namespace Toml

/-- The entries of a table, in the order in which they were first named. -/
abbrev Entries := List (String × Toml)

/-- Whether an integer fits in 128 bits, with or without a sign. -/
def integerFits (n : Int) : Bool := -((1 <<< 127 : Nat) : Int) ≤ n && n < ((1 <<< 128 : Nat) : Int)

mutual

def fits : Toml → Bool
  | .integer n => integerFits n
  | .decimal fits => fits
  | .array items _ => itemsFit items
  | .table _ entries => entriesFit entries
  | _ => true

def itemsFit : List Toml → Bool
  | [] => true
  | v :: vs => v.fits && itemsFit vs

def entriesFit : List (String × Toml) → Bool
  | [] => true
  | (_, v) :: vs => v.fits && entriesFit vs

end

def find? (key : String) (entries : Entries) : Option Toml :=
  (entries.find? (·.1 == key)).map (·.2)

def replace (key : String) (v : Toml) (entries : Entries) : Entries :=
  entries.map fun e => if e.1 == key then (key, v) else e

end Toml

end MediaCatalogue
