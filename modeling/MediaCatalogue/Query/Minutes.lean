/-! Numbers and durations in minutes: `90`, `-5`, `1:30`, `1h30m`. -/

namespace MediaCatalogue.Query

/-- The integers that fit in 64 bits with a sign. -/
def inRange (n : Int) : Bool := Int64.minValue.toInt ≤ n && n ≤ Int64.maxValue.toInt

def ranged? (n : Int) : Option Int := if inRange n then some n else none

def digits? (cs : List Char) : Option Nat :=
  if !cs.isEmpty && cs.all Char.isDigit then
    some (cs.foldl (fun n c => 10 * n + (c.toNat - '0'.toNat)) 0)
  else none

def integer? : List Char → Option Int
  | '+' :: cs => (digits? cs).bind fun n => ranged? n
  | '-' :: cs => (digits? cs).bind fun n => ranged? (-(n : Int))
  | cs => (digits? cs).bind fun n => ranged? n

/-- Hours and minutes on either side of the first colon. -/
def clock? (hours minutes : List Char) : Option Int := do
  let h ← integer? hours
  let m ← integer? minutes
  ranged? ((← ranged? (h * 60)) + m)

def isUnit (c : Char) : Bool := c == 'h' || c == 'm'

def unitFactor (c : Char) : Int := if c == 'h' then 60 else 1

/-- Adds groups of a number and its unit to `total`; `read` holds the number so far, the last digit
first. -/
def addUnits (total : Int) (read : List Char) : List Char → Option Int
  | [] => if read.isEmpty then some total else none
  | c :: cs =>
    if isUnit c then do
      let n ← integer? read.reverse
      addUnits (← ranged? (total + (← ranged? (n * unitFactor c)))) [] cs
    else addUnits total (c :: read) cs

def units? (cs : List Char) : Option Int := if cs.isEmpty then none else addUnits 0 [] cs

/-- The whole number of minutes that an operand stands for. -/
def minutesOf (cs : List Char) : Option Int :=
  match integer? cs with
  | some n => some n
  | none =>
    match cs.dropWhile (· != ':') with
    | ':' :: minutes => clock? (cs.takeWhile (· != ':')) minutes
    | _ => units? cs

def minutes? (text : String) : Option Int := minutesOf text.toList

end MediaCatalogue.Query
