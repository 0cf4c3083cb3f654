import MediaCatalogue.Json.Basic

/-! Numbers in JSON. Integers of 64 bits are exact. All others are decimals, which must not be too
large for a double. -/

namespace MediaCatalogue.Json

def digitValue (c : Char) : Nat := c.toNat - '0'.toNat

/-- The digits at the front of a text. -/
def spanDigits (cs : List Char) : List Char × List Char :=
  (cs.takeWhile Char.isDigit, cs.dropWhile Char.isDigit)

def someDigits (cs : List Char) : Except Fault (List Char × List Char) :=
  match spanDigits cs with
  | ([], []) => .error .truncated
  | ([], _ :: _) => .error .malformed
  | found => .ok found

/-- The digits of an integer, which does not start with a zero that is not needed. -/
def wholeDigits : List Char → Except Fault (List Char × List Char)
  | '0' :: c :: cs => if c.isDigit then .error .malformed else .ok (['0'], c :: cs)
  | cs => someDigits cs

def largestWord : Nat := UInt64.size - 1

/-- Appends digits to `n` as long as the number fits in 64 bits; the second component counts the digits
that do not. -/
def absorb (n : Nat) : List Char → Nat × Nat
  | [] => (n, 0)
  | d :: ds =>
    if 10 * n + digitValue d ≤ largestWord then absorb (10 * n + digitValue d) ds
    else (n, ds.length + 1)

/-- The nearest number with 53 significant binary digits, of two the one whose last digit is even. -/
def roundToDouble (n : Nat) : Nat :=
  if n < 1 <<< 53 then n
  else
    let unit := 1 <<< (n.log2 - 52)
    let (q, r) := (n / unit, n % unit)
    (if 2 * r < unit || (2 * r == unit && q % 2 == 0) then q else q + 1) * unit

/-- Whether `significand * 10 ^ exponent` is too large for a double, the factors being rounded to
doubles before they are multiplied. -/
def isTooLarge (significand : Nat) (exponent : Int) : Bool :=
  significand != 0 && (308 < exponent ||
    (0 ≤ exponent &&
      1 <<< 1024 - 1 <<< 970 ≤ roundToDouble significand * roundToDouble (Nat.pow 10 exponent.toNat)))

/-- The parts of a number as it is written. -/
structure Numeral where
  negative : Bool
  whole : List Char
  /-- The fraction behind the point. -/
  fraction : List Char
  exponent : Option Int

namespace Numeral

/-- The integer that is written, if it is one of 64 bits. Zero has no sign. -/
def integer? (n : Numeral) : Option Int :=
  match n.fraction, n.exponent, absorb 0 n.whole with
  | [], none, (value, 0) =>
    if !n.negative then some value
    else if value = 0 ∨ 1 <<< 63 < value then none
    else some (-value)
  | _, _, _ => none

/-- Only as many leading digits count as fit in 64 bits. -/
def isTooLarge (n : Numeral) : Bool :=
  let (whole, skipped) := absorb 0 n.whole
  let (significand, dropped) := absorb whole n.fraction
  Json.isTooLarge significand
    (n.exponent.getD 0 + skipped - ((n.fraction.length : Int) - dropped))

end Numeral

def readFraction : List Char → Except Fault (List Char × List Char)
  | '.' :: cs => someDigits cs
  | cs => .ok ([], cs)

/-- The sign of an exponent. -/
def readSign : List Char → Int × List Char
  | '+' :: cs => (1, cs)
  | '-' :: cs => (-1, cs)
  | cs => (1, cs)

def readExponent : List Char → Except Fault (Option Int × List Char)
  | c :: cs =>
    if c == 'e' || c == 'E' then do
      let (sign, cs) := readSign cs
      let (digits, cs) ← someDigits cs
      return (some (sign * digits.foldl (fun n d => 10 * n + digitValue d) 0), cs)
    else .ok (none, c :: cs)
  | [] => .ok (none, [])

def readNumeral (cs : List Char) : Except Fault (Numeral × List Char) := do
  let (negative, cs) := match cs with
    | '-' :: cs => (true, cs)
    | cs => (false, cs)
  let (whole, cs) ← wholeDigits cs
  let (fraction, cs) ← readFraction cs
  let (exponent, cs) ← readExponent cs
  return ({ negative, whole, fraction, exponent }, cs)

/-- Reads a number, from its sign or its first digit on. -/
def readNumber (cs : List Char) : Except Fault (Json × List Char) := do
  let (numeral, rest) ← readNumeral cs
  match numeral.integer? with
  | some n => return (.integer n, rest)
  | none =>
    if numeral.isTooLarge then .error .malformed
    else return (.decimal (cs.take (cs.length - rest.length)), rest)

end MediaCatalogue.Json
