import MediaCatalogue.Toml.Basic

/-! TOML values without quotes or brackets: truth values, integers, fractions, dates and times. -/

namespace MediaCatalogue.Toml

/-! Integers -/

/-- Removes the underscores between digits. Each has to stand between two of them. -/
def ungroup (isDigit : Char → Bool) : Bool → List Char → Option (List Char)
  | afterDigit, [] => if afterDigit then some [] else none
  | afterDigit, c :: cs =>
    if c == '_' then if afterDigit then ungroup isDigit false cs else none
    else if isDigit c then (ungroup isDigit true cs).map (c :: ·)
    else none

/-- The digits of a group of digits, without the underscores. -/
def digits? (isDigit : Char → Bool) (cs : List Char) : Option (List Char) := ungroup isDigit false cs

def digitValue (c : Char) : Nat :=
  if c.isDigit then c.toNat - '0'.toNat else c.toLower.toNat - 'a'.toNat + 10

def isDigitOf (base : Nat) (c : Char) : Bool :=
  (c.isDigit || ('a' ≤ c && c ≤ 'f') || ('A' ≤ c && c ≤ 'F')) && digitValue c < base

def valueOf (base : Nat) (digits : List Char) : Nat :=
  digits.foldl (fun n c => base * n + digitValue c) 0

/-- Decimal digits; a zero in front is one too many. -/
def decimalDigits? (cs : List Char) : Option (List Char) :=
  match cs with
  | '0' :: _ :: _ => none
  | _ => digits? Char.isDigit cs

def natural? (base : Nat) (cs : List Char) : Option Nat :=
  (digits? (isDigitOf base) cs).map (valueOf base)

def sign : List Char → Int × List Char
  | '+' :: cs => (1, cs)
  | '-' :: cs => (-1, cs)
  | cs => (1, cs)

/-- A decimal integer with or without a sign, or one of another base, which has no sign. -/
def integer? : List Char → Option Int
  | '0' :: 'x' :: cs => (natural? 16 cs).map Int.ofNat
  | '0' :: 'o' :: cs => (natural? 8 cs).map Int.ofNat
  | '0' :: 'b' :: cs => (natural? 2 cs).map Int.ofNat
  | cs => (decimalDigits? (sign cs).2).map fun ds => (sign cs).1 * (valueOf 10 ds : Int)

/-! Fractions -/

def isExponentMark (c : Char) : Bool := c == 'e' || c == 'E'

/-- The digits behind the point, if there is one. -/
def fraction? : List Char → Option (List Char)
  | [] => some []
  | '.' :: cs => digits? Char.isDigit cs
  | _ => none

/-- The exponent behind its mark, if there is one. -/
def exponent? : List Char → Option Int
  | [] => some 0
  | _ :: cs =>
    (digits? Char.isDigit (sign cs).2).map fun ds => (sign cs).1 * (valueOf 10 ds : Int)

/-- Whether `n * 10 ^ e` rounds to a finite double. -/
def fitsDouble (n : Nat) (e : Int) : Bool :=
  let limit := 1 <<< 1024 - 1 <<< 970
  if n = 0 then true
  else if 0 ≤ e then e ≤ 308 && n * Nat.pow 10 e.toNat < limit
  else ((n.log2 + 1 : Nat) : Int) ≤ -e || n < limit * Nat.pow 10 (-e).toNat

/-- A number with a point or an exponent, or a word for infinity or for no number. -/
def decimal? (cs : List Char) : Option Bool := do
  let cs := (sign cs).2
  if cs = "inf".toList ∨ cs = "nan".toList then some true
  else
    let (mantissa, tail) := cs.span fun c => !isExponentMark c
    let (whole, rest) := mantissa.span (· != '.')
    if rest = [] ∧ tail = [] then none
    else
      let whole ← decimalDigits? whole
      let fraction ← fraction? rest
      let exponent ← exponent? tail
      some (fitsDouble (valueOf 10 (whole ++ fraction)) (exponent - fraction.length))

/-! Dates and times -/

/-- A number of `width` digits that lies between bounds, and the rest. -/
def field? (width low high : Nat) (cs : List Char) : Option (Nat × List Char) :=
  let (digits, rest) := cs.span Char.isDigit
  let n := valueOf 10 digits
  if digits.length = width ∧ low ≤ n ∧ n ≤ high then some (n, rest) else none

def expect? (c : Char) : List Char → Option (List Char)
  | [] => none
  | d :: cs => if d == c then some cs else none

def isLeapYear (year : Nat) : Bool := year % 4 == 0 && (year % 100 != 0 || year % 400 == 0)

def daysIn (year month : Nat) : Nat :=
  if month = 2 then if isLeapYear year then 29 else 28
  else if [4, 6, 9, 11].contains month then 30
  else 31

def date? (cs : List Char) : Option (List Char) := do
  let (year, cs) ← field? 4 0 9999 cs
  let (month, cs) ← field? 2 1 12 (← expect? '-' cs)
  let (_, cs) ← field? 2 1 (daysIn year month) (← expect? '-' cs)
  return cs

/-- Seconds, which can have a fraction. -/
def seconds? (cs : List Char) : Option (List Char) := do
  let (_, cs) ← field? 2 0 60 cs
  match cs with
  | '.' :: cs => if (cs.takeWhile Char.isDigit).isEmpty then none else some (cs.dropWhile Char.isDigit)
  | cs => some cs

def hourAndMinute? (cs : List Char) : Option (List Char) := do
  let (_, cs) ← field? 2 0 23 cs
  let (_, cs) ← field? 2 0 59 (← expect? ':' cs)
  return cs

def time? (cs : List Char) : Option (List Char) := do
  match ← hourAndMinute? cs with
  | ':' :: cs => seconds? cs
  | cs => some cs

/-- The offset from universal time, if there is one, and the end. -/
def offset? : List Char → Bool
  | [] => true
  | ['Z'] => true
  | ['z'] => true
  | '+' :: cs => hourAndMinute? cs == some []
  | '-' :: cs => hourAndMinute? cs == some []
  | _ => false

/-- Whether a text is a date, a time or both. -/
def isMoment (cs : List Char) : Bool :=
  match date? cs with
  | some [] => true
  | some (c :: cs) =>
    [' ', 'T', 't'].contains c && match time? cs with
      | some rest => offset? rest
      | none => false
  | none => time? cs == some []

/-- The value that a text without quotes and brackets stands for. -/
def scalar? (cs : List Char) : Option Toml :=
  if cs = "true".toList then some (.boolean true)
  else if cs = "false".toList then some (.boolean false)
  else
    match integer? cs with
    | some n => some (.integer n)
    | none =>
      match decimal? cs with
      | some fits => some (.decimal fits)
      | none => if isMoment cs then some .moment else none

end MediaCatalogue.Toml
