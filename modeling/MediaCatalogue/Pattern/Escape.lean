import MediaCatalogue.Pattern.Fault
import MediaCatalogue.Pattern.Tree
import MediaCatalogue.Text.Blank

/-! Single elements of a pattern: characters, escapes and what verbose mode skips. -/

namespace MediaCatalogue.Pattern

/-- Skips white space and comments, which run from `#` to the end of the line. -/
def skipVerbose (inComment : Bool) : List Char → List Char
  | [] => []
  | c :: cs =>
    if inComment then skipVerbose (c != '\n') cs
    else if isBlank c then skipVerbose false cs
    else if c == '#' then skipVerbose true cs
    else c :: cs

def skip (verbose : Bool) (cs : List Char) : List Char :=
  if verbose then skipVerbose false cs else cs

/-- An element that may stand in a pattern or in a class. -/
inductive Atom where
  | literal (l : Literal)
  | assertion (a : Assertion)
  | shorthand (s : Shorthand) (negated : Bool)
  | property (p : Property) (negated : Bool)
  deriving DecidableEq

def Atom.toTree : Atom → Tree
  | literal l => .literal l
  | assertion a => .assertion a
  | shorthand s negated => .shorthand s negated
  | property p negated => .property p negated

def Atom.toClass : Atom → Except Fault ClassTree
  | literal l => .ok (.literal l)
  | assertion _ => .error .classEscape
  | shorthand s negated => .ok (.shorthand s negated)
  | property p negated => .ok (.property p negated)

def Atom.toLiteral : Atom → Except Fault Literal
  | literal l => .ok l
  | _ => .error .classRange

abbrev Parsed (α : Type) := α × List Char

def hexValue? (c : Char) : Option Nat :=
  if '0' ≤ c && c ≤ '9' then some (c.toNat - 48)
  else if 'a' ≤ c && c ≤ 'f' then some (c.toNat - 87)
  else if 'A' ≤ c && c ≤ 'F' then some (c.toNat - 55)
  else none

/-- The character at a code point, unless it is a surrogate or out of range. -/
def scalar (n : Nat) : Except Fault Char :=
  if n.isValidChar then .ok (Char.ofNat n) else .error .escapeHex

/-- Reads `n` hexadecimal digits on top of `value`. -/
def readHexDigits (verbose : Bool) : (n value : Nat) → List Char → Except Fault (Parsed Char)
  | 0, value, cs => do return (← scalar value, cs)
  | _ + 1, _, [] => .error .escapeUnfinished
  | n + 1, value, c :: cs =>
    match hexValue? c with
    | some d => readHexDigits verbose n (16 * value + d) (skip verbose cs)
    | none => .error .escapeHex

/-- Reads hexadecimal digits up to a closing brace; `value` is that of the digits so far. -/
def readHexBraced (verbose : Bool) : (fuel : Nat) → (value : Option Nat) → List Char → Except Fault (Parsed Char)
  | 0, _, _ => .error .escapeUnfinished
  | fuel + 1, value, cs =>
    match skip verbose cs with
    | [] => .error .escapeUnfinished
    | '\x7d' :: cs =>
      match value with
      | none => .error .escapeHex
      | some n => do return (← scalar n, skip verbose cs)
    | c :: cs =>
      match hexValue? c with
      | some d => readHexBraced verbose fuel (some (16 * value.getD 0 + d)) cs
      | none => .error .escapeHex

/-- Reads what follows `\x`, `\u` or `\U`, which want `n` digits unless these stand in braces. -/
def readHex (verbose : Bool) (n : Nat) (cs : List Char) : Except Fault (Parsed Literal) :=
  match skip verbose cs with
  | '\x7b' :: cs => do
    let (c, rest) ← readHexBraced verbose (cs.length + 1) none cs
    return ({ char := c }, rest)
  | cs => do
    let (c, rest) ← readHexDigits verbose n 0 cs
    return ({ char := c, byte := n == 2 }, rest)

/-- Reads a property name up to a closing brace; `read` holds it so far, the last character first. -/
def readBracedName (verbose : Bool) : (fuel : Nat) → (read : List Char) → List Char → Except Fault (Parsed (List Char))
  | 0, _, _ => .error .escapeUnfinished
  | fuel + 1, read, cs =>
    match skip verbose cs with
    | [] => .error .escapeUnfinished
    | '\x7d' :: cs => .ok (read.reverse, cs)
    | c :: cs => readBracedName verbose fuel (c :: read) cs

/-- Splits a text before and behind the first place where `mark` stands. -/
def splitAtMark (mark : List Char) : List Char → Option (List Char × List Char)
  | [] => none
  | c :: cs =>
    if mark.isPrefixOf (c :: cs) then some ([], (c :: cs).drop mark.length)
    else (splitAtMark mark cs).map fun (before, behind) => (c :: before, behind)

/-- A braced property with its sign: `name!=value` negates, `name=value` and `name:value` do not. -/
def propertyOf (text : List Char) : Property × Bool :=
  match splitAtMark ['!', '='] text with
  | some (name, value) => (.valued name value, true)
  | none =>
    match splitAtMark [':'] text with
    | some (name, value) => (.valued name value, false)
    | none =>
      match splitAtMark ['='] text with
      | some (name, value) => (.valued name value, false)
      | none => (.single text, false)

def readProperty (verbose negated : Bool) (cs : List Char) : Except Fault (Parsed Atom) :=
  match skip verbose cs with
  | [] => .error .escapeUnfinished
  | '\x7b' :: cs => do
    let (text, rest) ← readBracedName verbose (cs.length + 1) [] cs
    let (property, flipped) := propertyOf text
    return (.property property (negated != flipped), rest)
  | '\\' :: _ => .error .propertyUnknown
  | c :: cs => .ok (.property (.single [c]) negated, skip verbose cs)

def isBoundaryChar (c : Char) : Bool :=
  ('A' ≤ c && c ≤ 'Z') || ('a' ≤ c && c ≤ 'z') || c == '-'

/-- Reads the letters and hyphens of a special word boundary and the brace behind them. -/
def readBoundaryName (verbose : Bool) :
    (fuel : Nat) → (read : List Char) → List Char → Except Fault (Parsed (List Char))
  | 0, _, _ => .error .wordBoundary
  | _ + 1, _, [] => .error .wordBoundary
  | _ + 1, read, '\x7d' :: cs => .ok (read.reverse, cs)
  | fuel + 1, read, c :: cs =>
    if isBoundaryChar c then readBoundaryName verbose fuel (c :: read) (skip verbose cs)
    else .error .wordBoundary

def boundaryNamed (name : List Char) : Except Fault Assertion :=
  if name == "start".toList then .ok .wordStart
  else if name == "end".toList then .ok .wordEnd
  else if name == "start-half".toList then .ok .wordStartHalf
  else if name == "end-half".toList then .ok .wordEndHalf
  else .error .wordBoundary

/-- Reads what follows `\b`: a brace may name a special word boundary, or count repetitions. -/
def readBoundary (verbose : Bool) (cs : List Char) : Except Fault (Parsed Atom) :=
  match cs with
  | '\x7b' :: inner =>
    match skip verbose inner with
    | [] => .error .wordBoundary
    | c :: name =>
      if isBoundaryChar c then do
        let (name, rest) ← readBoundaryName verbose (inner.length + 1) [] (c :: name)
        return (.assertion (← boundaryNamed name), rest)
      else .ok (.assertion .wordBoundary, cs)
  | _ => .ok (.assertion .wordBoundary, cs)

/-- ASCII characters that stand for themselves behind a backslash: all but letters, digits and angle
brackets. -/
def isEscapable (c : Char) : Bool :=
  c.val < 0x80 && !c.isAlphanum && c != '<' && c != '>'

def readEscape (verbose : Bool) : List Char → Except Fault (Parsed Atom)
  | [] => .error .escapeUnfinished
  | c :: cs =>
    if c.isDigit then .error .backreference
    else match c with
      | 'x' => do let (l, rest) ← readHex verbose 2 cs; return (.literal l, rest)
      | 'u' => do let (l, rest) ← readHex verbose 4 cs; return (.literal l, rest)
      | 'U' => do let (l, rest) ← readHex verbose 8 cs; return (.literal l, rest)
      | 'p' => readProperty verbose false cs
      | 'P' => readProperty verbose true cs
      | 'd' => .ok (.shorthand .digit false, cs)
      | 'D' => .ok (.shorthand .digit true, cs)
      | 's' => .ok (.shorthand .space false, cs)
      | 'S' => .ok (.shorthand .space true, cs)
      | 'w' => .ok (.shorthand .word false, cs)
      | 'W' => .ok (.shorthand .word true, cs)
      | 'a' => .ok (.literal { char := '\x07' }, cs)
      | 'f' => .ok (.literal { char := '\x0c' }, cs)
      | 't' => .ok (.literal { char := '\t' }, cs)
      | 'n' => .ok (.literal { char := '\n' }, cs)
      | 'r' => .ok (.literal { char := '\r' }, cs)
      | 'v' => .ok (.literal { char := '\x0b' }, cs)
      | 'A' => .ok (.assertion .textStart, cs)
      | 'z' => .ok (.assertion .textEnd, cs)
      | 'b' => readBoundary verbose cs
      | 'B' => .ok (.assertion .notWordBoundary, cs)
      | '<' => .ok (.assertion .wordStart, cs)
      | '>' => .ok (.assertion .wordEnd, cs)
      | c => if isEscapable c then .ok (.literal { char := c }, cs) else .error .escapeUnknown

end MediaCatalogue.Pattern
