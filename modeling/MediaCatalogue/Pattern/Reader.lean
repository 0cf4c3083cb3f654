import MediaCatalogue.Pattern.ClassReader
import MediaCatalogue.Unicode.Category
import MediaCatalogue.Unicode.Property

/-! Reading a pattern. Groups that are still open wait on a stack, so that a text is read one element
at a time. -/

namespace MediaCatalogue.Pattern

/-- A group that is still open, with what stood before it. -/
structure OpenGroup where
  changes : FlagChanges
  /-- The elements before the group, the last one first. -/
  items : List Tree
  /-- The finished alternatives before the group, the last one first. -/
  alternatives : List Tree
  /-- Whether verbose mode was on before the group. -/
  verbose : Bool
  deriving DecidableEq

/-- How far the reading of a pattern has come. -/
structure Reading where
  items : List Tree := []
  alternatives : List Tree := []
  outer : List OpenGroup := []
  verbose : Bool := false
  names : List (List Char) := []
  deriving DecidableEq

namespace Reading

def add (r : Reading) (t : Tree) : Reading := { r with items := t :: r.items }

/-- What the innermost open group holds. -/
def value (r : Reading) : Tree :=
  .ofAlternatives (r.alternatives.reverse ++ [.ofSequence r.items.reverse])

def alternate (r : Reading) : Reading :=
  { r with items := [], alternatives := .ofSequence r.items.reverse :: r.alternatives }

def verboseChange? (changes : FlagChanges) : Option Bool := changes.lookup .verbose

def enter (r : Reading) (changes : FlagChanges) : Reading :=
  { r with
    items := [], alternatives := []
    outer := ⟨changes, r.items, r.alternatives, r.verbose⟩ :: r.outer
    verbose := (verboseChange? changes).getD r.verbose }

def leave (r : Reading) : Except Fault Reading :=
  match r.outer with
  | [] => .error .groupUnopened
  | g :: outer => .ok { r with
      items := .group g.changes r.value :: g.items, alternatives := g.alternatives, outer
      verbose := g.verbose }

/-- Repeats the last element. -/
def repeated (r : Reading) (least : Nat) (most : Option Nat) : Except Fault Reading :=
  match r.items with
  | [] => .error .repetitionMissing
  | .flags _ :: _ => .error .repetitionMissing
  | t :: items => .ok { r with items := .repetition least most t :: items }

end Reading

def flagOf : Char → Except Fault Flag
  | 'i' => .ok .ignoreCase
  | 'm' => .ok .multiLine
  | 's' => .ok .dotMatchesNewLine
  | 'U' => .ok .swapGreed
  | 'u' => .ok .unicode
  | 'R' => .ok .crlf
  | 'x' => .ok .verbose
  | _ => .error .flagUnknown

/-- Reads flags up to a colon or a closing parenthesis, which stays; `on` falls with the one hyphen
allowed, and `dangling` says that no flag has followed it yet. -/
def readFlags (on dangling : Bool) (changes : FlagChanges) : List Char → Except Fault (Parsed FlagChanges)
  | [] => .error .flagsUnfinished
  | c :: cs =>
    if c == ':' || c == ')' then
      if dangling then .error .flagsUnfinished else .ok (changes.reverse, c :: cs)
    else if c == '-' then
      if on then readFlags false true changes cs else .error .flagDuplicate
    else do
      let flag ← flagOf c
      if changes.any (·.1 == flag) then .error .flagDuplicate
      else readFlags on false ((flag, on) :: changes) cs

def numberCategories : List String := ["Nd", "Nl", "No"]

def isNameStart (c : Char) : Bool := c == '_' || Unicode.alphabetic.contains c

def isNameChar (c : Char) : Bool :=
  isNameStart c || c == '.' || c == '[' || c == ']' || numberCategories.contains (Unicode.category c)

/-- Reads the name of a group and the bracket behind it. -/
def readName (names : List (List Char)) (cs : List Char) : Except Fault (Parsed (List Char)) :=
  let name := cs.takeWhile (· != '>')
  match cs.dropWhile (· != '>') with
  | [] => .error .groupName
  | _ :: rest =>
    if !(name.head?.any isNameStart && name.all isNameChar) then .error .groupName
    else if names.contains name then .error .groupNameDuplicate
    else .ok (name, rest)

def readGroup (r : Reading) (cs : List Char) : Except Fault (Parsed Reading) :=
  let named (cs : List Char) : Except Fault (Parsed Reading) := do
    let (name, rest) ← readName r.names cs
    return ({ r with names := name :: r.names }.enter [], rest)
  match skip r.verbose cs with
  | '?' :: '=' :: _ => .error .lookAround
  | '?' :: '!' :: _ => .error .lookAround
  | '?' :: '<' :: '=' :: _ => .error .lookAround
  | '?' :: '<' :: '!' :: _ => .error .lookAround
  | '?' :: 'P' :: '<' :: cs => named cs
  | '?' :: '<' :: cs => named cs
  | '?' :: cs => do
    let (changes, rest) ← readFlags true false [] cs
    match rest with
    | ')' :: rest =>
      if changes.isEmpty then .error .repetitionMissing
      else
        let verbose := (Reading.verboseChange? changes).getD r.verbose
        return ({ r with verbose }.add (.flags changes), rest)
    | _ => return (r.enter changes, rest.drop 1)
  | cs => .ok (r.enter [], cs)

/-- Reads the digits of a count; `value` is that of the digits so far. -/
def readCountDigits (verbose : Bool) :
    (fuel : Nat) → (value : Option Nat) → List Char → Option Nat × List Char
  | 0, value, cs => (value, cs)
  | fuel + 1, value, cs =>
    match cs with
    | c :: rest =>
      if c.isDigit then
        readCountDigits verbose fuel (some (10 * value.getD 0 + (c.toNat - 48))) (skip verbose rest)
      else (value, cs)
    | [] => (value, [])

/-- Skips white space, and in verbose mode comments between it. -/
def skipCountBlank (verbose : Bool) : (fuel : Nat) → List Char → List Char
  | 0, cs => cs
  | fuel + 1, cs =>
    match cs with
    | c :: rest => if isBlank c then skipCountBlank verbose fuel (skip verbose rest) else cs
    | [] => []

/-- Reads a count of at most 32 bits with white space around it. -/
def readCount (verbose : Bool) (cs : List Char) : Except Fault (Parsed Nat) :=
  let fuel := cs.length + 1
  let (value, rest) := readCountDigits verbose fuel none (cs.dropWhile isBlank)
  match value with
  | some n => if n < UInt32.size then .ok (n, skipCountBlank verbose fuel rest) else .error .repetitionCount
  | none => .error .repetitionCount

/-- Reads counts up to their closing brace, behind which a question mark makes them lazy. -/
def readCounts (verbose : Bool) (cs : List Char) : Except Fault (Parsed (Nat × Option Nat)) := do
  let (least, cs) ← readCount verbose (skip verbose cs)
  let (most, cs) ← match cs with
    | ',' :: cs =>
      match skip verbose cs with
      | '\x7d' :: rest => pure (none, '\x7d' :: rest)
      | cs => do let (n, rest) ← readCount verbose cs; pure (some n, rest)
    | cs => pure (some least, cs)
  match cs with
  | '\x7d' :: cs =>
    if most.all (least ≤ ·) then
      match skip verbose cs with
      | '?' :: rest => return ((least, most), rest)
      | cs => return ((least, most), cs)
    else .error .repetitionCount
  | _ => .error .repetitionCount

/-- Drops the question mark that makes a repetition lazy. -/
def dropLazy : List Char → List Char
  | '?' :: cs => cs
  | cs => cs

def readElement (r : Reading) (c : Char) (cs : List Char) : Except Fault (Parsed Reading) :=
  match c with
  | '(' => readGroup r cs
  | ')' => do return (← r.leave, cs)
  | '|' => .ok (r.alternate, cs)
  | '[' => do let (t, rest) ← readClass r.verbose cs; return (r.add t, rest)
  | '?' => do return (← r.repeated 0 (some 1), dropLazy cs)
  | '*' => do return (← r.repeated 0 none, dropLazy cs)
  | '+' => do return (← r.repeated 1 none, dropLazy cs)
  | '\x7b' => do
    let ((least, most), rest) ← readCounts r.verbose cs
    return (← r.repeated least most, rest)
  | '\\' => do let (a, rest) ← readEscape r.verbose cs; return (r.add a.toTree, rest)
  | '.' => .ok (r.add .dot, cs)
  | '^' => .ok (r.add (.assertion .lineStart), cs)
  | '$' => .ok (r.add (.assertion .lineEnd), cs)
  | c => .ok (r.add (.literal { char := c }), cs)

/-- Reads elements to the end of the text. Each of them takes a character, so that `fuel` beyond the
length of the text is never used up. -/
def readElements : (fuel : Nat) → Reading → List Char → Except Fault Reading
  | 0, r, _ => .ok r
  | fuel + 1, r, cs =>
    match skip r.verbose cs with
    | [] => .ok r
    | c :: cs => do
      let (r, rest) ← readElement r c cs
      readElements fuel r rest

def maxNesting : Nat := 250

def readTree (cs : List Char) : Except Fault Tree := do
  let r ← readElements (cs.length + 1) {} cs
  if !r.outer.isEmpty then .error .groupUnclosed
  else if maxNesting < r.value.depth .neither then .error .nestedTooDeeply
  else return r.value

end MediaCatalogue.Pattern
