import MediaCatalogue.Toml.Basic

/-! Strings in TOML. Basic strings have double quotes and escapes, literal strings single quotes and
none; both can span lines between quotes that are tripled. -/

namespace MediaCatalogue.Toml

inductive Quote where
  | basic
  | literal
  deriving DecidableEq

def Quote.char : Quote → Char
  | basic => '"'
  | literal => '\''

/-- Whether a character can stand in a text as it is; control characters cannot, but for tabs. -/
def isPlain (c : Char) : Bool := c == '\t' || (0x20 ≤ c.toNat && c.toNat != 0x7F)

/-- A line feed, with or without a carriage return in front of it. -/
def newline? : List Char → Option (List Char)
  | '\n' :: cs => some cs
  | '\r' :: '\n' :: cs => some cs
  | _ => none

/-! Reading -/

def hexValue? (c : Char) : Option Nat :=
  if c.isDigit then some (c.toNat - '0'.toNat)
  else if 'a' ≤ c ∧ c ≤ 'f' then some (c.toNat - 'a'.toNat + 10)
  else if 'A' ≤ c ∧ c ≤ 'F' then some (c.toNat - 'A'.toNat + 10)
  else none

def isScalar (n : Nat) : Bool := n < 0xD800 || (0xE000 ≤ n && n < 0x110000)

/-- The character whose number `width` hexadecimal digits are. -/
def readHex (width : Nat) (cs : List Char) : Option (Char × List Char) := do
  let digits ← (cs.take width).mapM hexValue?
  let n := digits.foldl (fun n d => 16 * n + d) 0
  if digits.length = width ∧ isScalar n then some (Char.ofNat n, cs.drop width) else none

/-- The characters that a letter after a backslash stands for. -/
def letterEscapes : List (Char × Char) :=
  [('b', '\x08'), ('t', '\t'), ('n', '\n'), ('f', '\x0c'), ('r', '\r'), ('e', '\x1b'), ('"', '"'),
    ('\\', '\\')]

/-- The character that an escape stands for, from behind the backslash. -/
def readEscape : List Char → Option (Char × List Char)
  | [] => none
  | 'x' :: cs => readHex 2 cs
  | 'u' :: cs => readHex 4 cs
  | 'U' :: cs => readHex 8 cs
  | c :: cs => (letterEscapes.find? (·.1 == c)).map fun e => (e.2, cs)

/-- The characters of a string on one line, up to the closing quote. -/
def readLine (q : Quote) : Nat → List Char → Option (List Char × List Char)
  | 0, _ => none
  | _, [] => none
  | fuel + 1, c :: cs =>
    if c == q.char then some ([], cs)
    else if q == .basic && c == '\\' then do
      let (e, cs) ← readEscape cs
      let (chars, rest) ← readLine q fuel cs
      return (e :: chars, rest)
    else if isPlain c then do
      let (chars, rest) ← readLine q fuel cs
      return (c :: chars, rest)
    else none

def isSpaceOrTab (c : Char) : Bool := c == ' ' || c == '\t'

/-- Drops spaces, tabs and line ends. -/
def dropVoid : List Char → List Char
  | [] => []
  | '\r' :: '\n' :: cs => dropVoid cs
  | c :: cs => if c == '\n' || isSpaceOrTab c then dropVoid cs else c :: cs

/-- What follows a backslash that joins lines: space up to the end of the line, and all space behind
it. -/
def readContinuation (cs : List Char) : Option (List Char) :=
  (newline? (cs.dropWhile isSpaceOrTab)).map dropVoid

/-- The characters of a string over lines, up to the closing quotes. Up to two quotes before those
belong to the string. -/
def readLines (q : Quote) : Nat → List Char → Option (List Char × List Char)
  | 0, _ => none
  | _, [] => none
  | fuel + 1, c :: cs =>
    let quotes := min 5 ((c :: cs).takeWhile (· == q.char)).length
    if 3 ≤ quotes then some (List.replicate (quotes - 3) q.char, (c :: cs).drop quotes)
    else if q == .basic && c == '\\' then
      match readContinuation cs with
      | some cs => readLines q fuel cs
      | none => do
        let (e, cs) ← readEscape cs
        let (chars, rest) ← readLines q fuel cs
        return (e :: chars, rest)
    else if isPlain c || (newline? (c :: cs)).isSome then do
      let (chars, rest) ← readLines q fuel cs
      return (c :: chars, rest)
    else none

/-- A line end right behind the opening quotes does not count. -/
def dropNewline (cs : List Char) : List Char := (newline? cs).getD cs

def quote? (c : Char) : Option Quote :=
  if c == '"' then some .basic else if c == '\'' then some .literal else none

/-- Reads a string of one line or of several, from its opening quote on. -/
def readText (q : Quote) (cs : List Char) : Option (String × List Char) := do
  let fuel := cs.length + 1
  let (chars, rest) ←
    if (List.replicate 3 q.char).isPrefixOf cs then readLines q fuel (dropNewline (cs.drop 3))
    else readLine q fuel (cs.drop 1)
  return (String.ofList chars, rest)

/-! Writing -/

/-- How a string is written. -/
structure Style where
  quote : Quote
  /-- Over several lines. -/
  tripled : Bool

def isControl (c : Char) : Bool := c.toNat < 0x20 || c.toNat == 0x7F

/-- Whether a character other than a tab or a line feed needs an escape by a number or a letter. -/
def needsEscape (c : Char) : Bool := isControl c && c != '\t' && c != '\n'

/-- The length of the longest run of a character; `run` is that of the current one. -/
def longestRun (c : Char) : Nat → List Char → Nat
  | run, [] => run
  | run, d :: ds => if d == c then longestRun c (run + 1) ds else max run (longestRun c 0 ds)

/-- The plainest style in which a text can be written: basic without escapes, else literal, else the
same over lines, else basic with escapes. -/
def styleOf (text : List Char) : Style :=
  let escapes := text.any needsEscape
  let newline := text.contains '\n'
  let backslash := text.contains '\\'
  let doubles := longestRun '"' 0 text
  let singles := longestRun '\'' 0 text
  if !escapes && !backslash && doubles == 0 && !newline then ⟨.basic, false⟩
  else if !escapes && singles == 0 && !newline then ⟨.literal, false⟩
  else if !escapes && !backslash && doubles ≤ 2 then ⟨.basic, true⟩
  else if !escapes && singles ≤ 2 then ⟨.literal, true⟩
  else ⟨.basic, newline⟩

def hexDigit (n : Nat) : Char := (Nat.digitChar (n % 16)).toUpper

def escape (c : Char) : List Char :=
  match letterEscapes.find? fun e => e.2 == c && e.1 != 'e' with
  | some (letter, _) => ['\\', letter]
  | none => ['\\', 'u', '0', '0', hexDigit (c.toNat / 16), hexDigit c.toNat]

/-- Writes the characters of a basic string; `run` quotes stand before them, and at most `most` may
stand in a row. -/
def escapeAll (tripled : Bool) (most : Nat) : Nat → List Char → List Char
  | _, [] => []
  | run, c :: cs =>
    if c == '"' then
      if run < most then c :: escapeAll tripled most (run + 1) cs
      else escape c ++ escapeAll tripled most 0 cs
    else if c == '\\' || (isControl c && !(tripled && c == '\n')) then
      escape c ++ escapeAll tripled most 0 cs
    else c :: escapeAll tripled most 0 cs

def writeChars (text : List Char) : List Char :=
  let style := styleOf text
  let quotes := List.replicate (if style.tripled then 3 else 1) style.quote.char
  let body :=
    match style.quote with
    | .literal => text
    | .basic => escapeAll style.tripled (if style.tripled then 2 else 0) 0 text
  quotes ++ (if style.tripled && text.contains '\n' then ['\n'] else []) ++ body ++ quotes

def writeText (s : String) : String := String.ofList (writeChars s.toList)

end MediaCatalogue.Toml
