import MediaCatalogue.Json.Number
import MediaCatalogue.Json.Text

/-! Reading JSON. What is read comes with the rest of the text, or with no rest if a fault ends the
reading. -/

namespace MediaCatalogue.Json

def maxDepth : Nat := 127

def isSpace (c : Char) : Bool := c == ' ' || c == '\n' || c == '\t' || c == '\r'

def skipSpace (cs : List Char) : List Char := cs.dropWhile isSpace

/-- A value, or the fault in its place. -/
def settle : Except Fault (Json × List Char) → Json × Option (List Char)
  | .ok (j, rest) => (j, some rest)
  | .error fault => (.broken fault, none)

/-- The rest of a word, and what it stands for. -/
def readWord (value : Json) : List Char → List Char → Except Fault (Json × List Char)
  | [], cs => .ok (value, cs)
  | w :: ws, cs => do readWord value ws (← expect w cs)

/-- A value that is neither an array nor an object. -/
def readScalar : List Char → Except Fault (Json × List Char)
  | [] => .error .truncated
  | c :: cs =>
    if c == '"' then do
      let (text, rest) ← readText cs
      return (.string text, rest)
    else if c == '-' || c.isDigit then readNumber (c :: cs)
    else if c == 'n' then readWord .null "ull".toList cs
    else if c == 't' then readWord (.bool true) "rue".toList cs
    else if c == 'f' then readWord (.bool false) "alse".toList cs
    else .error .malformed

/-- What follows in an array or an object. -/
inductive Next where
  | closed (rest : List Char)
  /-- Another item or entry, which starts here. -/
  | more (cs : List Char)
  | stopped (fault : Fault)

/-- Goes to the next item or to the end; commas separate the items, and none follows the last. -/
def next (close : Char) (first : Bool) (cs : List Char) : Next :=
  match skipSpace cs with
  | [] => .stopped .truncated
  | c :: cs =>
    if c == close then .closed cs
    else if first then .more (c :: cs)
    else if c == ',' then
      match skipSpace cs with
      | [] => .stopped .truncated
      | d :: cs => if d == close then .stopped .malformed else .more (d :: cs)
    else .stopped .malformed

def readKey : List Char → Except Fault (String × List Char)
  | '"' :: cs => readText cs
  | _ => .error .malformed

/-- The value behind a key stands behind a colon. -/
def readColon (cs : List Char) : Except Fault (List Char) := expect ':' (skipSpace cs)

mutual

/-- Reads a value that may hold `depth` levels of arrays and objects. The fuel exceeds the length of
the text. -/
def readValue : Nat → Nat → List Char → Json × Option (List Char)
  | 0, _, _ => (.broken .truncated, none)
  | fuel + 1, depth, cs =>
    match skipSpace cs, depth with
    | '[' :: _, 0 => (.broken .malformed, none)
    | '\x7b' :: _, 0 => (.broken .malformed, none)
    | '[' :: cs, depth + 1 =>
      let (items, ending, rest) := readItems fuel depth true cs
      (.array items ending, rest)
    | '\x7b' :: cs, depth + 1 =>
      let (entries, ending, rest) := readEntries fuel depth true cs
      (.object entries ending, rest)
    | cs, _ => settle (readScalar cs)

def readItems : Nat → Nat → Bool → List Char → List Json × Option Fault × Option (List Char)
  | 0, _, _, _ => ([], some .truncated, none)
  | fuel + 1, depth, first, cs =>
    match next ']' first cs with
    | .closed rest => ([], none, some rest)
    | .stopped fault => ([], some fault, none)
    | .more cs =>
      match readValue fuel depth cs with
      | (item, none) => ([item], none, none)
      | (item, some cs) =>
        let (items, ending, rest) := readItems fuel depth false cs
        (item :: items, ending, rest)

def readEntries :
    Nat → Nat → Bool → List Char → List (String × Json) × Option Fault × Option (List Char)
  | 0, _, _, _ => ([], some .truncated, none)
  | fuel + 1, depth, first, cs =>
    match next '\x7d' first cs with
    | .closed rest => ([], none, some rest)
    | .stopped fault => ([], some fault, none)
    | .more cs =>
      match readKey cs with
      | .error fault => ([], some fault, none)
      | .ok (key, cs) =>
        match readColon cs with
        | .error fault => ([(key, .broken fault)], none, none)
        | .ok cs =>
          match readValue fuel depth cs with
          | (value, none) => ([(key, value)], none, none)
          | (value, some cs) =>
            let (entries, ending, rest) := readEntries fuel depth false cs
            ((key, value) :: entries, ending, rest)

end

/-- Fuel for a text: each level of recursion but two takes a character. -/
def fuelFor (cs : List Char) : Nat := 2 * cs.length + 2

/-- Reads a text and decodes its value. Nothing but space may follow the value. -/
def decode {α : Type} (decoder : Json → Except Fault α) (text : String) : Except Fault α := do
  let cs := text.toList
  let (json, rest) := readValue (fuelFor cs) maxDepth cs
  let value ← decoder json
  match rest.map skipSpace with
  | some (_ :: _) => .error .malformed
  | _ => return value

end MediaCatalogue.Json
