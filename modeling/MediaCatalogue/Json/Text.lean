import MediaCatalogue.Json.Basic

/-! Strings in JSON, between double quotes. -/

namespace MediaCatalogue.Json

/-- The characters that are escaped by a letter, with that letter. -/
def letterEscapes : List (Char × Char) :=
  [('"', '"'), ('\\', '\\'), ('\x08', 'b'), ('\x0c', 'f'), ('\n', 'n'), ('\r', 'r'), ('\t', 't')]

def hexDigit (n : Nat) : Char := Nat.digitChar (n % 16)

/-- A character as it is written. Control characters are escaped. -/
def escapeChar (c : Char) : List Char :=
  match letterEscapes.find? (·.1 == c) with
  | some (_, letter) => ['\\', letter]
  | none =>
    if c.toNat < 0x20 then ['\\', 'u', '0', '0', hexDigit (c.toNat / 16), hexDigit c.toNat] else [c]

def writeText (text : String) : List Char := '"' :: (text.toList.flatMap escapeChar ++ ['"'])

def hexValue? (c : Char) : Option Nat :=
  if c.isDigit then some (c.toNat - '0'.toNat)
  else if 'a' ≤ c ∧ c ≤ 'f' then some (c.toNat - 'a'.toNat + 10)
  else if 'A' ≤ c ∧ c ≤ 'F' then some (c.toNat - 'A'.toNat + 10)
  else none

def bytes (cs : List Char) : Nat := cs.foldr (·.utf8Size + ·) 0

/-- Four hexadecimal digits. A text with less than four bytes left ends too early. -/
def readUnit (cs : List Char) : Except Fault (Nat × List Char) :=
  if bytes (cs.take 4) < 4 then .error .truncated
  else
    match (cs.take 4).mapM hexValue? with
    | some [a, b, c, d] => .ok (((a * 16 + b) * 16 + c) * 16 + d, cs.drop 4)
    | _ => .error .malformed

def isLeading (n : Nat) : Bool := 0xD800 ≤ n && n < 0xDC00

def isTrailing (n : Nat) : Bool := 0xDC00 ≤ n && n < 0xE000

/-- The backslash and the `u` in front of a second unit. -/
def expect (c : Char) : List Char → Except Fault (List Char)
  | [] => .error .truncated
  | d :: cs => if d == c then .ok cs else .error .malformed

/-- The character that one UTF-16 unit or a pair of them stands for. -/
def readUnits (cs : List Char) : Except Fault (Char × List Char) := do
  let (n, cs) ← readUnit cs
  if isTrailing n then .error .malformed
  else if isLeading n then
    let cs ← expect 'u' (← expect '\\' cs)
    let (m, cs) ← readUnit cs
    if isTrailing m then
      return (Char.ofNat (0x10000 + (n - 0xD800) * 0x400 + (m - 0xDC00)), cs)
    else .error .malformed
  else return (Char.ofNat n, cs)

/-- The character that an escape stands for, from behind the backslash. -/
def readEscape : List Char → Except Fault (Char × List Char)
  | [] => .error .truncated
  | 'u' :: cs => readUnits cs
  | '/' :: cs => .ok ('/', cs)
  | c :: cs =>
    match letterEscapes.find? (·.2 == c) with
    | some (escaped, _) => .ok (escaped, cs)
    | none => .error .malformed

/-- The characters up to the closing quote; `fuel` is at least the length of the text. -/
def readChars : Nat → List Char → Except Fault (List Char × List Char)
  | 0, _ => .error .truncated
  | _, [] => .error .truncated
  | _, '"' :: cs => .ok ([], cs)
  | fuel + 1, '\\' :: cs => do
    let (c, cs) ← readEscape cs
    let (text, cs) ← readChars fuel cs
    return (c :: text, cs)
  | fuel + 1, c :: cs => do
    if c.toNat < 0x20 then .error .malformed
    else
      let (text, cs) ← readChars fuel cs
      return (c :: text, cs)

/-- Reads a string from behind the opening quote. -/
def readText (cs : List Char) : Except Fault (String × List Char) := do
  let (text, rest) ← readChars (cs.length + 1) cs
  return (String.ofList text, rest)

end MediaCatalogue.Json
