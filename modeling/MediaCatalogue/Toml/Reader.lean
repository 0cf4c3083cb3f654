import MediaCatalogue.Toml.Scalar
import MediaCatalogue.Toml.Table
import MediaCatalogue.Toml.Text

/-! Reading TOML documents. -/

namespace MediaCatalogue.Toml

/-! Space and comments -/

def dropBlanks (cs : List Char) : List Char := cs.dropWhile isSpaceOrTab

/-- Goes over space, line ends and comments; `inComment` if a comment has started. -/
def skipVoid : Bool → List Char → Option (List Char)
  | _, [] => some []
  | _, '\r' :: '\n' :: cs => skipVoid false cs
  | inComment, c :: cs =>
    if c == '\n' then skipVoid false cs
    else if inComment then if isPlain c then skipVoid true cs else none
    else if c == '#' then skipVoid true cs
    else if isSpaceOrTab c then skipVoid false cs
    else some (c :: cs)

/-- The rest of a line that holds nothing but space and a comment. -/
def endLine (cs : List Char) : Option (List Char) :=
  let rest := match dropBlanks cs with
    | '#' :: cs => cs.dropWhile isPlain
    | cs => cs
  match rest with
  | [] => some []
  | cs => newline? cs

/-! Keys -/

def isBare (c : Char) : Bool := c.isAlphanum || c == '-' || c == '_'

def readKeyPart (cs : List Char) : Option (String × List Char) :=
  match cs with
  | [] => none
  | c :: rest =>
    match quote? c with
    | some q => do
      let (chars, rest) ← readLine q (rest.length + 1) rest
      return (String.ofList chars, rest)
    | none =>
      let (bare, rest) := cs.span isBare
      if bare.isEmpty then none else some (String.ofList bare, rest)

/-- The parts of a dotted key: those in front of the last one, and that one. -/
def readKey : Nat → List Char → Option (List String × String × List Char)
  | 0, _ => none
  | fuel + 1, cs => do
    let (part, rest) ← readKeyPart (dropBlanks cs)
    match dropBlanks rest with
    | '.' :: rest => do
      let (path, last, rest) ← readKey fuel rest
      return (part :: path, last, rest)
    | rest => return ([], part, rest)

/-! Values -/

def maxDepth : Nat := 80

def isScalarChar (c : Char) : Bool := !(" \t\r\n,[]\x7b\x7d#=\"'".toList.contains c)

/-- A text without quotes and brackets. A date and a time may have one space between them. -/
def readScalar (cs : List Char) : Option (Toml × List Char) := do
  let (run, rest) := cs.span isScalarChar
  match rest with
  | ' ' :: c :: more =>
    if c.isDigit then
      let (time, rest) := (c :: more).span isScalarChar
      return (← scalar? (run ++ ' ' :: time), rest)
    else return (← scalar? run, rest)
  | rest => return (← scalar? run, rest)

mutual

/-- Reads a value that may hold `depth` levels of brackets and braces. -/
def readValue : Nat → Nat → List Char → Option (Toml × List Char)
  | 0, _, _ => none
  | _, _, [] => none
  | fuel + 1, depth, c :: cs =>
    match quote? c with
    | some q => do
      let (s, rest) ← readText q (c :: cs)
      return (.text s, rest)
    | none =>
      if c == '[' || c == '\x7b' then
        match depth with
        | 0 => none
        | depth + 1 =>
          if c == '[' then do
            let (items, rest) ← readItems fuel depth cs
            return (.array items false, rest)
          else do
            let (entries, rest) ← readEntries fuel depth [] cs
            return (.table .inline entries, rest)
      else readScalar (c :: cs)

def readItems : Nat → Nat → List Char → Option (List Toml × List Char)
  | 0, _, _ => none
  | fuel + 1, depth, cs => do
    match ← skipVoid false cs with
    | ']' :: rest => return ([], rest)
    | cs =>
      let (item, cs) ← readValue fuel depth cs
      match ← skipVoid false cs with
      | ']' :: rest => return ([item], rest)
      | ',' :: cs =>
        let (items, rest) ← readItems fuel depth cs
        return (item :: items, rest)
      | _ => none

def readEntries : Nat → Nat → Entries → List Char → Option (Entries × List Char)
  | 0, _, _, _ => none
  | fuel + 1, depth, entries, cs => do
    match ← skipVoid false cs with
    | '\x7d' :: rest => return (entries, rest)
    | cs =>
      let (path, key, cs) ← readKey fuel cs
      let cs ← expect? '=' cs
      let (value, cs) ← readValue fuel depth (dropBlanks cs)
      let (_, entries) ← addAt path key value .inline entries
      match ← skipVoid false cs with
      | '\x7d' :: rest => return (entries, rest)
      | ',' :: cs => readEntries fuel depth entries cs
      | _ => none

end

/-! Documents -/

/-- A line of a document that says something. -/
inductive Statement where
  | header (path : List String) (key : String)
  | item (path : List String) (key : String)
  | entry (path : List String) (key : String) (value : Toml)

/-- Reads a statement from the first character of its line on. -/
def readStatement (cs : List Char) : Option (Statement × List Char) := do
  let fuel := 2 * cs.length + 2
  match cs with
  | '[' :: '[' :: cs =>
    let (path, key, cs) ← readKey fuel cs
    let cs ← expect? ']' (← expect? ']' cs)
    return (.item path key, ← endLine cs)
  | '[' :: cs =>
    let (path, key, cs) ← readKey fuel cs
    let cs ← expect? ']' cs
    return (.header path key, ← endLine cs)
  | cs =>
    let (path, key, cs) ← readKey fuel cs
    let cs ← expect? '=' cs
    let (value, cs) ← readValue fuel maxDepth (dropBlanks cs)
    return (.entry path key value, ← endLine cs)

/-- A document so far: its entries, and the path of the table to which new entries are added. -/
structure Draft where
  current : List String
  entries : Entries

namespace Draft

def add (d : Draft) : Statement → Option Draft
  | .header path key => do
    let (_, entries) ← modify false (addHeader key) path .header d.entries
    return { current := path ++ [key], entries }
  | .item path key => do
    let (_, entries) ← modify false (addItem key) path .header d.entries
    return { current := path ++ [key], entries }
  | .entry path key value => do
    let (_, entries) ← modify false (addAt path key value) d.current .header d.entries
    return { d with entries }

end Draft

/-- Reads statements; the fuel exceeds their number. -/
def readStatements : Nat → Draft → List Char → Option Entries
  | 0, _, _ => none
  | fuel + 1, draft, cs => do
    match ← skipVoid false cs with
    | [] => return draft.entries
    | cs =>
      let (statement, rest) ← readStatement cs
      readStatements fuel (← draft.add statement) rest

/-- A mark of the byte order may stand at the start. -/
def dropMark : List Char → List Char
  | '\uFEFF' :: cs => cs
  | cs => cs

def parse (text : String) : Option Entries :=
  let cs := dropMark text.toList
  readStatements (cs.length + 1) { current := [], entries := [] } cs

end MediaCatalogue.Toml
