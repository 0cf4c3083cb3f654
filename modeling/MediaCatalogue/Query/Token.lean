/-! The tokens of a query. Unquoted spaces separate them, double quotes keep spaces together and a
backslash takes the next character as it is. -/

namespace MediaCatalogue.Query

/-- Where the reading of a query stands. -/
inductive Lexing where
  /-- Between tokens. -/
  | gap
  /-- Inside a token, of which `read` holds the characters so far, the last one first. -/
  | word (read : List Char) (quoted escaped : Bool)
  deriving DecidableEq

namespace Lexing

/-- Reads one character; the second component is a token that it ends. -/
def step : Lexing → Char → Lexing × Option (List Char)
  | .gap, ' ' => (.gap, none)
  | .gap, '\\' => (.word [] false true, none)
  | .gap, '"' => (.word [] true false, none)
  | .gap, c => (.word [c] false false, none)
  | .word read quoted true, c => (.word (c :: read) quoted false, none)
  | .word read quoted false, '\\' => (.word read quoted true, none)
  | .word read quoted false, '"' => (.word read (!quoted) false, none)
  | .word read false false, ' ' => (.gap, some read.reverse)
  | .word read quoted false, c => (.word (c :: read) quoted false, none)

/-- Reads a text; the result holds the tokens that end in it. -/
def run (state : Lexing) : List Char → List (List Char) × Lexing
  | [] => ([], state)
  | c :: cs =>
    let (next, ended) := state.step c
    let (tokens, last) := next.run cs
    (ended.toList ++ tokens, last)

def flush : Lexing → List (List Char)
  | .gap => []
  | .word read _ _ => [read.reverse]

theorem run_append (state : Lexing) (a b : List Char) :
    state.run (a ++ b) = ((state.run a).1 ++ ((state.run a).2.run b).1, ((state.run a).2.run b).2) := by
  induction a generalizing state with
  | nil => rfl
  | cons c a ih => simp [run, ih, List.append_assoc]

end Lexing

def tokenChars (text : List Char) : List (List Char) :=
  let (tokens, last) := Lexing.gap.run text
  tokens ++ last.flush

def tokenize (text : String) : List String := (tokenChars text.toList).map String.ofList

/-- Whether a token has to be quoted to be read back. -/
def needsQuotes (token : List Char) : Bool :=
  token.isEmpty || token.any fun c => c == ' ' || c == '"' || c == '\\'

def escapeQuoted (c : Char) : List Char := if c == '\\' || c == '"' then ['\\', c] else [c]

/-- Writes a token so that it is read back as it is. -/
def quoteChars (token : List Char) : List Char :=
  if needsQuotes token then '"' :: (token.flatMap escapeQuoted ++ ['"']) else token

def quoteToken (token : String) : String := String.ofList (quoteChars token.toList)

end MediaCatalogue.Query
