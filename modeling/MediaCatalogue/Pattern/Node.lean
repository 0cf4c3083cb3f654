import MediaCatalogue.Pattern.CharSet

/-! Compiled patterns: what is left of a pattern once its flags are applied. -/

namespace MediaCatalogue.Pattern

/-- Conditions on the two characters around a position. -/
inductive Look where
  | start
  | stop
  | lineStart
  | lineStop
  | crlfLineStart
  | crlfLineStop
  | boundary (unicode : Bool)
  | noBoundary (unicode : Bool)
  | wordStart (unicode : Bool)
  | wordStop (unicode : Bool)
  | wordStartHalf (unicode : Bool)
  | wordStopHalf (unicode : Bool)
  deriving DecidableEq

inductive Node where
  | empty
  | one (s : CharSet)
  | look (l : Look)
  | sequence (l r : Node)
  | alternation (l r : Node)
  | repetition (least : Nat) (most : Option Nat) (body : Node)

namespace Look

def isWord (unicode : Bool) (c : Char) : Bool :=
  if unicode then CharSet.word.contains c else CharSet.asciiWord.contains c

/-- Whether the condition holds between `before` and `behind`; either is missing at an end of the
text. -/
def holds (l : Look) (before behind : Option Char) : Bool :=
  let wordBefore (unicode : Bool) : Bool := before.any (isWord unicode)
  let wordBehind (unicode : Bool) : Bool := behind.any (isWord unicode)
  match l with
  | start => before.isNone
  | stop => behind.isNone
  | lineStart => before.isNone || before == some '\n'
  | lineStop => behind.isNone || behind == some '\n'
  | crlfLineStart =>
    before.isNone || before == some '\n' || (before == some '\r' && behind != some '\n')
  | crlfLineStop =>
    behind.isNone || behind == some '\r' || (behind == some '\n' && before != some '\r')
  | boundary u => wordBefore u != wordBehind u
  | noBoundary u => wordBefore u == wordBehind u
  | wordStart u => !wordBefore u && wordBehind u
  | wordStop u => wordBefore u && !wordBehind u
  | wordStartHalf u => !wordBefore u
  | wordStopHalf u => !wordBehind u

end Look

end MediaCatalogue.Pattern
