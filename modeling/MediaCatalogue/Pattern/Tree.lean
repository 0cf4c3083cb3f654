/-! Patterns as written, before flags are applied. -/

namespace MediaCatalogue.Pattern

/-- A literal character, and whether it was written as a two-digit byte escape. -/
structure Literal where
  char : Char
  byte : Bool := false
  deriving DecidableEq

inductive Flag where
  | ignoreCase
  | multiLine
  | dotMatchesNewLine
  | swapGreed
  | unicode
  | crlf
  | verbose
  deriving DecidableEq

/-- Flags that are switched on or off, in the order written. -/
abbrev FlagChanges := List (Flag × Bool)

inductive Assertion where
  | lineStart
  | lineEnd
  | textStart
  | textEnd
  | wordBoundary
  | notWordBoundary
  | wordStart
  | wordEnd
  | wordStartHalf
  | wordEndHalf
  deriving DecidableEq

/-- The classes `\d`, `\s` and `\w`. -/
inductive Shorthand where
  | digit
  | space
  | word
  deriving DecidableEq

/-- The classes that are written `[:name:]`. -/
inductive NamedClass where
  | alnum
  | alpha
  | ascii
  | blank
  | cntrl
  | digit
  | graph
  | lower
  | print
  | punct
  | space
  | upper
  | word
  | xdigit
  deriving DecidableEq

/-- A Unicode property as written, alone or with its value. -/
inductive Property where
  | single (name : List Char)
  | valued (name value : List Char)
  deriving DecidableEq

inductive SetOperator where
  | intersection
  | difference
  | symmetricDifference
  deriving DecidableEq

/-- What stands between brackets. -/
inductive ClassTree where
  | empty
  | literal (l : Literal)
  | range (first last : Literal)
  | shorthand (s : Shorthand) (negated : Bool)
  | named (n : NamedClass) (negated : Bool)
  | property (p : Property) (negated : Bool)
  | bracket (negated : Bool) (inner : ClassTree)
  | union (l r : ClassTree)
  | operation (o : SetOperator) (l r : ClassTree)
  deriving DecidableEq

inductive Tree where
  | empty
  | flags (changes : FlagChanges)
  | literal (l : Literal)
  | dot
  | assertion (a : Assertion)
  | shorthand (s : Shorthand) (negated : Bool)
  | property (p : Property) (negated : Bool)
  | bracket (negated : Bool) (inner : ClassTree)
  | repetition (least : Nat) (most : Option Nat) (body : Tree)
  | group (changes : FlagChanges) (body : Tree)
  | sequence (l r : Tree)
  | alternation (l r : Tree)
  deriving DecidableEq

namespace ClassTree

def ofItems : List ClassTree → ClassTree
  | [] => empty
  | [x] => x
  | x :: xs => union x (ofItems xs)

/-- How deep a class nests; a union counts once, however many items it has, and `inUnion` says that
it has been counted. -/
def depth (inUnion : Bool) : ClassTree → Nat
  | bracket _ inner => inner.depth false + 1
  | union l r => max (l.depth false) (r.depth true) + (if inUnion then 0 else 1)
  | operation _ l r => max (l.depth false) (r.depth false) + 1
  | _ => 0

end ClassTree

namespace Tree

def ofSequence : List Tree → Tree
  | [] => empty
  | [x] => x
  | x :: xs => sequence x (ofSequence xs)

def ofAlternatives : List Tree → Tree
  | [] => empty
  | [x] => x
  | x :: xs => alternation x (ofAlternatives xs)

/-- The list form that has been counted already when a depth is taken. -/
inductive Spine where
  | neither
  | sequence
  | alternation
  deriving DecidableEq

/-- How deep a pattern nests; sequences and alternations count once, whatever their length. -/
def depth (spine : Spine) : Tree → Nat
  | bracket _ inner => inner.depth false + 1
  | repetition _ _ body => body.depth .neither + 1
  | group _ body => body.depth .neither + 1
  | sequence l r =>
    max (l.depth .neither) (r.depth .sequence) + (if spine = .sequence then 0 else 1)
  | alternation l r =>
    max (l.depth .neither) (r.depth .alternation) + (if spine = .alternation then 0 else 1)
  | _ => 0

end Tree

end MediaCatalogue.Pattern
