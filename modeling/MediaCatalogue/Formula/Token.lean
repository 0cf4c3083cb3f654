import MediaCatalogue.Formula.Connective

/-! Formula text reduced to its glyphs. Each glyph of the reduced source is one token, so that the
position of a token is the offset of its glyph. -/

namespace MediaCatalogue

namespace Formula

inductive Token where
  | variable (index : Nat)
  | connective (c : Connective)
  | not
  | opening
  | closing
  deriving DecidableEq, Inhabited

/-- Variables are the capital letters of the Latin alphabet. -/
def isVariable (c : Char) : Bool := 'A' ≤ c && c ≤ 'Z'

def isGlyph (c : Char) : Bool :=
  isVariable c || c == '(' || c == ')' || c == negationGlyph || (Connective.ofGlyph? c).isSome

/-- The token of a glyph; a variable is numbered by its place in `names`. -/
def tokenOf (names : List Char) (c : Char) : Token :=
  if c == '(' then .opening
  else if c == ')' then .closing
  else if c == negationGlyph then .not
  else match Connective.ofGlyph? c with
    | some k => .connective k
    | none => .variable (names.idxOf c)

/-- A reduced formula: its glyphs, its distinct variables in order of first appearance, and one
token for each glyph. -/
structure Normalized where
  source : List Char
  letters : List Char
  tokens : List Token
  deriving DecidableEq

/-- Drops every character that is no glyph and encloses the rest in one pair of parentheses. -/
def normalize (text : List Char) : Normalized :=
  let glyphs := text.filter isGlyph
  let names := (glyphs.filter isVariable).eraseDups
  let source := '(' :: (glyphs ++ [')'])
  { source, letters := names, tokens := source.map (tokenOf names) }

end Formula

end MediaCatalogue
