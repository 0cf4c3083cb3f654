/-! The four binary connectives of a formula, their glyphs and their truth functions. -/

namespace MediaCatalogue

inductive Connective where
  | and
  | or
  | implies
  | reverseImplies
  deriving DecidableEq, Inhabited

/-- The negation sign of a formula. -/
def negationGlyph : Char := '¬'

namespace Connective

/-- Every connective, in the order in which help lists them. -/
def all : List Connective := [and, or, implies, reverseImplies]

def glyph : Connective → Char
  | and => '^'
  | or => 'v'
  | implies => '→'
  | reverseImplies => '←'

def name : Connective → String
  | and => "and"
  | or => "or"
  | implies => "implies"
  | reverseImplies => "reverse implies"

def ofGlyph? (c : Char) : Option Connective := all.find? (·.glyph == c)

def apply : Connective → Bool → Bool → Bool
  | and, l, r => l && r
  | or, l, r => l || r
  | implies, l, r => !l || r
  | reverseImplies, l, r => l || !r

@[simp] theorem ofGlyph?_glyph (c : Connective) : ofGlyph? c.glyph = some c := by
  cases c <;> rfl

end Connective

end MediaCatalogue
