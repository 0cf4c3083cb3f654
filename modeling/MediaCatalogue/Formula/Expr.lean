import MediaCatalogue.Formula.Connective

/-! Expression trees over numbered variables: their value, their measures and the two texts they are
shown in. -/

namespace MediaCatalogue

inductive Expr where
  | var (index : Nat)
  | not (inner : Expr)
  | binary (connective : Connective) (left right : Expr)
  deriving DecidableEq, Inhabited

namespace Expr

/-- The connective and the two operands of a binary root. -/
def operands? : Expr → Option (Connective × Expr × Expr)
  | binary c l r => some (c, l, r)
  | _ => none

/-- The value under `bindings`; a variable that `bindings` does not cover is false. -/
def eval (bindings : List Bool) : Expr → Bool
  | var i => bindings.getD i false
  | not e => !e.eval bindings
  | binary c l r => c.apply (l.eval bindings) (r.eval bindings)

def maxVariable : Expr → Nat
  | var i => i
  | not e => e.maxVariable
  | binary _ l r => max l.maxVariable r.maxVariable

def nodeCount : Expr → Nat
  | var _ => 1
  | not e => e.nodeCount + 1
  | binary _ l r => l.nodeCount + r.nodeCount + 1

/-- The variable indices at the leaves, from left to right. -/
def leaves : Expr → List Nat
  | var i => [i]
  | not e => e.leaves
  | binary _ l r => l.leaves ++ r.leaves

def isBinary : Expr → Bool
  | binary .. => true
  | _ => false

/-- Encloses the text of a binary tree, so that it stands as one operand. -/
def enclose (e : Expr) (text : List Char) : List Char :=
  if e.isBinary then '(' :: (text ++ [')']) else text

/-- The infix text, with `?` for a variable that has no name. -/
def infixChars (names : List Char) : Expr → List Char
  | var i => [names.getD i '?']
  | not e => negationGlyph :: e.enclose (e.infixChars names)
  | binary c l r =>
    l.enclose (l.infixChars names) ++ ' ' :: c.glyph :: ' ' :: r.enclose (r.infixChars names)

def infixText (names : List Char) (e : Expr) : String := String.ofList (e.infixChars names)

def connectiveLabel : Connective → String
  | .and => "And"
  | .or => "Or"
  | .implies => "Implies"
  | .reverseImplies => "ReverseImplies"

/-- One line for each node, in preorder, indented by two spaces for each level. -/
def outlineLines (depth : Nat) : Expr → List String
  | var i => ["".pushn ' ' (2 * depth) ++ s!"Var({i})"]
  | not e => ("".pushn ' ' (2 * depth) ++ "Not") :: e.outlineLines (depth + 1)
  | binary c l r =>
    ("".pushn ' ' (2 * depth) ++ connectiveLabel c) ::
      (l.outlineLines (depth + 1) ++ r.outlineLines (depth + 1))

def outline (e : Expr) : String := String.join ((e.outlineLines 0).map (· ++ "\n"))

end Expr

end MediaCatalogue
