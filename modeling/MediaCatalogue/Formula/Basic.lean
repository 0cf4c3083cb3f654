import MediaCatalogue.Formula.Section

/-! Compiled formulas. -/

namespace MediaCatalogue

/-- A formula: its reduced source with the outermost parentheses, its distinct variables in order of
first appearance, and its tree. -/
structure Formula where
  source : List Char
  letters : List Char
  root : Expr
  deriving DecidableEq

namespace Formula

def parse (text : String) : Except Error Formula := do
  let reduced := normalize text.toList
  let root ← parseTokens reduced.tokens reduced.source
  return { source := reduced.source, letters := reduced.letters, root }

/-- The text shown to a reader, which reads back as an equivalent formula. -/
def display (f : Formula) : String := f.root.infixText f.letters

/-- The value under one truth value for each variable, in their order. -/
def evalWith (f : Formula) (bindings : List Bool) : Except Error Bool :=
  if bindings.length = f.letters.length then .ok (f.root.eval bindings)
  else .error (.bindingLengthMismatch f.letters.length bindings.length)

end Formula

end MediaCatalogue
