import MediaCatalogue.Formula.Connective

/-! What can be wrong with a formula or with the inputs it is given, and how that is told. -/

namespace MediaCatalogue

namespace Formula

inductive Fault where
  | expectedOpening
  | nestedTooDeeply
  | unclosed
  | noLeftOperand (c : Connective)
  | noOperandBetween (c pending : Connective)
  | missingConnective
  | noRightOperand (c : Connective)
  | danglingNegation
  | trailingContent
  | empty
  /-- A fault that a caller words itself. -/
  | reported (message : String)
  deriving DecidableEq

def quotedGlyph (c : Connective) : String := s!"'{c.glyph}'"

def Fault.message : Fault → String
  | expectedOpening => "expected opening parenthesis"
  | nestedTooDeeply => "parentheses nested too deeply"
  | unclosed => "unclosed parenthesis"
  | noLeftOperand c => quotedGlyph c ++ " has no left operand"
  | noOperandBetween c p =>
    quotedGlyph c ++ " follows " ++ quotedGlyph p ++ " without an operand between them"
  | missingConnective => "missing connective between operands"
  | noRightOperand c => quotedGlyph c ++ " has no right operand"
  | danglingNegation => "negation is not followed by an operand"
  | trailingContent => "unexpected content after closing parenthesis"
  | empty => "formula is empty"
  | reported message => message

inductive Error where
  /-- The formula `source` is faulty at the character `position`. -/
  | malformed (fault : Fault) (source : List Char) (position : Nat)
  | bindingLengthMismatch (expected actual : Nat)
  deriving DecidableEq

namespace Error

def isMalformed : Error → Bool
  | malformed .. => true
  | bindingLengthMismatch .. => false

def message : Error → String
  | malformed fault _ _ => fault.message
  | bindingLengthMismatch expected actual =>
    s!"expected {expected} boolean inputs, got {actual}"

/-- The message with a caret under the faulty character, at the latest behind the last one. -/
def display : Error → String
  | malformed fault source position =>
    "malformed formula: " ++ fault.message ++ "\n  " ++ String.ofList source ++ "\n  " ++
      "".pushn ' ' (min position source.length) ++ "^"
  | e@(bindingLengthMismatch ..) => e.message

end Error

end Formula

end MediaCatalogue
