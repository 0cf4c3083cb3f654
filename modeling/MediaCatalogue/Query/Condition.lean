import MediaCatalogue.Query.Operator
import MediaCatalogue.Query.Token

/-! Conditions on a record. An operand that names a field of the record stands for its value, every
other operand for itself. -/

namespace MediaCatalogue.Query

/-- What a record knows of an operand. -/
inductive Lookup where
  | value (text : String)
  /-- A field that does not apply to the record. -/
  | undefined
  /-- No field at all. -/
  | unknown
  deriving DecidableEq

/-- A record, as far as a query can see it. -/
abbrev Record := String → Lookup

/-- The text that an operand stands for. -/
def resolve (record : Record) (operand : String) : Option String :=
  match record operand with
  | .value text => some text
  | .undefined => none
  | .unknown => some operand

/-- A record of named texts; the first name that fits counts. -/
def recordOf (entries : List (String × String)) : Record := fun operand =>
  match entries.find? fun entry => sameName entry.1 operand with
  | some (_, value) => .value value
  | none => .unknown

structure Condition where
  left : String
  operator : Operator
  right : String
  deriving DecidableEq, Inhabited

namespace Condition

/-- The condition as it can be written in a query. -/
def display (c : Condition) : String :=
  quoteToken c.left ++ " " ++ c.operator.token ++ " " ++ quoteToken c.right

/-- Whether the condition holds of a record; one that asks for an undefined field does not. -/
def test (c : Condition) (record : Record) : Bool :=
  match resolve record c.left, resolve record c.right with
  | some left, some right => c.operator.test left right
  | _, _ => false

def verdictSlot (slot : Option Pattern.Slot) (c : Condition) (record : Record) :
    Verdict × Option Pattern.Slot :=
  match resolve record c.left, resolve record c.right with
  | some left, some right => c.operator.verdictSlot slot left right
  | _, _ => (.fails, slot)

end Condition

end MediaCatalogue.Query
