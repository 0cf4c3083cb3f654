/-! JSON values. A text is read as far as it can be: where it stops to be JSON, a fault takes the
place of what is missing. So a decoder, which walks the value in the order of the text, meets the
first thing that is wrong, be it in the text or in what the text says. -/

namespace MediaCatalogue

inductive Json.Fault where
  /-- The text is no JSON. -/
  | malformed
  /-- The text ends before its value does. -/
  | truncated
  /-- The value is not what was asked for. -/
  | mismatch
  deriving DecidableEq

def Json.Fault.message : Json.Fault → String
  | malformed => "not a JSON text"
  | truncated => "the text ends too early"
  | mismatch => "not the value that was expected"

/-- A value. `ending` is the fault that stands where the next item or the end is expected. -/
inductive Json where
  | null
  | bool (b : Bool)
  | integer (n : Int)
  /-- A number that is not written as an integer, or is too large for one, as its text. -/
  | decimal (text : List Char)
  | string (text : String)
  | array (items : List Json) (ending : Option Json.Fault)
  | object (entries : List (String × Json)) (ending : Option Json.Fault)
  | broken (fault : Json.Fault)

namespace Json

mutual

def fault? : Json → Option Fault
  | .broken fault => some fault
  | .array items ending => itemsFault? items <|> ending
  | .object entries ending => entriesFault? entries <|> ending
  | _ => none

def itemsFault? : List Json → Option Fault
  | [] => none
  | j :: js => j.fault? <|> itemsFault? js

def entriesFault? : List (String × Json) → Option Fault
  | [] => none
  | (_, j) :: js => j.fault? <|> entriesFault? js

end

/-- The value that has to stand here is of another kind. -/
def mismatchOf : Json → Fault
  | .broken fault => fault
  | _ => .mismatch

def asText : Json → Except Fault String
  | .string text => .ok text
  | j => .error j.mismatchOf

/-- An integer from `low` to `high`. -/
def asInteger (low high : Int) : Json → Except Fault Int
  | .integer n => if low ≤ n ∧ n ≤ high then .ok n else .error .mismatch
  | j => .error j.mismatchOf

/-- Nothing but a check that a value is free of faults. -/
def whole (j : Json) : Except Fault Json :=
  match j.fault? with
  | none => .ok j
  | some fault => .error fault

/-- Ends the walk over items or entries. -/
def finish {α : Type} (ending : Option Fault) (value : Except Fault α) : Except Fault α :=
  match ending with
  | none => value
  | some fault => .error fault

end Json

end MediaCatalogue
