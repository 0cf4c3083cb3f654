import MediaCatalogue.Formula.Error
import MediaCatalogue.Pattern.Fault

/-! What can be wrong with a query, and how that is told. -/

namespace MediaCatalogue.Query

inductive Fault where
  | tokenCount (count : Nat)
  | unknownConnective (token : String)
  | unknownOperator (token : String)
  | tooManyConditions (count most : Nat)
  | invalidPattern (pattern explanation : String)
  | formula (error : Formula.Error)
  deriving DecidableEq

def inQuotes (s : String) : String := "\"" ++ s ++ "\""

namespace Fault

/-- The message up to the explanation of a pattern's fault, and that explanation. -/
def messageParts : Fault → String × String
  | tokenCount count =>
    (s!"expected conditions of three tokens joined by connectives, got {count} token(s)", "")
  | unknownConnective token => (inQuotes token ++ " is not a connective", "")
  | unknownOperator token => (inQuotes token ++ " is not a search operator", "")
  | tooManyConditions count most => (s!"too many conditions: {count} (at most {most})", "")
  | invalidPattern pattern explanation =>
    ("invalid pattern " ++ inQuotes pattern ++ ": ", explanation)
  | formula error => ("the boolean formula is invalid: " ++ error.message, "")

def message (f : Fault) : String := f.messageParts.1 ++ f.messageParts.2

/-- A hint at what would be right. -/
def hint? : Fault → Option String
  | tokenCount _ => some "quote operands that contain spaces, e.g. title = \"Star Wars\""
  | unknownConnective _ => some "join conditions with &, |, <implies> or <reverse_implies>"
  | unknownOperator _ =>
    some "try =, contains, >, <, >=, <=, find or matches; prefix ! to negate"
  | invalidPattern .. =>
    some "escape regex metacharacters such as ( [ * with a doubled backslash"
  | tooManyConditions .. => none
  | formula _ => none

end Fault

structure Error where
  fault : Fault
  query : String
  deriving DecidableEq

namespace Error

/-- The message, the query below it and a hint below that. The explanation of a pattern's fault is
kept apart from the text before it and behind it. -/
def displayParts (e : Error) : String × String × String :=
  let (message, explanation) := e.fault.messageParts
  ("invalid criteria: " ++ message, explanation,
    (if e.query.isEmpty then "" else "\n  " ++ e.query) ++
      (match e.fault.hint? with
        | some hint => "\nhint: " ++ hint
        | none => ""))

def display (e : Error) : String :=
  let (before, explanation, behind) := e.displayParts
  before ++ explanation ++ behind

end Error

end MediaCatalogue.Query
