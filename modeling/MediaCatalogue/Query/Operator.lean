import MediaCatalogue.Pattern.Basic
import MediaCatalogue.Query.Minutes
import MediaCatalogue.Text.Blank
import MediaCatalogue.Text.Case

/-! The operators of a query and what they test. -/

namespace MediaCatalogue.Query

inductive Operator where
  | equals
  | contains
  | greater
  | less
  | greaterOrEqual
  | lessOrEqual
  | find
  | matchesWhole
  deriving DecidableEq, Inhabited

/-- Whether `part` occurs in a text. -/
def occursIn (part : List Char) : List Char → Bool
  | [] => part.isEmpty
  | c :: cs => part.isPrefixOf (c :: cs) || occursIn part cs

/-- What an operator comes to on two texts. -/
inductive Verdict where
  | holds
  | fails
  /-- The right text is no pattern, which counts as a failure. -/
  | invalidPattern (pattern : String) (fault : Pattern.Fault)
  deriving DecidableEq

namespace Verdict

def ofBool (b : Bool) : Verdict := if b then holds else fails

def toBool : Verdict → Bool
  | holds => true
  | _ => false

@[simp] theorem toBool_ofBool (b : Bool) : (ofBool b).toBool = b := by cases b <;> rfl

/-- The verdict of a pattern test; `pattern` is the pattern as the query has it. -/
def ofPatternTest (pattern : String) : Except Pattern.Fault Bool → Verdict
  | .ok b => ofBool b
  | .error fault => invalidPattern pattern fault

end Verdict

namespace Operator

/-- Every operator, in the order in which help lists them. -/
def all : List Operator :=
  [equals, contains, greater, less, greaterOrEqual, lessOrEqual, find, matchesWhole]

def token : Operator → String
  | equals => "="
  | contains => "contains"
  | greater => ">"
  | less => "<"
  | greaterOrEqual => ">="
  | lessOrEqual => "<="
  | find => "find"
  | matchesWhole => "matches"

/-- The operator of a token, whatever the case of its letters. -/
def ofToken? (token : String) : Option Operator := all.find? (sameName ·.token token)

def description : Operator → String
  | equals => "tests if the values are equal"
  | contains => "tests if the first value contains the second"
  | greater => "tests if the first value is greater than the second"
  | less => "tests if the first value is less than the second"
  | greaterOrEqual => "tests if the first value is greater than or equal to the second"
  | lessOrEqual => "tests if the first value is less than or equal to the second"
  | find => "tests if the first value contains a match for the second, a regex"
  | matchesWhole => "tests if the first value matches the second, a regex, entirely"

/-- Whether the right side is a pattern, and if so whether it has to span the left side. -/
def anchoring? : Operator → Option Bool
  | find => some false
  | matchesWhole => some true
  | _ => none

def isPattern (o : Operator) : Bool := o.anchoring?.isSome

/-- The comparison of numbers that the operator makes. -/
def comparison? : Operator → Option (Int → Int → Bool)
  | greater => some (· > ·)
  | less => some (· < ·)
  | greaterOrEqual => some (· ≥ ·)
  | lessOrEqual => some (· ≤ ·)
  | _ => none

def isNumeric (o : Operator) : Bool := o.comparison?.isSome

/-- Compares two texts as minutes; a text that is no number compares with nothing. -/
def compareMinutes (accept : Int → Int → Bool) (left right : String) : Bool :=
  match minutesOf (trim left.toList), minutesOf (trim right.toList) with
  | some l, some r => accept l r
  | _, _ => false

/-- What an operator that takes no pattern tests. -/
def testPlain (o : Operator) (left right : String) : Bool :=
  match o.comparison? with
  | some accept => compareMinutes accept left right
  | none => if o = contains then occursIn right.toList left.toList else left == right

def verdict (o : Operator) (left right : String) : Verdict :=
  match o.anchoring? with
  | none => .ofBool (o.testPlain left right)
  | some anchored => .ofPatternTest right (Pattern.test (trimText right) anchored (trimText left))

def test (o : Operator) (left right : String) : Bool := (o.verdict left right).toBool

/-- Does what `verdict` does with the pattern that was compiled last at hand. -/
def verdictSlot (slot : Option Pattern.Slot) (o : Operator) (left right : String) :
    Verdict × Option Pattern.Slot :=
  match o.anchoring? with
  | none => (.ofBool (o.testPlain left right), slot)
  | some anchored =>
    let (outcome, slot) := Pattern.testSlot slot (trimText right) anchored (trimText left)
    (.ofPatternTest right outcome, slot)

end Operator

end MediaCatalogue.Query
