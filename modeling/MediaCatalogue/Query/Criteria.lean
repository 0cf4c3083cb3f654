import MediaCatalogue.Formula.Basic
import MediaCatalogue.Query.Condition
import MediaCatalogue.Query.Error

/-! Criteria: conditions joined by connectives, without precedence. Each condition is a variable of a
formula, and that formula decides. -/

namespace MediaCatalogue.Query

/-- A query has at most this many conditions, one for each letter. -/
def maxConditions : Nat := 26

def variableLetters : List Char := "ABCDEFGHIJKLMNOPQRSTUVWXYZ".toList

/-- The spellings of the connectives, whatever the case of their letters. -/
def connectiveAliases : List (String × Connective) :=
  [("&", .and), ("&&", .and), ("and", .and), ("^", .and), ("∧", .and),
   ("|", .or), ("||", .or), ("or", .or), ("v", .or), ("∨", .or),
   ("<implies>", .implies), ("implies", .implies), ("->", .implies), ("→", .implies),
   ("<reverse_implies>", .reverseImplies), ("<-", .reverseImplies), ("←", .reverseImplies)]

def connectiveOfToken? (token : String) : Option Connective :=
  (connectiveAliases.find? fun entry => sameName entry.1 token).map (·.2)

/-- Conditions with the formula that joins them; the variable `i` stands for the condition `i`. -/
structure Criteria where
  conditions : List Condition
  formula : Formula
  deriving DecidableEq

/-- A condition as written, with its sign and the connective behind it. -/
structure Clause where
  negated : Bool
  condition : Condition
  next : Option Connective
  deriving DecidableEq

namespace Clause

def signOf (token : String) : Bool × String :=
  match token.toList with
  | '!' :: name => (true, String.ofList name)
  | _ => (false, token)

/-- Reads a condition; the right side of a pattern operator has to be a pattern. -/
def conditionOf (left operator right : String) : Except Fault (Bool × Condition) := do
  let (negated, name) := signOf operator
  match Operator.ofToken? name with
  | none => .error (.unknownOperator operator)
  | some o =>
    match o.anchoring? with
    | none => return (negated, ⟨left, o, right⟩)
    | some anchored =>
      match Pattern.compile (trimText right) anchored with
      | .error fault => .error (.invalidPattern right fault.message)
      | .ok _ => return (negated, ⟨left, o, right⟩)

/-- Reads conditions and the connectives between them; `count` is the number of all tokens. -/
def readAll (count : Nat) : List String → Except Fault (List Clause)
  | [] => .ok []
  | left :: operator :: right :: rest => do
    let (negated, condition) ← conditionOf left operator right
    match rest with
    | [] => return [⟨negated, condition, none⟩]
    | token :: rest =>
      match connectiveOfToken? token with
      | none => .error (.unknownConnective token)
      | some c => return ⟨negated, condition, some c⟩ :: (← readAll count rest)
  | _ => .error (.tokenCount count)

/-- The clause in a formula, where `letter` stands for its condition. -/
def formulaChars (letter : Char) (c : Clause) : List Char :=
  (if c.negated then [negationGlyph] else []) ++ letter :: (c.next.map (·.glyph)).toList

end Clause

/-- The formula that joins clauses, each under the next letter. -/
def formulaText (clauses : List Clause) : String :=
  String.ofList (List.zipWith Clause.formulaChars variableLetters clauses).flatten

namespace Criteria

def ofTokens (tokens : List String) : Except Fault Criteria := do
  let n := tokens.length
  if n < 3 || (n - 3) % 4 != 0 then .error (.tokenCount n)
  else
    let count := (n + 3) / 4
    if maxConditions < count then .error (.tooManyConditions count maxConditions)
    else
      let clauses ← Clause.readAll n tokens
      match Formula.parse (formulaText clauses) with
      | .error e => .error (.formula e)
      | .ok formula => return { conditions := clauses.map (·.condition), formula }

def compile (query : String) : Except Error Criteria :=
  match ofTokens (tokenize query) with
  | .ok criteria => .ok criteria
  | .error fault => .error { fault, query }

def bits (c : Criteria) (record : Record) : List Bool := c.conditions.map (·.test record)

def accepts (c : Criteria) (record : Record) : Bool := c.formula.root.eval (c.bits record)

/-- The verdicts of conditions in order, each with the pattern that was compiled last at hand. -/
def verdictsSlot (slot : Option Pattern.Slot) (record : Record) :
    List Condition → List Verdict × Option Pattern.Slot
  | [] => ([], slot)
  | c :: cs =>
    let (v, slot) := c.verdictSlot slot record
    let (vs, slot) := verdictsSlot slot record cs
    (v :: vs, slot)

/-- What the criteria come to on one record. -/
structure Trial where
  verdicts : List Verdict
  accepted : Bool
  deriving DecidableEq

def trialSlot (slot : Option Pattern.Slot) (c : Criteria) (record : Record) :
    Trial × Option Pattern.Slot :=
  let (verdicts, slot) := verdictsSlot slot record c.conditions
  ({ verdicts, accepted := c.formula.root.eval (verdicts.map (·.toBool)) }, slot)

/-- The trials of records in order, and the pattern that was compiled last. -/
def trialsSlot (slot : Option Pattern.Slot) (c : Criteria) :
    List Record → List Trial × Option Pattern.Slot
  | [] => ([], slot)
  | r :: rs =>
    let (t, slot) := c.trialSlot slot r
    let (ts, slot) := c.trialsSlot slot rs
    (t :: ts, slot)

end Criteria

end MediaCatalogue.Query
