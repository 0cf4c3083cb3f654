import MediaCatalogue.Pattern.Escape

/-! Reading a bracketed class. Brackets that are still open wait on a stack. -/

namespace MediaCatalogue.Pattern

/-- A bracket that is still open. -/
structure OpenClass where
  negated : Bool
  /-- The items since the last set operator, the last one first. -/
  items : List ClassTree := []
  /-- The left side of a set operator that waits for its right side. -/
  left : Option (SetOperator × ClassTree) := none
  deriving DecidableEq

namespace OpenClass

def add (o : OpenClass) (item : ClassTree) : OpenClass := { o with items := item :: o.items }

/-- All that has been read, with the waiting operator applied. -/
def value (o : OpenClass) : ClassTree :=
  let right := ClassTree.ofItems o.items.reverse
  match o.left with
  | none => right
  | some (operator, left) => .operation operator left right

def operate (o : OpenClass) (operator : SetOperator) : OpenClass :=
  { negated := o.negated, left := some (operator, o.value) }

end OpenClass

def namedClasses : List (String × NamedClass) :=
  [("alnum", .alnum), ("alpha", .alpha), ("ascii", .ascii), ("blank", .blank), ("cntrl", .cntrl),
   ("digit", .digit), ("graph", .graph), ("lower", .lower), ("print", .print), ("punct", .punct),
   ("space", .space), ("upper", .upper), ("word", .word), ("xdigit", .xdigit)]

/-- Reads `:name:]` behind a bracket, if it stands there. -/
def namedClass? (cs : List Char) : Option (ClassTree × List Char) :=
  match cs with
  | ':' :: cs =>
    let (negated, cs) := match cs with
      | '^' :: cs => (true, cs)
      | cs => (false, cs)
    match cs.dropWhile (· != ':') with
    | ':' :: ']' :: rest =>
      (namedClasses.lookup (String.ofList (cs.takeWhile (· != ':')))).map
        fun n => (.named n negated, rest)
    | _ => none
  | _ => none

/-- Hyphens at the start of a class are literal. -/
def readHyphens (verbose : Bool) :
    (fuel : Nat) → (items : List ClassTree) → List Char → Except Fault (Parsed (List ClassTree))
  | 0, _, _ => .error .classUnclosed
  | fuel + 1, items, cs =>
    match cs with
    | [] => .error .classUnclosed
    | '-' :: cs => readHyphens verbose fuel (.literal { char := '-' } :: items) (skip verbose cs)
    | cs => .ok (items, cs)

/-- Reads the start of a class behind its bracket: a sign, hyphens and a closing bracket that is
literal because it comes first. -/
def readOpening (verbose : Bool) (cs : List Char) : Except Fault (Parsed OpenClass) := do
  let cs := skip verbose cs
  let (negated, cs) := match cs with
    | '^' :: cs => (true, skip verbose cs)
    | cs => (false, cs)
  let (items, cs) ← readHyphens verbose (cs.length + 1) [] cs
  match items, cs with
  | [], ']' :: cs =>
    let cs := skip verbose cs
    if cs.isEmpty then .error .classUnclosed
    else return ({ negated, items := [.literal { char := ']' }] }, cs)
  | _, _ => return ({ negated, items }, cs)

def readClassAtom (verbose : Bool) : List Char → Except Fault (Parsed Atom)
  | [] => .error .classUnclosed
  | '\\' :: cs => readEscape verbose cs
  | c :: cs => .ok (.literal { char := c }, cs)

/-- Skips white space and at most one mark of a comment. -/
def peekVerbose (inComment : Bool) : List Char → Option Char
  | [] => none
  | c :: cs =>
    if isBlank c then peekVerbose inComment cs
    else if !inComment && c == '#' then peekVerbose true cs
    else some c

/-- The character behind a hyphen that decides whether the hyphen makes a range. -/
def peek (verbose : Bool) (cs : List Char) : Option Char :=
  if verbose then (peekVerbose false cs).or cs.head? else cs.head?

/-- Reads one item of a class, which may be a range. -/
def readItem (verbose : Bool) (cs : List Char) : Except Fault (Parsed ClassTree) := do
  let (first, cs) ← readClassAtom verbose cs
  match skip verbose cs with
  | [] => .error .classUnclosed
  | '-' :: rest =>
    let next := peek verbose rest
    if next == some ']' || next == some '-' then return (← first.toClass, '-' :: rest)
    else
      let rest := skip verbose rest
      if rest.isEmpty then .error .classUnclosed
      else
        let (last, rest) ← readClassAtom verbose rest
        let low ← first.toLiteral
        let high ← last.toLiteral
        if low.char ≤ high.char then return (.range low high, rest) else .error .classRange
  | cs => return (← first.toClass, cs)

/-- Reads up to the bracket that closes the class `current`, itself inside `outer`. -/
def readOpen (verbose : Bool) :
    (fuel : Nat) → (current : OpenClass) → (outer : List OpenClass) → List Char → Except Fault (Parsed Tree)
  | 0, _, _, _ => .error .classUnclosed
  | fuel + 1, current, outer, cs =>
    match skip verbose cs with
    | [] => .error .classUnclosed
    | '[' :: rest =>
      match namedClass? rest with
      | some (item, rest) => readOpen verbose fuel (current.add item) outer rest
      | none => do
        let (inner, rest) ← readOpening verbose rest
        readOpen verbose fuel inner (current :: outer) rest
    | ']' :: rest =>
      match outer with
      | [] => .ok (.bracket current.negated current.value, rest)
      | parent :: outer =>
        readOpen verbose fuel (parent.add (.bracket current.negated current.value)) outer rest
    | '&' :: '&' :: rest => readOpen verbose fuel (current.operate .intersection) outer rest
    | '-' :: '-' :: rest => readOpen verbose fuel (current.operate .difference) outer rest
    | '~' :: '~' :: rest => readOpen verbose fuel (current.operate .symmetricDifference) outer rest
    | cs => do
      let (item, rest) ← readItem verbose cs
      readOpen verbose fuel (current.add item) outer rest

def readClass (verbose : Bool) (cs : List Char) : Except Fault (Parsed Tree) := do
  let (start, rest) ← readOpening verbose cs
  readOpen verbose (rest.length + 1) start [] rest

end MediaCatalogue.Pattern
