/-! Paths as they are written. Joining and taking the parent keep the text of what they keep, doubled
separators and dots included. -/

namespace MediaCatalogue

structure Path where
  chars : List Char
  deriving DecidableEq

namespace Path

def ofString (s : String) : Path := ⟨s.toList⟩

def display (p : Path) : String := String.ofList p.chars

def splitAtSlash : List Char → List (List Char)
  | [] => [[]]
  | c :: cs =>
    if c = '/' then [] :: splitAtSlash cs
    else
      match splitAtSlash cs with
      | [] => [[c]]
      | s :: ss => (c :: s) :: ss

def segments (p : Path) : List (List Char) := splitAtSlash p.chars

def joinSegments (ss : List (List Char)) : List Char := List.intercalate ['/'] ss

/-- The absolute path along names. -/
def ofNames (names : List (List Char)) : Path := ⟨'/' :: joinSegments names⟩

def isAbsolute (p : Path) : Bool := p.chars.head? == some '/'

/-- Puts a path below `p`, unless it is absolute and so stands for itself. -/
def join (p q : Path) : Path :=
  if q.isAbsolute then q
  else if p.chars = [] ∨ p.chars.getLast? = some '/' then ⟨p.chars ++ q.chars⟩
  else ⟨p.chars ++ '/' :: q.chars⟩

inductive Component where
  | root
  /-- The dot at the start of a relative path. -/
  | here
  | parent
  | name (text : List Char)
  deriving DecidableEq

/-- What a segment behind the first one stands for; empty ones and dots stand for nothing. -/
def componentOf (s : List Char) : Option Component :=
  if s = [] ∨ s = ['.'] then none
  else if s = ['.', '.'] then some .parent
  else some (.name s)

/-- How a path starts. -/
inductive Lead where
  | absolute
  | dot
  | relative
  deriving DecidableEq

/-- The start of a path and the segments behind it. -/
def split (p : Path) : Lead × List (List Char) :=
  match p.segments with
  | [] :: s :: ss => (.absolute, s :: ss)
  | ['.'] :: ss => (.dot, ss)
  | ss => (.relative, ss)

def Lead.components : Lead → List Component
  | absolute => [.root]
  | dot => [.here]
  | relative => []

def components (p : Path) : List Component :=
  let (lead, body) := p.split
  lead.components ++ body.filterMap componentOf

/-- Paths with the same components lead to the same place. -/
def same (p q : Path) : Bool := p.components == q.components

def isSkipped (s : List Char) : Bool := s == [] || s == ['.']

/-- The path with a start and the segments behind it. -/
def unsplit : Lead → List (List Char) → Path
  | .absolute, ss => ⟨'/' :: joinSegments ss⟩
  | .dot, [] => ⟨['.']⟩
  | .dot, ss => ⟨'.' :: '/' :: joinSegments ss⟩
  | .relative, ss => ⟨joinSegments ss⟩

/-- The path without its last component. -/
def parent? (p : Path) : Option Path :=
  let (lead, body) := p.split
  match body.reverse.dropWhile isSkipped with
  | [] => if lead = .dot then some ⟨[]⟩ else none
  | _ :: rest => some (unsplit lead (rest.dropWhile isSkipped).reverse)

/-- Follows parents at most `fuel` times. -/
def ancestorsWithin : Nat → Path → List Path
  | 0, p => [p]
  | fuel + 1, p =>
    p :: match p.parent? with
      | none => []
      | some q => ancestorsWithin fuel q

/-- The path, its parent and so on; every step makes the text shorter. -/
def ancestors (p : Path) : List Path := ancestorsWithin (p.chars.length + 1) p

end Path

end MediaCatalogue
