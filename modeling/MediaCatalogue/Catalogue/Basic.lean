import MediaCatalogue.Media.Json
import MediaCatalogue.Query.Criteria

/-! Catalogues: records in the order in which they were added, no two of them with the same key. -/

namespace MediaCatalogue

structure Catalogue where
  items : List Media
  deriving DecidableEq

namespace Catalogue

def empty : Catalogue := ⟨[]⟩

def contains (c : Catalogue) (m : Media) : Bool := c.items.any (·.key == m.key)

/-- Adds a record at the end, unless there is one with its key. -/
def add (c : Catalogue) (m : Media) : Catalogue := if c.contains m then c else ⟨c.items ++ [m]⟩

/-- Takes out the record at a position, if there is one. -/
def remove (c : Catalogue) (i : Nat) : Option Media × Catalogue := (c.items[i]?, ⟨c.items.eraseIdx i⟩)

/-- Takes out records one after another, each at a position among those that are left. -/
def removeEach (c : Catalogue) : List Nat → List Media × Catalogue
  | [] => ([], c)
  | i :: is =>
    let (m, rest) := c.remove i
    let (ms, rest) := rest.removeEach is
    (m.toList ++ ms, rest)

def addAll (c : Catalogue) (ms : List Media) : Catalogue := ms.foldl add c

/-- The catalogue of those records that are the first with their key. -/
def ofList (ms : List Media) : Catalogue := empty.addAll ms

def leftOut (c : Catalogue) : List Media → List Media
  | [] => []
  | m :: ms => (if c.contains m then [m] else []) ++ (c.add m).leftOut ms

/-- Whether a record is of a type, if one is given. -/
def isOfType (wanted : Option MediaType) (m : Media) : Bool := wanted.all (· == m.mediaType)

def itemsByType (c : Catalogue) (wanted : Option MediaType) : List Media :=
  c.items.filter (isOfType wanted)

def search (c : Catalogue) (criteria : Query.Criteria) : List Media :=
  c.items.filter fun m => criteria.accepts m.record

/-- The positions of the records of a type that meet the criteria. -/
def matchingIndices (c : Catalogue) (criteria : Query.Criteria) (wanted : Option MediaType) :
    List Nat :=
  ((c.items.zipIdx.filter fun (m, _) => isOfType wanted m).filter fun (m, _) =>
    criteria.accepts m.record).map (·.2)

def mediaOfItems : List Json → Except Json.Fault (List Media)
  | [] => .ok []
  | j :: js => do
    let m ← Media.ofJson j
    return m :: (← mediaOfItems js)

def mediaOfJson : Json → Except Json.Fault (List Media)
  | .array items ending => do
    let ms ← mediaOfItems items
    Json.finish ending (.ok ms)
  | j => .error j.mismatchOf

/-- Reads a list of records, which may hold several with the same key. -/
def parseList (text : String) : Except Json.Fault (List Media) := Json.decode mediaOfJson text

def parse (text : String) : Except Json.Fault Catalogue := do return ofList (← parseList text)

def listJson (ms : List Media) : Json := .array (ms.map Media.toJson) none

/-- The text of records, one entry a line. -/
def printList (ms : List Media) : String := (listJson ms).print Json.pretty

def print (c : Catalogue) : String := printList c.items

end Catalogue

end MediaCatalogue
