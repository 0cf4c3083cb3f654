import MediaCatalogue.Catalogue.Basic
import MediaCatalogue.Formula.TruthTable
import MediaCatalogue.Text.Grid

/-! How results are shown. -/

namespace MediaCatalogue.CommandLine

/-- The number of fields, from the first on, that have columns of their own. -/
def commonFields : Nat := 4

def details (m : Media) : String :=
  String.intercalate ", " ((m.fields.drop commonFields).map fun (f, v) => f.name ++ ": " ++ v)

def mediaCells (m : Media) : List String :=
  [m.mediaType.name, m.title, Media.naturalText m.rating, Media.yearText m.releaseYear, details m]

def mediaHeader : List String := ["Type", "Title", "Rating", "Year", "Details"]

def mediaGrid (ms : List Media) : Grid := { header := mediaHeader, rows := ms.map mediaCells }

def numberedGrid (ms : List Media) : Grid :=
  { header := "#" :: mediaHeader,
    rows := ms.zipIdx.map fun (m, i) => toString (i + 1) :: mediaCells m }

/-- The conditions with the letters that stand for them. -/
def lettered (c : Query.Criteria) : List (Char × Query.Condition) :=
  c.formula.letters.zip c.conditions

def conditionJson (entry : Char × Query.Condition) : Json :=
  .object [("variable", .string entry.1.toString), ("left", .string entry.2.left),
    ("operator", .string entry.2.operator.token), ("right", .string entry.2.right)] none

def explanationJson (query : String) (c : Query.Criteria) : Json :=
  .object [("query", .string query), ("formula", .string c.formula.display),
    ("conditions", .array ((lettered c).map conditionJson) none)] none

/-- The lines of a text that are not empty. -/
def linesOf (s : String) : List String :=
  ((s.toList.splitOn '\n').map String.ofList).filter (· != "")

def explanationLines (query : String) (c : Query.Criteria) : List String :=
  ["Query:", "   " ++ query, "", "Formula:", "   " ++ c.formula.display, "", "Conditions:"] ++
    (lettered c).map (fun (letter, condition) =>
      "   " ++ letter.toString ++ "  " ++ condition.display) ++
    ["", "Expression tree:"] ++
    (linesOf c.formula.root.outline).map ("   " ++ ·)

def operatorGrid : Grid :=
  { header := ["Operator", "Description"],
    rows := Query.Operator.all.map fun o => [o.token, o.description] }

def spellings (c : Connective) : String :=
  String.intercalate "  " ((Query.connectiveAliases.filter fun a => a.2 == c).map (·.1))

def connectiveGrid : Grid :=
  { header := ["Connective", "Glyph", "Written as"],
    rows := Connective.all.map fun c => [c.name, c.glyph.toString, spellings c] }

def operatorLines : List String :=
  [operatorGrid.display, "", connectiveGrid.display, "",
   "Prefix an operator with ! to negate it, e.g. 'title !contains Star'."]

end MediaCatalogue.CommandLine
