import MediaCatalogue.Json.Text

/-! Writing JSON, on one line or with every item on a line of its own. A value without faults is
written so that it is read back. -/

namespace MediaCatalogue.Json

/-- The space around items. -/
structure Style where
  /-- What stands in front of an item, or of the closing bracket, at a level of nesting. -/
  lineAt : Nat → List Char
  afterColon : List Char

def compact : Style := { lineAt := fun _ => [], afterColon := [] }

/-- Two spaces for every level. -/
def pretty : Style :=
  { lineAt := fun level => '\n' :: List.replicate (2 * level) ' ', afterColon := [' '] }

/-- Encloses written items; without any, the brackets stand next to each other. -/
def enclose (style : Style) (level : Nat) (opening closing : Char) : List (List Char) → List Char
  | [] => [opening, closing]
  | parts =>
    opening :: (List.intercalate [','] (parts.map (style.lineAt (level + 1) ++ ·)) ++
      style.lineAt level ++ [closing])

mutual

/-- The text of a value at a level of nesting; nothing stands for a fault. -/
def write (style : Style) (level : Nat) : Json → List Char
  | .null => "null".toList
  | .bool true => "true".toList
  | .bool false => "false".toList
  | .integer n => (toString n).toList
  | .decimal text => text
  | .string text => writeText text
  | .array items _ => enclose style level '[' ']' (writeItems style (level + 1) items)
  | .object entries _ =>
    enclose style level '\x7b' '\x7d' (writeEntries style (level + 1) entries)
  | .broken _ => []

def writeItems (style : Style) (level : Nat) : List Json → List (List Char)
  | [] => []
  | j :: js => j.write style level :: writeItems style level js

def writeEntries (style : Style) (level : Nat) : List (String × Json) → List (List Char)
  | [] => []
  | (key, j) :: js =>
    (writeText key ++ ':' :: (style.afterColon ++ j.write style level)) ::
      writeEntries style level js

end

def print (style : Style) (j : Json) : String := String.ofList (j.write style 0)

end MediaCatalogue.Json
