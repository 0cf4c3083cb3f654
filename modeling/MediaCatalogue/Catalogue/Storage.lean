import MediaCatalogue.Catalogue.Basic
import MediaCatalogue.Files.Tree

/-! Catalogues in files. -/

namespace MediaCatalogue

/-- Why a catalogue is not read or written. -/
inductive CatalogueError where
  | unreadable (path : Path) (error : FileError)
  | unwritable (path : Path) (error : FileError)
  | malformed (path : Path) (fault : Json.Fault)
  deriving DecidableEq

namespace CatalogueError

/-- The message up to the explanation of a fault in the text, and that explanation. -/
def messageParts : CatalogueError → String × String
  | unreadable path error =>
    ("failed to read catalogue " ++ path.display ++ ": " ++ error.message, "")
  | unwritable path error =>
    ("failed to write catalogue " ++ path.display ++ ": " ++ error.message, "")
  | malformed path fault => ("failed to parse catalogue " ++ path.display ++ ": ", fault.message)

def message (e : CatalogueError) : String := e.messageParts.1 ++ e.messageParts.2

end CatalogueError

namespace Catalogue

/-- The records in a file, which may hold several with the same key. -/
def loadList (tree : FileTree) (path : Path) : Except CatalogueError (List Media) :=
  match tree.read path with
  | .error e => .error (.unreadable path e)
  | .ok text =>
    match parseList text with
    | .error fault => .error (.malformed path fault)
    | .ok ms => .ok ms

def load (tree : FileTree) (path : Path) : Except CatalogueError Catalogue := do
  return ofList (← loadList tree path)

def fileText (c : Catalogue) : String := c.print ++ "\n"

/-- Makes the directories above a path that are missing. -/
def makeParents (tree : FileTree) (path : Path) : Except FileError FileTree :=
  match path.parent? with
  | none => .ok tree
  | some parent => tree.makeDirectories parent.ancestors

/-- Writes a catalogue to a file. The tree is that afterwards; if writing fails, directories may have
been made. -/
def save (c : Catalogue) (tree : FileTree) (path : Path) : FileTree × Except CatalogueError Unit :=
  match makeParents tree path with
  | .error e => (tree, .error (.unwritable path e))
  | .ok made =>
    match made.write path c.fileText with
    | .error e => (made, .error (.unwritable path e))
    | .ok written => (written, .ok ())

end Catalogue

end MediaCatalogue
