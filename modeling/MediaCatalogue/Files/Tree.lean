import MediaCatalogue.Files.Path

/-! Trees of files and directories, and what the system answers about them. -/

namespace MediaCatalogue

inductive FileError where
  | notFound
  | alreadyExists
  | notDirectory
  | isDirectory
  | nameTooLong
  | nulInPath
  /-- The file holds bytes that are no text. -/
  | notText
  deriving DecidableEq

def FileError.message : FileError → String
  | notFound => "No such file or directory (os error 2)"
  | alreadyExists => "File exists (os error 17)"
  | notDirectory => "Not a directory (os error 20)"
  | isDirectory => "Is a directory (os error 21)"
  | nameTooLong => "File name too long (os error 36)"
  | nulInPath => "file name contained an unexpected NUL byte"
  | notText => "stream did not contain valid UTF-8"

/-- The names that lead from the root to a place. -/
abbrev Place := List (List Char)

inductive Entry where
  | directory
  | file (text : String)
  /-- A file whose bytes are not UTF-8. -/
  | binary
  deriving DecidableEq

/-- Files and directories at their places; the root is always there. -/
structure FileTree where
  entries : List (Place × Entry)
  deriving DecidableEq

namespace FileTree

def empty : FileTree := ⟨[]⟩

def entry? (t : FileTree) (place : Place) : Option Entry :=
  if place = [] then some .directory else (t.entries.find? (·.1 = place)).map (·.2)

/-- Puts an entry at a place, instead of the one that may be there. -/
def put (t : FileTree) (place : Place) (e : Entry) : FileTree :=
  if t.entries.any (·.1 = place) then
    ⟨t.entries.map fun old => if old.1 = place then (place, e) else old⟩
  else ⟨t.entries ++ [(place, e)]⟩

def size (cs : List Char) : Nat := cs.foldr (·.utf8Size + ·) 0

/-- The longest name and the longest path, in bytes. -/
def maxName : Nat := 255

def maxPath : Nat := 4095

/-- Goes from a place along the segments of a path. Whatever is passed has to be a directory. -/
def walk (t : FileTree) : Place → List (List Char) → Except FileError Place
  | place, [] => .ok place
  | place, s :: ss =>
    match t.entry? place with
    | none => .error .notFound
    | some .directory =>
      if s = [] ∨ s = ['.'] then t.walk place ss
      else if s = ['.', '.'] then t.walk place.dropLast ss
      else if maxName < size s then .error .nameTooLong
      else t.walk (place ++ [s]) ss
    | some _ => .error .notDirectory

/-- The segments of a path that can be given to the system. -/
def checked (p : Path) : Except FileError (List (List Char)) :=
  if p.chars.contains '\x00' then .error .nulInPath
  else if p.chars = [] then .error .notFound
  else if maxPath < size p.chars then .error .nameTooLong
  else .ok p.segments

/-- What a path leads to. -/
def look (t : FileTree) (p : Path) : Except FileError (Place × Entry) := do
  let place ← t.walk [] (← checked p)
  match t.entry? place with
  | none => .error .notFound
  | some e => return (place, e)

def isFile (t : FileTree) (p : Path) : Bool :=
  match t.look p with
  | .ok (_, .file _) => true
  | .ok (_, .binary) => true
  | _ => false

def isDirectory (t : FileTree) (p : Path) : Bool :=
  match t.look p with
  | .ok (_, .directory) => true
  | _ => false

def exists? (t : FileTree) (p : Path) : Bool :=
  match t.look p with
  | .ok _ => true
  | .error _ => false

def read (t : FileTree) (p : Path) : Except FileError String := do
  match ← t.look p with
  | (_, .file text) => return text
  | (_, .binary) => .error .notText
  | (_, .directory) => .error .isDirectory

/-- The segments without the separators at the end. -/
def named (segments : List (List Char)) : List (List Char) :=
  (segments.reverse.dropWhile (· = [])).reverse

/-- Makes the text of a file, which may be new. A path that ends in a separator names no file. -/
def write (t : FileTree) (p : Path) (text : String) : Except FileError FileTree := do
  let segments ← checked p
  let place ← t.walk [] (named segments)
  if named segments ≠ segments ∨ t.entry? place = some .directory then .error .isDirectory
  else return t.put place (.file text)

def makeDirectory (t : FileTree) (p : Path) : Except FileError FileTree := do
  let place ← t.walk [] (named (← checked p))
  match t.entry? place with
  | some _ => .error .alreadyExists
  | none => return t.put place .directory

/-- Makes a directory and those above it that are missing; `paths` are the path and its ancestors. -/
def makeDirectories (t : FileTree) : List Path → Except FileError FileTree
  | [] => .ok t
  | p :: above =>
    if p.chars = [] then .ok t
    else
      match t.makeDirectory p with
      | .ok made => .ok made
      | .error .notFound => do
        let t ← t.makeDirectories above
        match t.makeDirectory p with
        | .ok made => return made
        | .error e => if t.isDirectory p then return t else .error e
      | .error e => if t.isDirectory p then .ok t else .error e

end FileTree

end MediaCatalogue
