import MediaCatalogue.CommandLine.Run

/-! The program `mcat`. It looks at the files that a run can depend on, runs, and writes those that
have changed. -/

namespace MediaCatalogue.CommandLine

/-- The place that a path names, whatever there is on the way. -/
def placeOf (p : Path) : Place :=
  p.segments.foldl (fun place s =>
    if s = [] ∨ s = ['.'] then place
    else if s = ['.', '.'] then place.dropLast
    else place ++ [s]) []

def addDirectory (tree : FileTree) (place : Place) : FileTree :=
  (List.range place.length).foldl (fun t n => t.put (place.take (n + 1)) .directory) tree

/-- Adds what is found at a path. What is there but cannot be read counts as a directory. -/
def addPath (tree : FileTree) (p : Path) : IO FileTree := do
  let place := placeOf p
  match ← (IO.FS.readBinFile p.display).toBaseIO with
  | .ok bytes =>
    let entry := match String.fromUTF8? bytes with
      | some text => Entry.file text
      | none => Entry.binary
    return (addDirectory tree place.dropLast).put place entry
  | .error (.noFileOrDirectory ..) => return tree
  | .error _ => return addDirectory tree place

/-- The catalogue that a request names. -/
def namedCatalogue : Request → Option String
  | .search r => r.catalogue
  | .remove r => r.catalogue
  | _ => none

def cataloguePaths (e : Environment) (args : List String) : List Path :=
  let named := match readArguments args with
    | .ok invocation => (namedCatalogue invocation.request).map fun n => e.cwd.join (.ofString n)
    | .error _ => none
  let configured := match Config.load e.tree e.home e.cwd with
    | .ok c => c.catalogue
    | .error _ => none
  named.toList ++ configured.toList

/-- Looks at the files that a run with these arguments can depend on. -/
def environment (args : List String) : IO Environment := do
  let cwd := Path.ofString (← IO.currentDir).toString
  let home := Path.ofString ((← IO.getEnv "HOME").getD "/")
  let mut tree := addDirectory (addDirectory .empty (placeOf cwd)) (placeOf home)
  for directory in cwd.ancestors ++ [home] do
    tree ← addPath tree (directory.join Config.fileName)
  let e : Environment := { tree, cwd, home, logFilter := ← IO.getEnv "MCAT_LOG" }
  for p in cataloguePaths e args do
    tree ← addPath tree p
  return { e with tree }

def writeChanges (before after : FileTree) : IO Unit :=
  for (place, entry) in after.entries do
    match entry with
    | .file text =>
      if before.entry? place ≠ some entry then
        IO.FS.writeFile (Path.ofNames place).display text
    | _ => pure ()

end MediaCatalogue.CommandLine

open MediaCatalogue.CommandLine in
def main (args : List String) : IO UInt32 := do
  let e ← environment args
  let outcome := run e args
  writeChanges e.tree outcome.tree
  IO.print outcome.outputText
  IO.eprint outcome.errorText
  return outcome.code.number.toUInt32
