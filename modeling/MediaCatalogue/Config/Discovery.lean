import MediaCatalogue.Config.Basic

/-! Finding and loading configuration files: those of the working directory and of the directories
above it, then that of the home directory. -/

namespace MediaCatalogue

inductive ConfigError where
  | unreadable (path : Path) (error : FileError)
  | malformed (path : Path)
  deriving DecidableEq

namespace ConfigError

/-- The message up to the explanation of what is wrong with a text, and that explanation. -/
def messageParts : ConfigError → String × String
  | unreadable path error =>
    ("failed to read config file " ++ path.display ++ ": " ++ error.message, "")
  | malformed path =>
    ("failed to parse config file " ++ path.display ++ ": ", "not the settings that were expected")

def message (e : ConfigError) : String := e.messageParts.1 ++ e.messageParts.2

end ConfigError

namespace Config

def fileName : Path := .ofString ".mcat.toml"

/-- The file that applies everywhere. -/
def globalPath (home : Path) : Path := home.join fileName

def isGlobal (home path : Path) : Bool := path.same (globalPath home)

def loadFile (tree : FileTree) (path : Path) : Except ConfigError PlacedFile :=
  match tree.read path with
  | .error e => .error (.unreadable path e)
  | .ok text =>
    match ConfigFile.parse text with
    | none => .error (.malformed path)
    | some file => .ok { path, file }

/-- Whether a file can be read and keeps farther files from counting. -/
def endsSearch (tree : FileTree) (path : Path) : Bool :=
  match loadFile tree path with
  | .ok f => f.file.isRoot
  | .error _ => false

/-- The files of directories, up to the first that ends the search, and whether there is such a one. -/
def collect (tree : FileTree) : List Path → List Path × Bool
  | [] => ([], false)
  | directory :: above =>
    let path := directory.join fileName
    if tree.isFile path then
      if endsSearch tree path then ([path], true)
      else
        let (paths, ended) := collect tree above
        (path :: paths, ended)
    else collect tree above

/-- The files that count in a directory, the nearest first. -/
def discover (tree : FileTree) (home cwd : Path) : List Path :=
  let (paths, ended) := collect tree cwd.ancestors
  if !ended && tree.isFile (globalPath home) && !paths.any (isGlobal home) then
    paths ++ [globalPath home]
  else paths

/-- Reads files in order, up to the first that fails. -/
def loadFiles (tree : FileTree) : List Path → Except ConfigError (List PlacedFile)
  | [] => .ok []
  | path :: paths => do
    let f ← loadFile tree path
    return f :: (← loadFiles tree paths)

/-- The configuration of given files, the nearest first. -/
def ofFiles (tree : FileTree) (home : Path) (paths : List Path) : Except ConfigError Config := do
  return merge home (← loadFiles tree paths)

def load (tree : FileTree) (home cwd : Path) : Except ConfigError Config :=
  ofFiles tree home (discover tree home cwd)

inductive Warning where
  | noCatalogue
  | catalogueMissing (path : Path)
  | catalogueNoFile (path : Path)
  deriving DecidableEq

namespace Warning

def message : Warning → String
  | noCatalogue => "no catalogue is configured"
  | catalogueMissing path => "catalogue path does not exist: " ++ path.display
  | catalogueNoFile path => "catalogue path is not a file: " ++ path.display

def hint : Warning → String
  | noCatalogue => "Set catalogue under [settings] in .mcat.toml."
  | catalogueMissing _ =>
    "Create the catalogue file or fix the path; paths are relative to the config file."
  | catalogueNoFile _ => "The catalogue must be a JSON file, not a directory."

end Warning

def warnings (tree : FileTree) (c : Config) : List Warning :=
  match c.catalogue with
  | none => [.noCatalogue]
  | some path =>
    match tree.look path with
    | .error _ => [.catalogueMissing path]
    | .ok (_, .directory) => [.catalogueNoFile path]
    | .ok _ => []

end Config

end MediaCatalogue
