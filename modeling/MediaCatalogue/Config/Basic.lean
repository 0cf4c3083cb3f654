import MediaCatalogue.Config.File
import MediaCatalogue.Files.Tree

/-! The configuration in effect: each setting comes from the nearest file that has it. -/

namespace MediaCatalogue

structure Config where
  catalogue : Option Path
  /-- The most results to print; zero stands for all. -/
  limit : UInt64
  format : OutputFormat
  deriving DecidableEq

structure PlacedFile where
  path : Path
  file : ConfigFile
  deriving DecidableEq

def PlacedFile.directory (f : PlacedFile) : Path := f.path.parent?.getD ⟨[]⟩

namespace Config

/-- What holds where no file has a setting. -/
def standard : Config := { catalogue := none, limit := 0, format := .table }

/-- A path with the tilde at its start replaced by the home directory. -/
def expandTilde (home : Path) (text : List Char) : Path :=
  match text with
  | ['~'] => home
  | '~' :: '/' :: rest => home.join ⟨rest⟩
  | text => ⟨text⟩

/-- The path that the text of a setting stands for in a file of a directory. -/
def resolve (home directory : Path) (text : String) : Path :=
  directory.join (expandTilde home text.toList)

/-- The catalogue that the nearest file with one names, and that file. -/
def catalogueOf (home : Path) (files : List PlacedFile) : Option (Path × PlacedFile) :=
  files.findSome? fun f =>
    f.file.catalogue?.map fun text => (resolve home f.directory text, f)

/-- Takes the limit of a file, if it has one. -/
def overrideLimit (limit : UInt64) (f : PlacedFile) : UInt64 := f.file.limit?.getD limit

def overrideFormat (format : OutputFormat) (f : PlacedFile) : OutputFormat :=
  f.file.format?.getD format

def merge (home : Path) (files : List PlacedFile) : Config :=
  { catalogue := (catalogueOf home files).map (·.1),
    limit := files.reverse.foldl overrideLimit standard.limit,
    format := files.reverse.foldl overrideFormat standard.format }

/-- The settings as the text of a configuration file. -/
def toToml (c : Config) : String :=
  "[settings]\n" ++
    (match c.catalogue with
      | some p => "catalogue = " ++ Toml.writeText p.display ++ "\n"
      | none => "") ++
    "\n[search]\nlimit = " ++ toString c.limit.toNat ++ "\n\n[output]\nformat = " ++
    Toml.writeText c.format.name ++ "\n"

end Config

end MediaCatalogue
