import MediaCatalogue.Toml.Reader

/-! What a configuration file says. Every setting is optional, and keys that are not known do not
matter. -/

namespace MediaCatalogue

inductive OutputFormat where
  | table
  | json
  deriving DecidableEq, Inhabited

namespace OutputFormat

def all : List OutputFormat := [table, json]

def name : OutputFormat → String
  | table => "table"
  | json => "json"

def ofName? (name : String) : Option OutputFormat := all.find? (·.name == name)

end OutputFormat

namespace ConfigFile

structure Settings where
  catalogue : Option String
  deriving DecidableEq, Inhabited

structure Search where
  limit : Option UInt64
  deriving DecidableEq, Inhabited

structure Output where
  format : Option OutputFormat
  deriving DecidableEq, Inhabited

end ConfigFile

structure ConfigFile where
  /-- Whether files farther away do not count. -/
  root : Option Bool
  settings : Option ConfigFile.Settings
  search : Option ConfigFile.Search
  output : Option ConfigFile.Output
  deriving DecidableEq, Inhabited

namespace ConfigFile

def asBoolean : Toml → Option Bool
  | .boolean b => some b
  | _ => none

def asText : Toml → Option String
  | .text s => some s
  | _ => none

def asLimit : Toml → Option UInt64
  | .integer n => if 0 ≤ n ∧ n < UInt64.size then some (UInt64.ofNat n.toNat) else none
  | _ => none

/-- A format by its name, also as the one key of a table, with nothing under it. -/
def asFormat : Toml → Option OutputFormat
  | .text s => OutputFormat.ofName? s
  | .table _ [(name, .table _ [])] => OutputFormat.ofName? name
  | .table _ [(name, .array [] _)] => OutputFormat.ofName? name
  | _ => none

/-- Whether the values under keys other than `known` can be passed over. -/
def othersFit (known : List String) (entries : Toml.Entries) : Bool :=
  Toml.entriesFit (entries.filter fun e => !known.contains e.1)

/-- The value under a key, if there is one. The outer option is the failure to decode it. -/
def valueOf {α : Type} (decode : Toml → Option α) (key : String) (entries : Toml.Entries) :
    Option (Option α) :=
  match Toml.find? key entries with
  | none => some none
  | some v => (decode v).map some

/-- A section with one setting. It can be a table, a list that starts with the setting, or a date,
which counts as an empty table. -/
def sectionOf {α : Type} (decode : Toml → Option α) (key : String) : Toml → Option (Option α)
  | .table _ entries => if othersFit [key] entries then valueOf decode key entries else none
  | .array [] _ => some none
  | .array (v :: _) _ => (decode v).map some
  | .moment => some none
  | _ => none

def asSettings (v : Toml) : Option Settings := (sectionOf asText "catalogue" v).map Settings.mk

def asSearch (v : Toml) : Option Search := (sectionOf asLimit "limit" v).map Search.mk

def asOutput (v : Toml) : Option Output := (sectionOf asFormat "format" v).map Output.mk

def sectionNames : List String := ["root", "settings", "search", "output"]

def ofEntries (entries : Toml.Entries) : Option ConfigFile := do
  let root ← valueOf asBoolean "root" entries
  let settings ← valueOf asSettings "settings" entries
  let search ← valueOf asSearch "search" entries
  let output ← valueOf asOutput "output" entries
  if othersFit sectionNames entries then some { root, settings, search, output } else none

def parse (text : String) : Option ConfigFile := do ofEntries (← Toml.parse text)

def catalogue? (f : ConfigFile) : Option String := f.settings.bind (·.catalogue)

def limit? (f : ConfigFile) : Option UInt64 := f.search.bind (·.limit)

def format? (f : ConfigFile) : Option OutputFormat := f.output.bind (·.format)

/-- Whether files farther away do not count. -/
def isRoot (f : ConfigFile) : Bool := f.root == some true

end ConfigFile

end MediaCatalogue
