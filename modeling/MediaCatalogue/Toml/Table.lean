import MediaCatalogue.Toml.Basic

/-! Adding to tables. A key is given once, a table has one header, and a table that is complete is not
extended. -/

namespace MediaCatalogue.Toml

/-- Changes the table at the end of a path of keys. Tables that are missing come to be, by a dotted key
or else by a header below them. A dotted key does not lead into a table with a header. -/
def modify (byDots : Bool) (change : Origin → Entries → Option (Origin × Entries)) :
    List String → Origin → Entries → Option (Origin × Entries)
  | [], origin, entries => change origin entries
  | key :: path, origin, entries =>
    match find? key entries with
    | none => do
      let (o, es) ← modify byDots change path (if byDots then .dotted else .implied) []
      return (origin, entries ++ [(key, .table o es)])
    | some (.table o es) =>
      if o = .inline ∨ (byDots ∧ o = .header) then none
      else do
        let (o, es) ← modify byDots change path o es
        return (origin, replace key (.table o es) entries)
    | some (.array items true) =>
      match items.getLast? with
      | some (.table o es) => do
        let (o, es) ← modify byDots change path o es
        return (origin, replace key (.array (items.dropLast ++ [.table o es]) true) entries)
      | _ => none
    | some _ => none

/-- Adds an entry. Only dotted keys add to tables that came to be by dotted keys. -/
def addEntry (byDots : Bool) (key : String) (value : Toml) (origin : Origin) (entries : Entries) :
    Option (Origin × Entries) :=
  if (origin == .dotted) != byDots then none
  else
    match find? key entries with
    | some _ => none
    | none => some (origin, entries ++ [(key, value)])

/-- Adds an entry whose key has `path` in front of its last part. -/
def addAt (path : List String) (key : String) (value : Toml) (origin : Origin) (entries : Entries) :
    Option (Origin × Entries) :=
  modify true (addEntry (!path.isEmpty) key value) path origin entries

/-- Gives a table a header. -/
def addHeader (key : String) (origin : Origin) (entries : Entries) : Option (Origin × Entries) :=
  match find? key entries with
  | none => some (origin, entries ++ [(key, .table .header [])])
  | some (.table .implied es) => some (origin, replace key (.table .header es) entries)
  | some _ => none

/-- Adds a table to a list of tables with headers. -/
def addItem (key : String) (origin : Origin) (entries : Entries) : Option (Origin × Entries) :=
  match find? key entries with
  | none => some (origin, entries ++ [(key, .array [.table .header []] true)])
  | some (.array items true) =>
    some (origin, replace key (.array (items ++ [.table .header []]) true) entries)
  | some _ => none

end MediaCatalogue.Toml
