import MediaCatalogue.Json.Printer
import MediaCatalogue.Json.Reader
import MediaCatalogue.Media.Basic

/-! Records as JSON objects, whose entry `type` says which other entries there are. -/

namespace MediaCatalogue

def naturalJson (n : UInt32) : Json := .integer n.toNat

def MediaKind.entries : MediaKind → List (String × Json)
  | .film duration studio director =>
    [("duration", naturalJson duration), ("studio", .string studio), ("director", .string director)]
  | .audioTrack duration artist recordLabel =>
    [("duration", naturalJson duration), ("artist", .string artist),
      ("recordLabel", .string recordLabel)]
  | .televisionProgramme series episode studio channel =>
    [("series", .string series), ("episode", .string episode), ("studio", .string studio),
      ("channel", .string channel)]

namespace Media

def toJson (m : Media) : Json :=
  .object ([("title", .string m.title), ("rating", naturalJson m.rating),
    ("releaseYear", .integer m.releaseYear.toInt), ("type", .string m.mediaType.name)] ++
    m.kind.entries) none

def asNatural (j : Json) : Except Json.Fault UInt32 := do
  return UInt32.ofNat (← j.asInteger 0 (UInt32.size - 1)).toNat

def asYear (j : Json) : Except Json.Fault Int32 := do
  return Int32.ofInt (← j.asInteger Int32.minValue.toInt Int32.maxValue.toInt)

/-- A type by its name, or by its place among the types. -/
def asType : Json → Except Json.Fault MediaType
  | .string name => match MediaType.ofName? name with
    | some t => .ok t
    | none => .error .mismatch
  | .integer n => match if 0 ≤ n then MediaType.all[n.toNat]? else none with
    | some t => .ok t
    | none => .error .mismatch
  | j => .error j.mismatchOf

/-- The entry with a key, which must be there once. -/
def entryOf (key : String) (entries : List (String × Json)) : Except Json.Fault Json :=
  match entries.filter (·.1 == key) with
  | [(_, j)] => .ok j
  | _ => .error .mismatch

def textOf (key : String) (entries : List (String × Json)) : Except Json.Fault String := do
  (← entryOf key entries).asText

def naturalOf (key : String) (entries : List (String × Json)) : Except Json.Fault UInt32 := do
  asNatural (← entryOf key entries)

/-- The kind that entries describe; those that belong to other kinds do not matter. -/
def kindOf (entries : List (String × Json)) : Except Json.Fault MediaKind := do
  match ← asType (← entryOf "type" entries) with
  | .film =>
    return .film (← naturalOf "duration" entries) (← textOf "studio" entries)
      (← textOf "director" entries)
  | .audioTrack =>
    return .audioTrack (← naturalOf "duration" entries) (← textOf "artist" entries)
      (← textOf "recordLabel" entries)
  | .televisionProgramme =>
    return .televisionProgramme (← textOf "series" entries) (← textOf "episode" entries)
      (← textOf "studio" entries) (← textOf "channel" entries)

/-- What is known of a record while its entries are read. -/
structure Draft where
  title : Option String
  rating : Option UInt32
  releaseYear : Option Int32
  /-- The entries that describe the kind. -/
  others : List (String × Json)

namespace Draft

def empty : Draft := ⟨none, none, none, []⟩

/-- Refuses a second entry with the same key. -/
def once {α : Type} (held : Option α) (value : Except Json.Fault α) : Except Json.Fault α :=
  match held with
  | some _ => .error .mismatch
  | none => value

def add (d : Draft) (key : String) (j : Json) : Except Json.Fault Draft :=
  if key = "title" then do return { d with title := some (← once d.title j.asText) }
  else if key = "rating" then do return { d with rating := some (← once d.rating (asNatural j)) }
  else if key = "releaseYear" then do
    return { d with releaseYear := some (← once d.releaseYear (asYear j)) }
  else do return { d with others := d.others ++ [(key, ← j.whole)] }

def addAll (d : Draft) : List (String × Json) → Except Json.Fault Draft
  | [] => .ok d
  | (key, j) :: entries => do (← d.add key j).addAll entries

/-- The record, once all entries are read. -/
def media (d : Draft) : Except Json.Fault Media :=
  match d with
  | ⟨some title, some rating, some releaseYear, others⟩ => do
    return { title, rating, releaseYear, kind := ← kindOf others }
  | _ => .error .mismatch

end Draft

def ofJson : Json → Except Json.Fault Media
  | .object entries ending => do
    let draft ← Draft.empty.addAll entries
    Json.finish ending draft.media
  | j => .error j.mismatchOf

def parse (text : String) : Except Json.Fault Media := Json.decode ofJson text

def print (m : Media) : String := m.toJson.print Json.compact

end Media

end MediaCatalogue
