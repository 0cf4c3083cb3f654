import MediaCatalogue.Text.Blank
import MediaCatalogue.Text.Case

/-! The kinds of media. -/

namespace MediaCatalogue

inductive MediaType where
  | film
  | audioTrack
  | televisionProgramme
  deriving DecidableEq, Inhabited

/-- The text is the name of no type. -/
structure UnknownMediaType where
  text : String
  deriving DecidableEq

def UnknownMediaType.message (e : UnknownMediaType) : String :=
  "unknown media type '" ++ e.text ++ "' (expected film, audio track or tv programme)"

namespace MediaType

def all : List MediaType := [film, audioTrack, televisionProgramme]

def name : MediaType → String
  | film => "film"
  | audioTrack => "audio track"
  | televisionProgramme => "tv programme"

def ofName? (name : String) : Option MediaType := all.find? (·.name == name)

/-- Reads a type, whatever the case of its letters and the space around it. -/
def ofText (text : String) : Except UnknownMediaType MediaType :=
  match all.find? fun t => sameName t.name (trimText text) with
  | some t => .ok t
  | none => .error { text }

end MediaType

/-- What a record says beyond its title, its rating and its year. Durations are in minutes. -/
inductive MediaKind where
  | film (duration : UInt32) (studio director : String)
  | audioTrack (duration : UInt32) (artist recordLabel : String)
  | televisionProgramme (series episode studio channel : String)
  deriving DecidableEq, Inhabited

def MediaKind.mediaType : MediaKind → MediaType
  | film .. => .film
  | audioTrack .. => .audioTrack
  | televisionProgramme .. => .televisionProgramme

end MediaCatalogue
