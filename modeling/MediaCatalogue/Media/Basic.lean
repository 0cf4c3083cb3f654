import MediaCatalogue.Media.Kind
import MediaCatalogue.Query.Condition

/-! Records of media, and the fields by which they are searched. -/

namespace MediaCatalogue

/-- The names under which a query finds what a record says. -/
inductive Field where
  | type
  | title
  | rating
  | releaseYear
  | duration
  | studio
  | director
  | artist
  | recordLabel
  | series
  | episode
  | channel
  deriving DecidableEq

namespace Field

def all : List Field :=
  [type, title, rating, releaseYear, duration, studio, director, artist, recordLabel, series,
    episode, channel]

def name : Field → String
  | type => "type"
  | title => "title"
  | rating => "rating"
  | releaseYear => "releaseyear"
  | duration => "duration"
  | studio => "studio"
  | director => "director"
  | artist => "artist"
  | recordLabel => "recordlabel"
  | series => "series"
  | episode => "episode"
  | channel => "channel"

/-- The field of a name, whatever the case of its letters. -/
def ofName? (name : String) : Option Field := all.find? fun f => sameName f.name name

end Field

structure Media where
  title : String
  rating : UInt32
  releaseYear : Int32
  kind : MediaKind
  deriving DecidableEq, Inhabited

/-- Records with the same key count as the same. -/
structure Media.Key where
  mediaType : MediaType
  title : String
  releaseYear : Int32
  deriving DecidableEq

namespace Media

def mediaType (m : Media) : MediaType := m.kind.mediaType

def key (m : Media) : Key := ⟨m.mediaType, m.title, m.releaseYear⟩

def naturalText (n : UInt32) : String := toString n.toNat

def yearText (year : Int32) : String := toString year.toInt

/-- What a record says under a field, unless the field does not apply to its type. -/
def field? (m : Media) : Field → Option String
  | .type => some m.mediaType.name
  | .title => some m.title
  | .rating => some (naturalText m.rating)
  | .releaseYear => some (yearText m.releaseYear)
  | .duration => match m.kind with
    | .film duration _ _ => some (naturalText duration)
    | .audioTrack duration _ _ => some (naturalText duration)
    | _ => none
  | .studio => match m.kind with
    | .film _ studio _ => some studio
    | .televisionProgramme _ _ studio _ => some studio
    | _ => none
  | .director => match m.kind with
    | .film _ _ director => some director
    | _ => none
  | .artist => match m.kind with
    | .audioTrack _ artist _ => some artist
    | _ => none
  | .recordLabel => match m.kind with
    | .audioTrack _ _ recordLabel => some recordLabel
    | _ => none
  | .series => match m.kind with
    | .televisionProgramme series _ _ _ => some series
    | _ => none
  | .episode => match m.kind with
    | .televisionProgramme _ episode _ _ => some episode
    | _ => none
  | .channel => match m.kind with
    | .televisionProgramme _ _ _ channel => some channel
    | _ => none

def fields (m : Media) : List (Field × String) :=
  Field.all.filterMap fun f => (m.field? f).map (f, ·)

def record (m : Media) : Query.Record := fun operand =>
  match Field.ofName? operand with
  | none => .unknown
  | some f =>
    match m.field? f with
    | some text => .value text
    | none => .undefined

def display (m : Media) : String :=
  "(" ++ m.mediaType.name ++ ") " ++ m.title ++ " [" ++ yearText m.releaseYear ++ "], rated " ++
    naturalText m.rating

end Media

end MediaCatalogue
