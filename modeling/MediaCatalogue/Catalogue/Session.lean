import MediaCatalogue.Catalogue.Storage

/-! Work on a catalogue, one operation after another. -/

namespace MediaCatalogue.Catalogue

inductive Operation where
  | add (m : Media)
  | remove (i : Nat)
  /-- Goes on with the catalogue that a text holds. -/
  | parse (text : String)
  /-- Goes on with the catalogue of given records. -/
  | collect (ms : List Media)
  | save (path : Path)
  | load (path : Path)

/-- What an operation answers. -/
inductive Reply where
  | done
  | added (isNew : Bool)
  | removed (m : Option Media)
  | malformed (fault : Json.Fault)
  | failed (error : CatalogueError)
  deriving DecidableEq

/-- A catalogue in hand, and the files. -/
structure Session where
  catalogue : Catalogue
  tree : FileTree

namespace Session

def start (tree : FileTree) : Session := ⟨empty, tree⟩

/-- Does an operation. One that fails leaves the catalogue as it is. -/
def perform (s : Session) : Operation → Reply × Session
  | .add m => (.added (!s.catalogue.contains m), { s with catalogue := s.catalogue.add m })
  | .remove i =>
    let (m, catalogue) := s.catalogue.remove i
    (.removed m, { s with catalogue })
  | .parse text =>
    match Catalogue.parse text with
    | .ok c => (.done, { s with catalogue := c })
    | .error fault => (.malformed fault, s)
  | .collect ms => (.done, { s with catalogue := ofList ms })
  | .save path =>
    match s.catalogue.save s.tree path with
    | (tree, .ok ()) => (.done, { s with tree })
    | (tree, .error e) => (.failed e, { s with tree })
  | .load path =>
    match Catalogue.load s.tree path with
    | .ok c => (.done, { s with catalogue := c })
    | .error e => (.failed e, s)

def performAll (s : Session) (ops : List Operation) : Session :=
  ops.foldl (fun s op => (s.perform op).2) s

end Session

end MediaCatalogue.Catalogue
