import MediaCatalogue.Media.Kind

/-! What a user can ask for on the command line. -/

namespace MediaCatalogue.CommandLine

structure SearchRequest where
  query : String
  /-- The catalogue to search instead of the configured one. -/
  catalogue : Option String
  /-- The most results to print instead of the configured number. -/
  limit : Option UInt64
  mediaType : Option MediaType
  json : Bool
  /-- Show what the query means instead of searching. -/
  explain : Bool
  deriving DecidableEq

/-- Which of several matches to remove. -/
inductive Selection where
  /-- The only one. -/
  | single
  | all
  /-- The one with a number, counted from one. -/
  | numbered (number : UInt64)
  deriving DecidableEq

structure RemoveRequest where
  query : String
  catalogue : Option String
  mediaType : Option MediaType
  selection : Selection
  deriving DecidableEq

inductive Request where
  | search (r : SearchRequest)
  | remove (r : RemoveRequest)
  | table (formula : String)
  | operators
  | init (isGlobal force : Bool)
  | config
  | check
  deriving DecidableEq

namespace Request

/-- Whether a request needs the configuration. Others work even if a file of it is broken. -/
def needsConfig : Request → Bool
  | search _ | remove _ | config | check => true
  | table _ | operators | init .. => false

end Request

/-- A request, and how much of its course to tell. -/
structure Invocation where
  verbosity : Nat
  request : Request
  deriving DecidableEq

/-- Why arguments are no request. -/
inductive Stop where
  /-- They ask for help. -/
  | help
  | misuse
  deriving DecidableEq

end MediaCatalogue.CommandLine
