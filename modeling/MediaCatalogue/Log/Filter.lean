import MediaCatalogue.Log.Basic
import MediaCatalogue.Pattern.Basic
import MediaCatalogue.Text.Blank
import MediaCatalogue.Text.Case

/-! Filters of log messages, such as `warn`, `info,a=trace` or `debug/pattern`. -/

namespace MediaCatalogue.Log

/-- How much is shown of the sources whose name starts in a way, or of all others. -/
structure Directive where
  source : Option String
  /-- The highest rank that is shown; zero shows nothing. -/
  most : Nat
  deriving DecidableEq

namespace Directive

def size (d : Directive) : Nat := (d.source.map (·.utf8ByteSize)).getD 0

def covers (d : Directive) (source : Source) : Bool :=
  match d.source with
  | none => true
  | some name => name.toList.isPrefixOf source.name.toList

end Directive

structure Filter where
  directives : List Directive
  /-- What has to occur in a message. -/
  pattern : Option Pattern.Node

namespace Filter

/-- The rank that a word stands for. -/
def rankOf? (word : String) : Option Nat :=
  if sameName word "off" then some 0
  else (Level.all.find? fun l => sameName word l.name).map (·.rank)

/-- The rank that shows everything. -/
def everything : Nat := Level.trace.rank

/-- Adds a directive; it takes the place of one for the same sources. -/
def insert (directives : List Directive) (d : Directive) : List Directive :=
  if directives.any (·.source == d.source) then
    directives.map fun old => if old.source == d.source then d else old
  else directives ++ [d]

inductive Fault where
  | word (text : String)
  | manySlashes (text : String)
  | pattern (fault : Pattern.Fault)

def Fault.message : Fault → String
  | word text => "invalid logging spec '" ++ text ++ "'"
  | manySlashes text => "invalid logging spec '" ++ text ++ "' (too many '/'s)"
  | pattern fault => "invalid regex filter - " ++ fault.message

/-- Reads a word: a rank, a source, or a source and its rank. -/
def directive (word : String) : Except Fault Directive :=
  match word.splitOn "=" with
  | [name] => match rankOf? name with
    | some rank => .ok ⟨none, rank⟩
    | none => .ok ⟨some name, everything⟩
  | [name, rank] =>
    if trimText rank = "" then .ok ⟨some name, everything⟩
    else match rankOf? (trimText rank) with
      | some rank => .ok ⟨some name, rank⟩
      | none => .error (.word (trimText rank))
  | _ => .error (.word word)

/-- Reads words; those that cannot be read are left out. -/
def readWords (directives : List Directive) : List String → List Directive × List Fault
  | [] => (directives, [])
  | word :: words =>
    match directive word with
    | .ok d => readWords (insert directives d) words
    | .error fault =>
      let (directives, faults) := readWords directives words
      (directives, fault :: faults)

def readPattern (text : String) : Option Pattern.Node × List Fault :=
  match Pattern.compileText text.toList with
  | .ok node => (some node, [])
  | .error fault => (none, [.pattern fault])

def wordsOf (text : String) : List String :=
  ((text.splitOn ",").map trimText).filter (· != "")

/-- Reads a filter, and tells what in it could not be read. -/
def ofText (text : String) : Filter × List Fault :=
  match text.splitOn "/" with
  | [words] =>
    let (directives, faults) := readWords [] (wordsOf words)
    ({ directives, pattern := none }, faults)
  | [words, pattern] =>
    let (directives, faults) := readWords [] (wordsOf words)
    let (pattern, more) := readPattern pattern
    ({ directives, pattern }, faults ++ more)
  | _ => ({ directives := [], pattern := none }, [.manySlashes text])

/-- Sets what is shown of the sources that are not named. -/
def setDefault (f : Filter) (most : Nat) : Filter :=
  { f with directives := insert f.directives ⟨none, most⟩ }

/-- The longer of two directives, of two of the same length the latter. -/
def longer (best : Option Directive) (d : Directive) : Option Directive :=
  match best with
  | none => some d
  | some b => if d.size < b.size then some b else some d

/-- The highest rank that is shown of a source; the longest name that covers it decides. Without any
directive only errors are shown. -/
def most (f : Filter) (source : Source) : Nat :=
  if f.directives.isEmpty then Level.error.rank
  else
    match (f.directives.filter (·.covers source)).foldl longer none with
    | some d => d.most
    | none => 0

def shows (f : Filter) (m : Message) : Bool :=
  m.level.rank ≤ f.most m.source &&
    (match f.pattern with
      | none => true
      | some node => node.occursIn m.text.text.toList)

end Filter

end MediaCatalogue.Log
