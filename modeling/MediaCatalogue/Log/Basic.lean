/-! Messages about the course of a run, and the text that explains a failure. -/

namespace MediaCatalogue

/-- A text around an explanation, which says in the words of a reader of some format what is wrong. -/
structure Explained where
  before : String
  explanation : String
  behind : String
  deriving DecidableEq

namespace Explained

def plain (text : String) : Explained := ⟨text, "", ""⟩

def text (e : Explained) : String := e.before ++ e.explanation ++ e.behind

def after (front : String) (e : Explained) : Explained := { e with before := front ++ e.before }

def followedBy (e : Explained) (tail : String) : Explained := { e with behind := e.behind ++ tail }

end Explained

namespace Log

inductive Level where
  | error
  | warn
  | info
  | debug
  | trace
  deriving DecidableEq

namespace Level

def all : List Level := [error, warn, info, debug, trace]

/-- The place of a level; the higher, the less a message matters. -/
def rank : Level → Nat
  | error => 1
  | warn => 2
  | info => 3
  | debug => 4
  | trace => 5

def name : Level → String
  | error => "ERROR"
  | warn => "WARN"
  | info => "INFO"
  | debug => "DEBUG"
  | trace => "TRACE"

end Level

/-- The parts of the program that send messages. -/
inductive Source where
  | formula
  | criteria
  | operator
  | catalogue
  | discovery
  | merge
  | search
  | remove
  deriving DecidableEq

/-- The name by which a filter selects a source, with those of the parts it belongs to in front. -/
def Source.name : Source → String
  | formula => "mcat_formula::formula"
  | criteria => "mcat_query::criteria"
  | operator => "mcat_query::operator"
  | catalogue => "mcat_catalogue::catalogue"
  | discovery => "mcat_config::discovery"
  | merge => "mcat_config::merge"
  | search => "mcat::cli::commands::search"
  | remove => "mcat::cli::commands::remove"

structure Message where
  level : Level
  source : Source
  text : Explained
  deriving DecidableEq

def Message.plain (level : Level) (source : Source) (text : String) : Message :=
  ⟨level, source, .plain text⟩

/-- The lines of a text after the first are indented. -/
def indentLines (s : String) : String :=
  String.ofList (s.toList.flatMap fun c => if c = '\n' then "\n    ".toList else [c])

def Message.shown (m : Message) : Explained :=
  let name := m.level.name
  { before := "[" ++ name.pushn ' ' (5 - name.length) ++ "] " ++ indentLines m.text.before,
    explanation := indentLines m.text.explanation,
    behind := indentLines m.text.behind ++ "\n" }

end Log

end MediaCatalogue
