import MediaCatalogue.Files.Tree
import MediaCatalogue.Log.Filter

/-! What a run comes to: an exit code, text for the two output streams, and the files afterwards. -/

namespace MediaCatalogue.CommandLine

/-- What a run starts from. There always is a working directory, and a home directory. -/
structure Environment where
  tree : FileTree
  cwd : Path
  home : Path
  /-- The log filter that the environment asks for. -/
  logFilter : Option String

inductive ExitCode where
  | success
  | failure
  | misuse
  deriving DecidableEq

def ExitCode.number : ExitCode → Nat
  | success => 0
  | failure => 1
  | misuse => 2

inductive Notice where
  | told (text : Explained)
  | logged (message : Log.Message)
  deriving DecidableEq

def Notice.shown : Notice → Explained
  | told text => text
  | logged message => message.shown

/-- Whether a notice is shown under a filter; what is not a log message always is. -/
def Notice.passes (filter : Log.Filter) : Notice → Bool
  | told _ => true
  | logged message => filter.shows message

structure Outcome where
  code : ExitCode
  /-- The text on the output stream, in pieces. -/
  output : List String
  notices : List Notice
  tree : FileTree

def line (s : String) : String := s ++ "\n"

namespace Outcome

def success (tree : FileTree) (output : List String) : Outcome :=
  { code := .success, output, notices := [], tree }

/-- A failure that is told after some output. -/
def failure (tree : FileTree) (output : List String) (error : Explained) : Outcome :=
  { code := .failure, output, notices := [.told ((error.after "error: ").followedBy "\n")], tree }

/-- Puts log messages in front. -/
def after (messages : List Log.Message) (o : Outcome) : Outcome :=
  { o with notices := messages.map .logged ++ o.notices }

/-- Puts output in front. -/
def below (output : List String) (o : Outcome) : Outcome := { o with output := output ++ o.output }

def filtered (filter : Log.Filter) (o : Outcome) : Outcome :=
  { o with notices := o.notices.filter (·.passes filter) }

def outputText (o : Outcome) : String := String.join o.output

def errorText (o : Outcome) : String := String.join (o.notices.map fun n => n.shown.text)

end Outcome

/-- A result, or why there is none, and the log messages on the way to it. -/
structure Report (α : Type) where
  messages : List Log.Message
  result : Except Explained α

namespace Report

/-- Goes on with the result; without one, the run fails and the files stay as they are. -/
def andThen {α : Type} (r : Report α) (tree : FileTree) (next : α → Outcome) : Outcome :=
  match r.result with
  | .ok a => (next a).after r.messages
  | .error e => (Outcome.failure tree [] e).after r.messages

end Report

end MediaCatalogue.CommandLine
