import MediaCatalogue.CommandLine.Arguments
import MediaCatalogue.CommandLine.Commands

/-! Running the program. -/

namespace MediaCatalogue.CommandLine

def perform (e : Environment) (c : Config) : Request → Outcome
  | .search r => search e c r
  | .remove r => remove e c r
  | .table formula => table e formula
  | .operators => operators e
  | .init isGlobal force => init e isGlobal force
  | .config => config e c
  | .check => check e c

def fulfil (e : Environment) (r : Request) : Outcome :=
  if r.needsConfig then (loadConfig e).andThen e.tree fun c => perform e c r
  else perform e Config.standard r

/-- The filter of a run, and notices about words in it that cannot be read. The verbosity that a user
asks for holds for all sources that the environment does not name. -/
def filterOf (e : Environment) (verbosity : Nat) : Log.Filter × List Notice :=
  let (filter, faults) := Log.Filter.ofText (e.logFilter.getD "warn")
  (if verbosity = 0 then filter
    else filter.setDefault (min (Log.Level.warn.rank + verbosity) Log.Level.trace.rank),
    faults.map fun f => .told (.plain ("warning: " ++ f.message ++ ", ignoring it\n")))

def misuse (e : Environment) : Outcome :=
  { code := .misuse, output := [],
    notices := [.told (.plain "error: these arguments are not understood; try 'mcat --help'\n")],
    tree := e.tree }

def run (e : Environment) (args : List String) : Outcome :=
  match readArguments args with
  | .error .help => .success e.tree (helpLines.map line)
  | .error .misuse => misuse e
  | .ok invocation =>
    let (filter, warnings) := filterOf e invocation.verbosity
    let outcome := (fulfil e invocation.request).filtered filter
    { outcome with notices := warnings ++ outcome.notices }

end MediaCatalogue.CommandLine
