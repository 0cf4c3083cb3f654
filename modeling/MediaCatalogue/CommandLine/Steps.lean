import MediaCatalogue.Catalogue.Storage
import MediaCatalogue.CommandLine.Outcome
import MediaCatalogue.Config.Discovery
import MediaCatalogue.Text.Quoted

/-! The steps that commands share, and what is logged about them. -/

namespace MediaCatalogue.CommandLine

/-! Configuration -/

def discoveryMessage (cwd : Path) (paths : List Path) : Log.Message :=
  .plain .debug .discovery s!"discovered {paths.length} config file(s) from {cwd.display}"

def configExplained (e : ConfigError) : Explained :=
  { before := "failed to load configuration: " ++ e.messageParts.1,
    explanation := e.messageParts.2, behind := "" }

/-- Which file set the catalogue. -/
def mergeMessages (home : Path) (files : List PlacedFile) : List Log.Message :=
  match Config.catalogueOf home files with
  | none => []
  | some (path, f) =>
    [.plain .debug .merge s!"catalogue {path.display} set by {f.path.display}"]

def loadConfig (e : Environment) : Report Config :=
  let paths := Config.discover e.tree e.home e.cwd
  let found := discoveryMessage e.cwd paths
  match Config.loadFiles e.tree paths with
  | .error error => { messages := [found], result := .error (configExplained error) }
  | .ok files =>
    { messages := found :: mergeMessages e.home files, result := .ok (Config.merge e.home files) }

/-! Queries -/

def formulaMessage (f : Formula) : Log.Message :=
  .plain .debug .formula ("compiled formula " ++ String.ofList f.source ++
    s!" with {f.letters.length} variable(s), {f.root.nodeCount} node(s)")

def criteriaMessage (query : String) (c : Query.Criteria) : Log.Message :=
  .plain .debug .criteria ("compiled criteria " ++ quoted query ++
    s!" into {c.conditions.length} condition(s), formula {c.formula.display}")

def compileQuery (query : String) : Report Query.Criteria :=
  match Query.Criteria.compile query with
  | .error e =>
    let (before, explanation, behind) := e.displayParts
    { messages := [], result := .error { before, explanation, behind } }
  | .ok c => { messages := [formulaMessage c.formula, criteriaMessage query c], result := .ok c }

/-! Catalogues -/

def noCatalogue : Explained := .plain ("no catalogue configured\n" ++
  "Pass --catalogue, or run 'mcat init' and set [settings] catalogue.")

/-- The catalogue that a user names, or else the configured one. -/
def catalogueReport (cwd : Path) (config : Config) (named : Option String) : Report Path :=
  { messages := [],
    result := match named, config.catalogue with
      | some name, _ => .ok (cwd.join (.ofString name))
      | none, some path => .ok path
      | none, none => .error noCatalogue }

def catalogueExplained (e : CatalogueError) : Explained :=
  { before := e.messageParts.1, explanation := e.messageParts.2, behind := "" }

def skippedMessage (m : Media) : Log.Message :=
  .plain .warn .catalogue ("skipping duplicate record " ++ m.display)

def loadedMessage (c : Catalogue) (path : Path) : Log.Message :=
  .plain .debug .catalogue s!"loaded {c.items.length} record(s) from {path.display}"

def savedMessage (c : Catalogue) (path : Path) : Log.Message :=
  .plain .debug .catalogue s!"saved {c.items.length} record(s) to {path.display}"

def loadCatalogue (tree : FileTree) (path : Path) : Report Catalogue :=
  match Catalogue.loadList tree path with
  | .error e => { messages := [], result := .error (catalogueExplained e) }
  | .ok ms =>
    let c := Catalogue.ofList ms
    { messages := (Catalogue.empty.leftOut ms).map skippedMessage ++ [loadedMessage c path],
      result := .ok c }

/-! Trials -/

def verdictMessages : Query.Verdict → List Log.Message
  | .invalidPattern pattern fault =>
    [⟨.warn, .operator,
      { before := "ignoring invalid pattern " ++ quoted pattern ++ ": ",
        explanation := fault.message, behind := "" }⟩]
  | _ => []

def truthText (b : Bool) : String := if b then "true" else "false"

def trialMessages (t : Query.Criteria.Trial) : List Log.Message :=
  t.verdicts.flatMap verdictMessages ++
    [.plain .trace .criteria ("condition bits [" ++
      String.intercalate ", " (t.verdicts.map fun v => truthText v.toBool) ++ "] -> " ++
      truthText t.accepted)]

/-- The candidates whose record meets the criteria, and what is logged on the way. -/
def tryAll {α : Type} (c : Query.Criteria) (mediaOf : α → Media) (candidates : List α) :
    List Log.Message × List α :=
  let trials := (c.trialsSlot none (candidates.map fun a => (mediaOf a).record)).1
  (trials.flatMap trialMessages, ((candidates.zip trials).filter (·.2.accepted)).map (·.1))

end MediaCatalogue.CommandLine
