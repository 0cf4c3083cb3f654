import MediaCatalogue.CommandLine.Display
import MediaCatalogue.CommandLine.Request
import MediaCatalogue.CommandLine.Steps
import MediaCatalogue.Config.Template

/-! The commands. -/

namespace MediaCatalogue.CommandLine

/-! Searching -/

/-- At most as many items as the limit says; zero is no limit. -/
def limited {α : Type} (limit : UInt64) (items : List α) : List α :=
  if limit = 0 then items else items.take limit.toNat

def noResults : String := line "No results found."

/-- The records found, as a list in JSON or as a table. -/
def foundText (json : Bool) (ms : List Media) : String :=
  if json then line (Catalogue.printList ms)
  else if ms.isEmpty then noResults
  else line (mediaGrid ms).display

def explanationText (json : Bool) (query : String) (c : Query.Criteria) : List String :=
  if json then [line ((explanationJson query c).print Json.pretty)]
  else (explanationLines query c).map line

def matchedMessage (found candidates : Nat) : Log.Message :=
  .plain .info .search s!"{found} of {candidates} record(s) matched"

def searchIn (e : Environment) (config : Config) (r : SearchRequest) (criteria : Query.Criteria)
    (catalogue : Catalogue) : Outcome :=
  let candidates := catalogue.itemsByType r.mediaType
  let (messages, found) := tryAll criteria id candidates
  let shown := limited (r.limit.getD config.limit) found
  (Outcome.success e.tree [foundText (r.json || config.format == .json) shown]).after
    (messages ++ [matchedMessage found.length candidates.length])

def search (e : Environment) (config : Config) (r : SearchRequest) : Outcome :=
  (compileQuery r.query).andThen e.tree fun criteria =>
    if r.explain then .success e.tree (explanationText r.json r.query criteria)
    else
      (catalogueReport e.cwd config r.catalogue).andThen e.tree fun path =>
        (loadCatalogue e.tree path).andThen e.tree (searchIn e config r criteria)

/-! Removing -/

/-- The positions to remove of those that match, or why there are none. -/
def selected (s : Selection) (found : List Nat) : Except String (List Nat) :=
  match s, found with
  | .all, found => .ok found
  | .numbered n, found =>
    match if n = 0 then none else found[n.toNat - 1]? with
    | some i => .ok [i]
    | none => .error s!"no match numbered {n.toNat} (found {found.length})"
  | .single, [i] => .ok [i]
  | .single, found =>
    .error (toString found.length ++
      " records match; pass --index N to remove one or --all to remove them all")

def removedMessage (removed left : Nat) (path : Path) : Log.Message :=
  .plain .info .remove s!"removed {removed} record(s), {left} left in {path.display}"

/-- Removes records at ascending positions and writes the rest back. -/
def removeAt (e : Environment) (path : Path) (catalogue : Catalogue) (positions : List Nat) :
    Outcome :=
  -- from the last position on, so that those still to come stay valid
  let (taken, rest) := catalogue.removeEach positions.reverse
  let removed := taken.reverse
  match rest.save e.tree path with
  | (tree, .error error) => .failure tree [] (catalogueExplained error)
  | (tree, .ok ()) =>
    (Outcome.success tree (removed.map fun m => line ("Removed " ++ m.display))).after
      [savedMessage rest path, removedMessage removed.length rest.items.length path]

def removeIn (e : Environment) (r : RemoveRequest) (criteria : Query.Criteria) (path : Path)
    (catalogue : Catalogue) : Outcome :=
  let (messages, found) := tryAll criteria (·.1)
    (catalogue.items.zipIdx.filter fun (m, _) => Catalogue.isOfType r.mediaType m)
  let matched := found.map (·.2)
  (if matched.isEmpty then .success e.tree [noResults]
  else
    match selected r.selection matched with
    | .ok positions => removeAt e path catalogue positions
    | .error reason =>
      let items := matched.filterMap (catalogue.items[·]?)
      .failure e.tree
        [line "The following matches were found:", line (numberedGrid items).display]
        (.plain reason) : Outcome).after messages

def remove (e : Environment) (config : Config) (r : RemoveRequest) : Outcome :=
  (compileQuery r.query).andThen e.tree fun criteria =>
    (catalogueReport e.cwd config r.catalogue).andThen e.tree fun path =>
      (loadCatalogue e.tree path).andThen e.tree (removeIn e r criteria path)

/-! Formulas and operators -/

def table (e : Environment) (text : String) : Outcome :=
  match Formula.parse text with
  | .error error => .failure e.tree [] (.plain error.display)
  | .ok f => (Outcome.success e.tree [f.tableText]).after [formulaMessage f]

def operators (e : Environment) : Outcome := .success e.tree (operatorLines.map line)

/-! Configuration -/

/-- Whether the working directory is the home directory, whose file applies everywhere. -/
def atHome (e : Environment) : Bool :=
  match (Config.globalPath e.home).parent? with
  | some parent => parent.same e.cwd
  | none => false

/-- Writes a configuration of comments. -/
def init (e : Environment) (isGlobal force : Bool) : Outcome :=
  let isGlobal := isGlobal || atHome e
  let path := if isGlobal then Config.globalPath e.home else e.cwd.join Config.fileName
  if e.tree.exists? path && !force then
    .failure e.tree [] (.plain ("configuration file already exists: " ++ path.display ++
      "\nuse --force to overwrite"))
  else
    match e.tree.write path (Config.Template.text isGlobal) with
    | .error error =>
      .failure e.tree [] (.plain ("failed to write " ++ path.display ++ ": " ++ error.message))
    | .ok tree => .success tree
      (line ("Created " ++ path.display) :: line "" :: line "Uncomment the settings you need:" ::
        (Config.Template.lines isGlobal).map fun l => line ("  " ++ l))

def config (e : Environment) (c : Config) : Outcome := .success e.tree [c.toToml]

def summaryLines (c : Catalogue) : List String :=
  line s!"  {c.items.length} record(s)" ::
    (MediaType.all.filterMap fun t =>
      let count := (c.itemsByType (some t)).length
      if count = 0 then none else some (line s!"  {t.name}: {count}"))

def warningLines (warnings : List Config.Warning) : List String :=
  line s!"Warnings ({warnings.length}):" ::
    (warnings.map (fun w => line ("  - " ++ w.message)) ++
      [line "", line "Hints:"] ++ warnings.map fun w => line ("  - " ++ w.hint))

/-- Looks for what could keep a search from working. -/
def diagnose (e : Environment) (c : Config) : Outcome :=
  match Config.warnings e.tree c, c.catalogue with
  | [], some path =>
    ((loadCatalogue e.tree path).andThen e.tree fun catalogue =>
      .success e.tree (summaryLines catalogue ++ [line "", line "No issues found."])).below
        [line ("Catalogue: " ++ path.display)]
  | [], none => .success e.tree [line "No issues found."]
  | warnings, _ => { Outcome.success e.tree (warningLines warnings) with code := .failure }

def check (e : Environment) (c : Config) : Outcome :=
  let paths := Config.discover e.tree e.home e.cwd
  let outcome : Outcome :=
    if paths.isEmpty then .success e.tree
      [line "No configuration files found.", line "",
        line "Run 'mcat init' to create a configuration file."]
    else (diagnose e c).below
      (line "Config files (highest precedence first):" ::
        (paths.map (fun p => line ("  " ++ p.display)) ++ [line ""]))
  (outcome.below [line "Checking configuration...", line ""]).after [discoveryMessage e.cwd paths]

end MediaCatalogue.CommandLine
