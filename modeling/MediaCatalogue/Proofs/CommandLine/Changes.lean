import MediaCatalogue.Proofs.CommandLine.Remove
import MediaCatalogue.Proofs.Files.Change

/-! What a run does to the files. A run that fails leaves all of them alone, and one that succeeds changes
one file at most: a removal the catalogue that it has loaded, an initialisation the configuration file that
it is for. -/

namespace MediaCatalogue.CommandLine

open Catalogue (recordsOutside)
open FileTree (Rewritten)

def Request.onlyReads : Request → Bool
  | .remove _ | .init .. => false
  | .search _ | .table _ | .operators | .config | .check => true

def initsGlobal (e : Environment) (isGlobal : Bool) : Bool := isGlobal || atHome e

def initPath (e : Environment) (isGlobal : Bool) : Path :=
  if initsGlobal e isGlobal then Config.globalPath e.home else e.cwd.join Config.fileName

/-- The files after a run that succeeds. -/
inductive Leaves (e : Environment) : Request → FileTree → Prop where
  | read {q : Request} (reads : q.onlyReads = true) : Leaves e q e.tree
  | unmatched {r : RemoveRequest} {criteria : Query.Criteria} {path : Path} {c : Catalogue}
      (ready : Ready e r criteria path c) (none : c.matchingIndices criteria r.mediaType = []) :
      Leaves e (.remove r) e.tree
  /-- The file that the catalogue was loaded from holds what is left of it. -/
  | catalogue {r : RemoveRequest} {criteria : Query.Criteria} {path : Path} {c : Catalogue}
      {positions : List Nat} {place : Place} {after : FileTree} (ready : Ready e r criteria path c)
      (selects : Selects (c.matchingIndices criteria r.mediaType) r.selection positions)
      (some : positions ≠ []) (leads : e.tree.Leads path place)
      (rewritten : Rewritten e.tree after place
        (Catalogue.fileText ⟨recordsOutside c.items positions⟩)) :
      Leaves e (.remove r) after
  /-- The configuration file holds a template. Only by force does it take the place of a file. -/
  | configuration {isGlobal force : Bool} {place : Place} {after : FileTree}
      (leads : e.tree.Leads (initPath e isGlobal) place)
      (new : force = false → e.tree.entry? place = none)
      (rewritten : Rewritten e.tree after place (Config.Template.text (initsGlobal e isGlobal))) :
      Leaves e (.init isGlobal force) after

/-- How a request ends: as a failure without any change, or well and with the files that it leaves. -/
inductive Ending (e : Environment) (q : Request) (o : Effect) : Prop where
  | failed (code : o.code = .failure) (same : o.tree = e.tree)
  | done (code : o.code = .success) (leaves : Leaves e q o.tree)

variable {e : Environment} {q : Request}

/-- A step that fails ends the run, and the files are as before. -/
theorem Report.ending_andThen {α : Type} {r : Report α} {next : α → Outcome}
    (h : ∀ a, r.result = .ok a → Ending e q (next a).effect) :
    Ending e q (r.andThen e.tree next).effect := by
  cases hr : r.result with
  | error x =>
    rw [Report.effect_andThen_error hr]
    exact .failed rfl rfl
  | ok a =>
    rw [Report.effect_andThen hr]
    exact h a hr

theorem ending_search (e : Environment) (c : Config) (r : SearchRequest) :
    Ending e (.search r) (search e c r).effect := by
  refine Report.ending_andThen fun criteria _ => ?_
  split_ifs
  · exact .done rfl (.read rfl)
  · refine Report.ending_andThen fun path _ => Report.ending_andThen fun catalogue _ => ?_
    exact .done rfl (.read rfl)

theorem ending_table (e : Environment) (text : String) : Ending e (.table text) (table e text).effect := by
  unfold table
  cases Formula.parse text with
  | error error => exact .failed rfl rfl
  | ok f => exact .done rfl (.read rfl)

theorem Ending.below {o : Effect} (h : Ending e q o) (output : List String) :
    Ending e q (o.below output) := by
  cases h with
  | failed code same => exact .failed code same
  | done code leaves => exact .done code leaves

theorem ending_diagnose (e : Environment) (c : Config) : Ending e .check (diagnose e c).effect := by
  unfold diagnose
  split
  · rw [Outcome.effect_below]
    exact (Report.ending_andThen fun _ _ => .done rfl (.read rfl)).below _
  · exact .done rfl (.read rfl)
  · exact .failed rfl rfl

theorem ending_check (e : Environment) (c : Config) : Ending e .check (check e c).effect := by
  unfold check
  simp only [Outcome.effect_after, Outcome.effect_below]
  split_ifs
  · exact .done rfl (.read rfl)
  · exact ((ending_diagnose e c).below _).below _

theorem ending_removeIn {r : RemoveRequest} {criteria : Query.Criteria} {path : Path} {c : Catalogue}
    (h : Ready e r criteria path c) : Ending e (.remove r) (removeIn e r criteria path c).effect := by
  by_cases hne : c.matchingIndices criteria r.mediaType = []
  · rw [effect_removeIn_none hne]
    exact .done rfl (.unmatched h hne)
  cases hselected : selected r.selection (c.matchingIndices criteria r.mediaType) with
  | error reason =>
    rw [effect_removeIn_refused hne hselected]
    exact .failed rfl rfl
  | ok positions =>
    have hselects := selected_eq_ok.mp hselected
    have hsublist := hselects.sublist.trans (c.matchingIndices_sublist criteria r.mediaType)
    obtain ⟨written, hwrite, heffect⟩ := effect_removeAt h.loaded hsublist
    obtain ⟨place, hleads, hrewritten⟩ := FileTree.rewritten_write hwrite
    rw [effect_removeIn_selected hne hselected, heffect]
    exact .done rfl (.catalogue h hselects (hselects.ne_nil hne) hleads hrewritten)

theorem ending_remove {c : Config} (r : RemoveRequest) (hconfig : (loadConfig e).result = .ok c) :
    Ending e (.remove r) (remove e c r).effect := by
  refine Report.ending_andThen fun criteria hcriteria => ?_
  refine Report.ending_andThen fun path hpath => Report.ending_andThen fun catalogue hload => ?_
  refine ending_removeIn ⟨⟨c, hconfig, hpath⟩, ?_, result_loadCatalogue.mp hload⟩
  exact result_compileQuery.mp hcriteria

/-- Nothing is at a place to which a path leads without being there. -/
theorem entry?_of_not_exists {t : FileTree} {p : Path} {place : Place} (hleads : t.Leads p place)
    (h : t.exists? p = false) : t.entry? place = none := by
  cases hentry : t.entry? place with
  | none => rfl
  | some entry =>
    rw [FileTree.exists?, FileTree.look_eq_ok_iff_leads.mpr ⟨hleads, hentry⟩] at h
    cases h

theorem ending_init (e : Environment) (isGlobal force : Bool) :
    Ending e (.init isGlobal force) (init e isGlobal force).effect := by
  have hglobal : (isGlobal || atHome e) = initsGlobal e isGlobal := rfl
  have hpath : (if initsGlobal e isGlobal then Config.globalPath e.home
      else e.cwd.join Config.fileName) = initPath e isGlobal := rfl
  unfold init
  simp only [hglobal, hpath]
  split_ifs with hrefused
  · exact .failed rfl rfl
  · split
    · exact .failed rfl rfl
    · next written hwrite =>
      obtain ⟨place, hleads, hrewritten⟩ := FileTree.rewritten_write hwrite
      refine .done rfl (.configuration hleads ?_ hrewritten)
      rintro rfl
      exact entry?_of_not_exists hleads (by simpa using hrefused)

theorem ending_fulfil (e : Environment) (q : Request) : Ending e q (fulfil e q).effect := by
  have hconfigured : q.needsConfig = true →
      (∀ c, (loadConfig e).result = .ok c → Ending e q (perform e c q).effect) →
        Ending e q (fulfil e q).effect := by
    intro hneeds hperform
    rw [fulfil, if_pos hneeds]
    exact Report.ending_andThen hperform
  cases q with
  | search r => exact hconfigured rfl fun c _ => ending_search e c r
  | remove r => exact hconfigured rfl fun c hc => ending_remove r hc
  | table formula => exact ending_table e formula
  | operators => exact .done rfl (.read rfl)
  | init isGlobal force => exact ending_init e isGlobal force
  | config => exact hconfigured rfl fun c _ => .done rfl (.read rfl)
  | check => exact hconfigured rfl fun c _ => ending_check e c

theorem Leaves.elsewhere {after : FileTree} (h : Leaves e q after) :
    ∃ place, ∀ x, x ≠ place → after.entry? x = e.tree.entry? x := by
  cases h with
  | read reads => exact ⟨[], fun _ _ => rfl⟩
  | unmatched ready none => exact ⟨[], fun _ _ => rfl⟩
  | catalogue ready selects some leads rewritten => exact ⟨_, rewritten.others⟩
  | configuration leads new rewritten => exact ⟨_, rewritten.others⟩

theorem tree_run_of_error {args : List String} {stop : Stop} (h : readArguments args = .error stop) :
    (run e args).tree = e.tree := by
  unfold run
  rw [h]
  cases stop <;> rfl

theorem ending_run {args : List String} {verbosity : Nat}
    (hargs : readArguments args = .ok ⟨verbosity, q⟩) : Ending e q (run e args).effect := by
  rw [effect_run hargs]
  exact ending_fulfil e q

theorem leaves_run {args : List String} {verbosity : Nat}
    (hargs : readArguments args = .ok ⟨verbosity, q⟩) (hdone : (run e args).code.number = 0) :
    Leaves e q (run e args).tree := by
  cases ending_run (e := e) hargs with
  | failed code same =>
    have hcode : (run e args).code = .failure := code
    rw [hcode] at hdone
    cases hdone
  | done code leaves => exact leaves

/-- A run that fails leaves all files as they are, and so do arguments that are not understood and requests
that only read. A removal changes the catalogue that it has loaded if records are selected, an
initialisation the configuration file that it is for, and neither anything else. -/
theorem run_changes_one_file_at_most (e : Environment) (args : List String) :
    ((run e args).code.number ≠ 0 → (run e args).tree = e.tree) ∧
    (∃ place, ∀ x, x ≠ place → (run e args).tree.entry? x = e.tree.entry? x) ∧
    (∀ stop, readArguments args = .error stop → (run e args).tree = e.tree) ∧
    ∀ verbosity q, readArguments args = .ok ⟨verbosity, q⟩ → (run e args).code.number = 0 →
      Leaves e q (run e args).tree := by
  cases hargs : readArguments args with
  | error stop =>
    have hsame : (run e args).tree = e.tree := tree_run_of_error hargs
    exact ⟨fun _ => hsame, ⟨[], fun _ _ => by rw [hsame]⟩, fun _ _ => hsame, nofun⟩
  | ok invocation =>
    obtain ⟨verbosity, q⟩ := invocation
    have hleaves : ∀ verbosity' q',
        (Except.ok ⟨verbosity, q⟩ : Except Stop Invocation) = .ok ⟨verbosity', q'⟩ →
          (run e args).code.number = 0 → Leaves e q' (run e args).tree := by
      rintro _ _ ⟨rfl, rfl⟩ hdone
      exact leaves_run hargs hdone
    cases ending_run (e := e) hargs with
    | failed code same =>
      have hsame : (run e args).tree = e.tree := same
      exact ⟨fun _ => hsame, ⟨[], fun _ _ => by rw [hsame]⟩, nofun, hleaves⟩
    | done code leaves =>
      have hcode : (run e args).code = .success := code
      refine ⟨fun hne => ?_, leaves.elsewhere, nofun, hleaves⟩
      rw [hcode] at hne
      exact absurd rfl hne

end MediaCatalogue.CommandLine
