import MediaCatalogue.Proofs.CommandLine.Settings

/-! What a check tells about searching. A check finds no issues just if a search works that the
configuration is left to; it also ends well where there is no configuration at all. -/

namespace MediaCatalogue.CommandLine

open Config (discover)

def HasCatalogue (e : Environment) (c : Config) : Prop :=
  ∃ path catalogue, c.catalogue = some path ∧ Catalogue.load e.tree path = .ok catalogue

/-- The configuration can be loaded, and it is enough to search. -/
def Usable (e : Environment) : Prop := ∃ c, (loadConfig e).result = .ok c ∧ HasCatalogue e c

def clean : String := line "No issues found."

variable {e : Environment} {c : Config} {path : Path}

theorem not_usable_of_error {x : Explained} (h : (loadConfig e).result = .error x) : ¬ Usable e := by
  rintro ⟨c, hload, -⟩
  rw [h] at hload
  cases hload

theorem usable_iff (h : (loadConfig e).result = .ok c) : Usable e ↔ HasCatalogue e c := by
  constructor
  · rintro ⟨c', hload, hcatalogue⟩
    obtain rfl := Except.ok.inj (h.symm.trans hload)
    exact hcatalogue
  · exact fun hcatalogue => ⟨c, h, hcatalogue⟩

theorem not_hasCatalogue_of_none (h : c.catalogue = none) : ¬ HasCatalogue e c := by
  rintro ⟨path, catalogue, hpath, -⟩
  rw [h] at hpath
  cases hpath

theorem not_hasCatalogue_of_error {x : Explained} (hpath : c.catalogue = some path)
    (h : (loadCatalogue e.tree path).result = .error x) : ¬ HasCatalogue e c := by
  rintro ⟨path', catalogue, hpath', hload⟩
  obtain rfl := Option.some.inj (hpath.symm.trans hpath')
  rw [result_loadCatalogue.mpr hload] at h
  cases h

/-! Warnings -/

/-- There is one warning at most, and with one the catalogue cannot be read. -/
theorem warnings_cases (tree : FileTree) (c : Config) :
    (∃ path, c.catalogue = some path ∧ Config.warnings tree c = []) ∨
      ∃ w, Config.warnings tree c = [w] ∧
        ∀ path text, c.catalogue = some path → tree.read path ≠ .ok text := by
  unfold Config.warnings
  cases hpath : c.catalogue with
  | none => exact .inr ⟨_, rfl, fun path text h => by cases h⟩
  | some path =>
    have hunread : (∀ place text, tree.look path ≠ .ok (place, .file text)) →
        ∀ p text, some path = some p → tree.read p ≠ .ok text := by
      rintro hlook _ text ⟨⟩ hread
      obtain ⟨hp, place, hwalk, hfile⟩ := FileTree.read_eq_ok.mp hread
      exact hlook place text (FileTree.look_eq_ok.mpr ⟨hp, hwalk, hfile⟩)
    cases hlook : tree.look path with
    | error error =>
      exact .inr ⟨.catalogueMissing path, by simp only [hlook], hunread (by simp [hlook])⟩
    | ok found =>
      obtain ⟨place, entry⟩ := found
      cases entry with
      | directory =>
        exact .inr ⟨.catalogueNoFile path, by simp only [hlook], hunread (by simp [hlook])⟩
      | file text => exact .inl ⟨path, rfl, by simp only [hlook]⟩
      | binary => exact .inl ⟨path, rfl, by simp only [hlook]⟩

/-! Verdicts -/

/-- How a check ends: without issues and well, or with something else and as a failure. -/
inductive Verdict (sound : Prop) (o : Effect) : Prop where
  | clean (holds : sound) (code : o.code = .success) (last : o.output.getLast? = some clean)
  | issues (fails : ¬ sound) (code : o.code = .failure) (last : o.output.getLast? ≠ some clean)

/-- What is printed before does not matter. -/
theorem Verdict.below {sound : Prop} {o : Effect} (h : Verdict sound o) (hne : o.output ≠ [])
    (output : List String) : Verdict sound (o.below output) := by
  have hlast : (o.below output).output.getLast? = o.output.getLast? :=
    List.getLast?_append_of_ne_nil output hne
  cases h with
  | clean holds code last => exact .clean holds code (hlast.trans last)
  | issues fails code last => exact .issues fails code (hlast ▸ last)

theorem ne_clean_of_head {s : String} (h : s.toList.head? ≠ some 'N') : s ≠ clean := by
  rintro rfl
  exact h rfl

theorem verdict_diagnose (e : Environment) (c : Config) :
    Verdict (HasCatalogue e c) (diagnose e c).effect ∧ (diagnose e c).effect.output ≠ [] := by
  unfold diagnose
  rcases warnings_cases e.tree c with ⟨path, hpath, hwarnings⟩ | ⟨w, hwarnings, hread⟩
  · rw [hwarnings, hpath]
    simp only [Outcome.effect_below]
    cases hload : (loadCatalogue e.tree path).result with
    | ok catalogue =>
      rw [Report.effect_andThen hload]
      refine ⟨.clean ⟨path, catalogue, hpath, result_loadCatalogue.mp hload⟩ rfl ?_,
        List.cons_ne_nil _ _⟩
      rw [Outcome.effect_success, Effect.below, ← List.append_assoc,
        List.getLast?_append_of_ne_nil _ (List.cons_ne_nil _ _)]
      rfl
    | error x =>
      rw [Report.effect_andThen_error hload]
      refine ⟨.issues (not_hasCatalogue_of_error hpath hload) rfl ?_, List.cons_ne_nil _ _⟩
      rw [Effect.below, List.append_nil, List.getLast?_singleton, ne_eq, Option.some.injEq]
      exact ne_clean_of_head (by simp [line])
  · rw [hwarnings]
    have hcatalogue : ¬ HasCatalogue e c := by
      rintro ⟨path, catalogue, hpath, hload⟩
      obtain ⟨text, htext⟩ := Catalogue.exists_read_of_load hload
      exact hread path text hpath htext
    have hverdict : Verdict (HasCatalogue e c) ⟨.failure, warningLines [w], e.tree⟩ := by
      refine .issues hcatalogue rfl fun h => ?_
      have hlast : (warningLines [w]).getLast? = some (line ("  - " ++ w.hint)) := rfl
      exact ne_clean_of_head (by simp [line]) (Option.some.inj (hlast.symm.trans h))
    cases c.catalogue with
    | none => exact ⟨hverdict, List.cons_ne_nil _ _⟩
    | some path => exact ⟨hverdict, List.cons_ne_nil _ _⟩

theorem verdict_check (e : Environment) (c : Config)
    (hfiles : discover e.tree e.home e.cwd ≠ []) :
    Verdict (HasCatalogue e c) (check e c).effect := by
  obtain ⟨hverdict, houtput⟩ := verdict_diagnose e c
  have hempty : (discover e.tree e.home e.cwd).isEmpty = false := by simpa using hfiles
  unfold check
  simp only [hempty, Bool.false_eq_true, if_false, Outcome.effect_after, Outcome.effect_below]
  exact (hverdict.below houtput _).below (List.append_ne_nil_of_right_ne_nil _ houtput) _

theorem verdict_run_check {args : List String} {verbosity : Nat}
    (hargs : readArguments args = .ok ⟨verbosity, .check⟩)
    (hfiles : discover e.tree e.home e.cwd ≠ []) : Verdict (Usable e) (run e args).effect := by
  have hneeds : Request.check.needsConfig = true := rfl
  rw [effect_run hargs, fulfil, if_pos hneeds]
  cases hload : (loadConfig e).result with
  | error x =>
    rw [Report.effect_andThen_error hload]
    exact .issues (not_usable_of_error hload) rfl (by simp)
  | ok c =>
    rw [Report.effect_andThen hload, usable_iff hload]
    exact verdict_check e c hfiles

/-! With a catalogue -/

theorem warnings_of_load {catalogue : Catalogue} (hpath : c.catalogue = some path)
    (hload : Catalogue.load e.tree path = .ok catalogue) : Config.warnings e.tree c = [] := by
  obtain ⟨text, htext⟩ := Catalogue.exists_read_of_load hload
  rcases warnings_cases e.tree c with ⟨-, -, hnone⟩ | ⟨w, -, hunread⟩
  · exact hnone
  · exact absurd htext (hunread path text hpath)

/-- What a check shows where a catalogue can be loaded. -/
theorem effect_run_check_of_load {args : List String} {verbosity : Nat} {catalogue : Catalogue}
    (hargs : readArguments args = .ok ⟨verbosity, .check⟩) (hconfig : (loadConfig e).result = .ok c)
    (hfiles : discover e.tree e.home e.cwd ≠ []) (hpath : c.catalogue = some path)
    (hload : Catalogue.load e.tree path = .ok catalogue) :
    (run e args).effect = ⟨.success, [line "Checking configuration...", line ""] ++
      (line "Config files (highest precedence first):" ::
          ((discover e.tree e.home e.cwd).map (fun p => line ("  " ++ p.display)) ++ [line ""]) ++
        ([line ("Catalogue: " ++ path.display)] ++
          (summaryLines catalogue ++ [line "", line "No issues found."]))), e.tree⟩ := by
  have hneeds : Request.check.needsConfig = true := rfl
  have hsome : (discover e.tree e.home e.cwd).isEmpty = false := by simpa using hfiles
  rw [effect_run hargs, fulfil, if_pos hneeds, Report.effect_andThen hconfig, perform, check]
  simp only [hsome, Bool.false_eq_true, if_false, Outcome.effect_after, Outcome.effect_below, diagnose,
    warnings_of_load hpath hload, hpath, Report.effect_andThen (result_loadCatalogue.mpr hload)]
  rfl

/-! Without configuration files -/

theorem result_loadConfig_none (hfiles : discover e.tree e.home e.cwd = []) :
    (loadConfig e).result = .ok Config.standard := by
  rw [result_loadConfig, Config.load, hfiles]
  rfl

theorem not_usable_none (hfiles : discover e.tree e.home e.cwd = []) : ¬ Usable e := by
  rw [usable_iff (result_loadConfig_none hfiles)]
  exact not_hasCatalogue_of_none rfl

theorem effect_run_check_none {args : List String} {verbosity : Nat}
    (hargs : readArguments args = .ok ⟨verbosity, .check⟩)
    (hfiles : discover e.tree e.home e.cwd = []) :
    (run e args).effect = ⟨.success, [line "Checking configuration...", line "",
      line "No configuration files found.", line "",
      line "Run 'mcat init' to create a configuration file."], e.tree⟩ := by
  have hneeds : Request.check.needsConfig = true := rfl
  rw [effect_run hargs, fulfil, if_pos hneeds, Report.effect_andThen (result_loadConfig_none hfiles),
    perform, check, hfiles]
  rfl

/-! Searches -/

variable {r : SearchRequest} {criteria : Query.Criteria} {args : List String} {verbosity : Nat}

/-- A search that names no catalogue works just if the configuration has one. -/
theorem code_search (hquery : Query.Criteria.compile r.query = .ok criteria)
    (hnamed : r.catalogue = none) (hexplain : r.explain = false) (e : Environment) (c : Config) :
    (HasCatalogue e c ∧ (search e c r).effect.code = .success) ∨
      (¬ HasCatalogue e c ∧ (search e c r).effect.code = .failure) := by
  have hsearch : ¬ r.explain = true := by simp [hexplain]
  rw [search, Report.effect_andThen (result_compileQuery.mpr hquery), if_neg hsearch, hnamed]
  cases hpath : c.catalogue with
  | none =>
    have hreport : (catalogueReport e.cwd c none).result = .error noCatalogue := by
      simp only [catalogueReport, hpath]
    rw [Report.effect_andThen_error hreport]
    exact .inr ⟨not_hasCatalogue_of_none hpath, rfl⟩
  | some path =>
    have hreport : (catalogueReport e.cwd c none).result = .ok path := by
      simp only [catalogueReport, hpath]
    rw [Report.effect_andThen hreport]
    cases hload : (loadCatalogue e.tree path).result with
    | ok catalogue =>
      rw [Report.effect_andThen hload]
      exact .inl ⟨⟨path, catalogue, hpath, result_loadCatalogue.mp hload⟩, rfl⟩
    | error x =>
      rw [Report.effect_andThen_error hload]
      exact .inr ⟨not_hasCatalogue_of_error hpath hload, rfl⟩

theorem code_run_search (hargs : readArguments args = .ok ⟨verbosity, .search r⟩)
    (hquery : Query.Criteria.compile r.query = .ok criteria) (hnamed : r.catalogue = none)
    (hexplain : r.explain = false) :
    (Usable e ∧ (run e args).code = .success) ∨ (¬ Usable e ∧ (run e args).code = .failure) := by
  have hneeds : (Request.search r).needsConfig = true := rfl
  have hcode : (run e args).code = (run e args).effect.code := rfl
  rw [hcode, effect_run hargs, fulfil, if_pos hneeds]
  cases hload : (loadConfig e).result with
  | error x =>
    rw [Report.effect_andThen_error hload]
    exact .inr ⟨not_usable_of_error hload, rfl⟩
  | ok c =>
    rw [Report.effect_andThen hload, usable_iff hload]
    exact code_search hquery hnamed hexplain e c

/-! What is told -/

theorem Report.mem_notices_andThen {α : Type} {rep : Report α} {a : α} (h : rep.result = .ok a)
    {tree : FileTree} {next : α → Outcome} {n : Notice} (hn : n ∈ (next a).notices) :
    n ∈ (rep.andThen tree next).notices := by
  unfold Report.andThen
  rw [h]
  exact List.mem_append_right _ hn

theorem Report.told_andThen {α : Type} {rep : Report α} {x : Explained} (h : rep.result = .error x)
    (tree : FileTree) (next : α → Outcome) :
    .told ((x.after "error: ").followedBy "\n") ∈ (rep.andThen tree next).notices := by
  unfold Report.andThen
  rw [h]
  exact List.mem_append_right _ (List.mem_singleton_self _)

/-- No filter hides what is told. -/
theorem told_run {invocation : Invocation} (hargs : readArguments args = .ok invocation) {t : Explained}
    (h : .told t ∈ (fulfil e invocation.request).notices) : .told t ∈ (run e args).notices := by
  unfold run
  rw [hargs]
  exact List.mem_append_right _ (List.mem_filter.mpr ⟨h, rfl⟩)

theorem told_run_search_none (hargs : readArguments args = .ok ⟨verbosity, .search r⟩)
    (hquery : Query.Criteria.compile r.query = .ok criteria) (hnamed : r.catalogue = none)
    (hexplain : r.explain = false) (hfiles : discover e.tree e.home e.cwd = []) :
    .told ((noCatalogue.after "error: ").followedBy "\n") ∈ (run e args).notices := by
  have hneeds : (Request.search r).needsConfig = true := rfl
  have hsearch : ¬ r.explain = true := by simp [hexplain]
  refine told_run hargs ?_
  rw [fulfil, if_pos hneeds]
  refine Report.mem_notices_andThen (result_loadConfig_none hfiles) ?_
  refine Report.mem_notices_andThen (result_compileQuery.mpr hquery) ?_
  rw [if_neg hsearch, hnamed]
  exact Report.told_andThen rfl _ _

/-! Checks and searches -/

theorem outputText_of_getLast {o : Outcome} {s : String} (h : o.output.getLast? = some s) :
    ∃ before, o.outputText = before ++ s := by
  obtain ⟨front, hfront⟩ := List.getLast?_eq_some_iff.mp h
  exact ⟨String.join front, by simp [Outcome.outputText, hfront]⟩

/-- A check ends with the line that there are no issues just if a search works that leaves the catalogue
to the configuration. It also ends well if there is no configuration file, and only then. In that case
it does not end with this line, and the search fails for want of a catalogue. -/
theorem check_agrees_with_search {checkArgs searchArgs : List String} {checkVerbosity verbosity : Nat}
    (hcheck : readArguments checkArgs = .ok ⟨checkVerbosity, .check⟩)
    (hsearch : readArguments searchArgs = .ok ⟨verbosity, .search r⟩)
    (hquery : Query.Criteria.compile r.query = .ok criteria) (hnamed : r.catalogue = none)
    (hexplain : r.explain = false) :
    ((run e checkArgs).output.getLast? = some "No issues found.\n" ↔
      (run e searchArgs).code = .success) ∧
    ((run e checkArgs).code = .success ∧
        (∃ before, (run e checkArgs).outputText = before ++ "No issues found.\n") ↔
      (run e searchArgs).code = .success) ∧
    ((run e checkArgs).code = .success ↔
      (run e searchArgs).code = .success ∨ discover e.tree e.home e.cwd = []) ∧
    (discover e.tree e.home e.cwd = [] → (run e searchArgs).code = .failure ∧
      .told ((noCatalogue.after "error: ").followedBy "\n") ∈ (run e searchArgs).notices) := by
  have hcode := code_run_search (e := e) hsearch hquery hnamed hexplain
  by_cases hfiles : discover e.tree e.home e.cwd = []
  · obtain ⟨hsuccess, houtput, -⟩ := Effect.mk.inj (effect_run_check_none hcheck hfiles)
    obtain ⟨-, hfailure⟩ := hcode.resolve_left fun h => not_usable_none hfiles h.1
    have hfailed : (run e searchArgs).code ≠ .success := by simp [hfailure]
    have htext : ¬ ∃ before, (run e checkArgs).outputText = before ++ "No issues found.\n" := by
      rintro ⟨before, hbefore⟩
      have hsuffix : "No issues found.\n".toList <:+ (run e checkArgs).outputText.toList :=
        ⟨before.toList, by rw [hbefore, String.toList_append]⟩
      rw [Outcome.outputText, houtput] at hsuffix
      exact absurd hsuffix (by decide +kernel)
    refine ⟨?_, ?_, ?_, fun _ => ⟨hfailure, ?_⟩⟩
    · rw [houtput]
      exact iff_of_false (by decide +kernel) hfailed
    · exact iff_of_false (fun h => htext h.2) hfailed
    · exact iff_of_true hsuccess (.inr hfiles)
    · exact told_run_search_none hsearch hquery hnamed hexplain hfiles
  · have hverdict := verdict_run_check hcheck hfiles
    simp only [hfiles, or_false, false_implies, and_true]
    cases hverdict with
    | clean holds hsuccess hlast =>
      obtain ⟨-, hfound⟩ := hcode.resolve_right fun h => h.1 holds
      exact ⟨iff_of_true hlast hfound, iff_of_true ⟨hsuccess, outputText_of_getLast hlast⟩ hfound,
        iff_of_true hsuccess hfound⟩
    | issues fails hfailure hlast =>
      obtain ⟨-, hfailed⟩ := hcode.resolve_left fun h => fails h.1
      have hfailed' : (run e checkArgs).code = .failure := hfailure
      have hbad : (run e checkArgs).code ≠ .success := by simp [hfailed']
      have hsearched : (run e searchArgs).code ≠ .success := by simp [hfailed]
      exact ⟨iff_of_false hlast hsearched, iff_of_false (fun h => hbad h.1) hsearched,
        iff_of_false hbad hsearched⟩

def mixedRecords : Catalogue :=
  ⟨[⟨"Alpha", 4, 1990, .film 90 "North" "Lee"⟩, ⟨"Beta", 3, 1991, .audioTrack 4 "Lee" "South"⟩]⟩

def mixedSettings : Config := { Config.standard with catalogue := some (.ofString "/c") }

def mixedAtRoot : Environment :=
  { tree := ⟨[([Config.fileName.chars], .file mixedSettings.toToml),
      ([['c']], .file mixedRecords.fileText)]⟩, cwd := ⟨['/']⟩, home := ⟨['/']⟩, logFilter := none }

/-- The records are counted before the check ends without issues, and a search works. -/
theorem mixed_catalogue_has_no_issues :
    (run mixedAtRoot ["check"]).output.getLast? = some "No issues found.\n" ∧
      (run mixedAtRoot ["check"]).outputText = "Checking configuration...\n\n" ++
        "Config files (highest precedence first):\n  /.mcat.toml\n\n" ++
        "Catalogue: /c\n  2 record(s)\n  film: 1\n  audio track: 1\n\nNo issues found.\n" ∧
      (run mixedAtRoot ["search", "title contains a"]).code = .success := by
  have hcheck : readArguments ["check"] = .ok ⟨0, .check⟩ := by cbv
  have hsearch : readArguments ["search", "title contains a"] =
      .ok ⟨0, .search ⟨"title contains a", none, none, none, false, false⟩⟩ := by cbv
  have hquery : Query.Criteria.compile "title contains a" =
      .ok ⟨[⟨"title", .contains, "a"⟩], ⟨"(A)".toList, ['A'], .var 0⟩⟩ := by cbv
  have hdiscover : discover mixedAtRoot.tree mixedAtRoot.home mixedAtRoot.cwd = [.ofString "/.mcat.toml"] :=
    discover_root rfl
  have hsettings : (loadConfig mixedAtRoot).result = .ok mixedSettings := by
    have habsolute : mixedSettings.Anchored := by
      rintro p ⟨⟩
      rfl
    have hread : mixedAtRoot.tree.read (.ofString "/.mcat.toml") = .ok mixedSettings.toToml := rfl
    have hfiles := Config.ofFiles_toToml habsolute hread ⟨['/']⟩
    rw [← hdiscover] at hfiles
    exact result_loadConfig.mpr hfiles
  have hload : Catalogue.load mixedAtRoot.tree (.ofString "/c") = .ok mixedRecords :=
    Catalogue.load_fileText (by decide) rfl
  have husable : Usable mixedAtRoot := ⟨_, hsettings, _, mixedRecords, rfl, hload⟩
  obtain ⟨-, hfound⟩ := (code_run_search hsearch hquery rfl rfl).resolve_right fun h => h.1 husable
  obtain ⟨hlast, -⟩ := check_agrees_with_search (e := mixedAtRoot) hcheck hsearch hquery rfl rfl
  refine ⟨hlast.mpr hfound, ?_, hfound⟩
  have hfiles : discover mixedAtRoot.tree mixedAtRoot.home mixedAtRoot.cwd ≠ [] := hdiscover ▸ List.cons_ne_nil _ _
  obtain ⟨-, houtput, -⟩ := Effect.mk.inj (effect_run_check_of_load hcheck hsettings hfiles rfl hload)
  rw [hdiscover] at houtput
  rw [Outcome.outputText, houtput]
  decide +kernel

end MediaCatalogue.CommandLine
