import MediaCatalogue.Proofs.Catalogue.Positions
import MediaCatalogue.Proofs.CommandLine.Display
import MediaCatalogue.Proofs.CommandLine.Effect

/-! What removing does to a catalogue file: the selected records are gone and told in order, all others
stay as they were. A run that selects nothing leaves the files alone, and the numbers in its listing are
those that the next run goes by. -/

namespace MediaCatalogue.CommandLine

open Catalogue (recordsAt recordsOutside)

/-- The positions that a user selects of those that match. -/
inductive Selects (found : List Nat) : Selection → List Nat → Prop where
  | all : Selects found .all found
  | numbered {n : UInt64} {i : Nat} (hn : n ≠ 0) (hi : found[n.toNat - 1]? = some i) :
    Selects found (.numbered n) [i]
  | single {i : Nat} (hi : found = [i]) : Selects found .single found

/-- Nothing matches, no match has the number, or there are several and none is named. -/
def Spares (found : List Nat) (s : Selection) : Prop :=
  found = [] ∨ (∃ n, s = .numbered n ∧ (n = 0 ∨ found.length < n.toNat)) ∨
    (s = .single ∧ 1 < found.length)

/-- The configuration, the query and the catalogue that a request to remove goes by. -/
structure Ready (e : Environment) (r : RemoveRequest) (criteria : Query.Criteria) (path : Path)
    (c : Catalogue) : Prop where
  catalogue : ∃ config, (loadConfig e).result = .ok config ∧
    (catalogueReport e.cwd config r.catalogue).result = .ok path
  query : Query.Criteria.compile r.query = .ok criteria
  loaded : Catalogue.load e.tree path = .ok c

/-- The records of a catalogue at some positions are removed from its file. -/
structure Removed (c : Catalogue) (path : Path) (positions : List Nat) (o : Outcome) : Prop where
  code : o.code = .success
  told : o.output = (recordsAt c.items positions).map removedLine
  /-- No two records of the catalogue have the same line. -/
  named : ∀ m ∈ c.items, ∀ m' ∈ c.items, removedLine m = removedLine m' → m = m'
  left : Catalogue.load o.tree path = .ok ⟨recordsOutside c.items positions⟩
  parts : (recordsAt c.items positions ++ recordsOutside c.items positions).Perm c.items
  /-- Every query finds its former matches but for those that are removed. -/
  matches_left : ∀ (criteria : Query.Criteria) (wanted : Option MediaType),
    recordsAt (recordsOutside c.items positions)
        (Catalogue.matchingIndices ⟨recordsOutside c.items positions⟩ criteria wanted) =
      recordsAt c.items ((c.matchingIndices criteria wanted).filter (· ∉ positions))

/-- Several matches are listed, and the next run goes by their numbers. -/
structure Listed (e : Environment) (r : RemoveRequest) (path : Path) (c : Catalogue)
    (found : List Nat) (o : Outcome) : Prop where
  told : o.output = ["The following matches were found:\n",
    (numberedGrid (recordsAt c.items found)).display ++ "\n"]
  lists : ListsRecords (recordsAt c.items found) (numberedGrid (recordsAt c.items found)).display
  /-- The one row with a number shows the record that is removed by this number, and no other record. -/
  numbers : ∀ n : UInt64, n ≠ 0 → n.toNat ≤ found.length →
    ∃ i m, found[n.toNat - 1]? = some i ∧ c.items[i]? = some m ∧
      (numberedRows (recordsAt c.items found)).filter
          (fun row => row.head? = some (toString n.toNat)) = [toString n.toNat :: recordRow m] ∧
      (∀ m' ∈ c.items, recordRow m' = recordRow m → m' = m) ∧
      ∀ args verbosity,
        readArguments args = .ok ⟨verbosity, .remove { r with selection := .numbered n }⟩ →
          Removed c path [i] (run { e with tree := o.tree } args) ∧
            (run { e with tree := o.tree } args).output = [removedLine m]

/-! Selecting -/

theorem toNat_pos {n : UInt64} (h : n ≠ 0) : 0 < n.toNat := by
  rw [Nat.pos_iff_ne_zero, ne_eq, ← UInt64.toNat_zero, UInt64.toNat_inj]
  exact h

theorem selected_eq_ok {found positions : List Nat} {s : Selection} :
    selected s found = .ok positions ↔ Selects found s positions := by
  constructor
  · intro h
    cases s with
    | all =>
      obtain rfl := Except.ok.inj h
      exact .all
    | numbered n =>
      simp only [selected] at h
      split at h
      · next i hi =>
        obtain rfl := Except.ok.inj h
        split_ifs at hi with hn
        exact .numbered hn hi
      · cases h
    | single =>
      rcases found with _ | ⟨i, _ | ⟨j, more⟩⟩
      · cases h
      · obtain rfl := Except.ok.inj h
        exact .single rfl
      · cases h
  · intro h
    cases h with
    | all => rfl
    | numbered hn hi => simp only [selected, if_neg hn, hi]
    | single hi =>
      subst hi
      rfl

theorem exists_selects {found : List Nat} {s : Selection} (h : ¬ Spares found s) :
    ∃ positions, Selects found s positions := by
  obtain ⟨hne, hnumber, hseveral⟩ : found ≠ [] ∧
      (¬ ∃ n, s = .numbered n ∧ (n = 0 ∨ found.length < n.toNat)) ∧
      ¬ (s = .single ∧ 1 < found.length) := by
    simpa only [Spares, not_or] using h
  have hpos := List.length_pos_iff.mpr hne
  cases s with
  | all => exact ⟨found, .all⟩
  | numbered n =>
    obtain ⟨hn, hle⟩ := not_or.mp fun hbad => hnumber ⟨n, rfl, hbad⟩
    have hlt : n.toNat - 1 < found.length := by omega
    exact ⟨_, .numbered hn (List.getElem?_eq_getElem hlt)⟩
  | single =>
    have hone : found.length = 1 := by
      by_contra hlength
      exact hseveral ⟨rfl, by omega⟩
    obtain ⟨i, hi⟩ := List.length_eq_one_iff.mp hone
    exact ⟨found, .single hi⟩

theorem not_selects {found positions : List Nat} {s : Selection} (hne : found ≠ [])
    (h : Spares found s) : ¬ Selects found s positions := by
  intro hselects
  obtain hempty | ⟨n, rfl, hn⟩ | ⟨rfl, hseveral⟩ := h
  · exact hne hempty
  · cases hselects with
    | numbered hzero hi =>
      have hlt := (List.getElem?_eq_some_iff.mp hi).1
      have hpos := toNat_pos hzero
      have := hn.resolve_left hzero
      omega
  · cases hselects with
    | single hi =>
      rw [hi] at hseveral
      exact absurd hseveral (lt_irrefl 1)

theorem Selects.sublist {found positions : List Nat} {s : Selection} (h : Selects found s positions) :
    positions.Sublist found := by
  cases h with
  | all => exact List.Sublist.refl _
  | numbered _ hi => exact List.singleton_sublist.mpr (List.mem_of_getElem? hi)
  | single _ => exact List.Sublist.refl _

theorem Selects.ne_nil {found positions : List Nat} {s : Selection} (h : Selects found s positions)
    (hne : found ≠ []) : positions ≠ [] := by
  cases h with
  | all => exact hne
  | numbered _ _ => exact List.cons_ne_nil _ _
  | single _ => exact hne

/-! Removing -/

variable {e : Environment} {r : RemoveRequest} {criteria : Query.Criteria} {path : Path}
  {c : Catalogue}

theorem Removed.of_effect {positions : List Nat} {o o' : Outcome} (h : o.effect = o'.effect)
    (ho : Removed c path positions o) : Removed c path positions o' := by
  obtain ⟨hcode, houtput, htree⟩ := Effect.mk.inj h
  exact ⟨hcode ▸ ho.code, houtput ▸ ho.told, ho.named, htree ▸ ho.left, ho.parts, ho.matches_left⟩

/-- Removing at ascending positions cannot fail where the catalogue has been loaded from. -/
theorem effect_removeAt {positions : List Nat} (hload : Catalogue.load e.tree path = .ok c)
    (h : positions.Sublist (List.range c.items.length)) :
    ∃ written, e.tree.write path (Catalogue.fileText ⟨recordsOutside c.items positions⟩) =
        .ok written ∧
      (removeAt e path c positions).effect = ⟨.success,
        (recordsAt c.items positions).map removedLine, written⟩ := by
  obtain ⟨written, hwrite, hsave⟩ := Catalogue.save_of_hosts (Catalogue.hosts_of_load hload)
    ⟨recordsOutside c.items positions⟩
  refine ⟨written, hwrite, ?_⟩
  simp only [removeAt, Catalogue.removeEach_reverse h, hsave, Outcome.effect_after, Outcome.effect_success,
    List.reverse_reverse, line_removed]

/-- A record of a loaded catalogue is known by its key. -/
theorem eq_of_key_eq (hload : Catalogue.load e.tree path = .ok c) {m m' : Media} (hm : m ∈ c.items)
    (hm' : m' ∈ c.items) (hkey : m.key = m'.key) : m = m' :=
  List.inj_on_of_nodup_map (Catalogue.nodup_of_load hload) hm hm' hkey

theorem removed_removeAt {positions : List Nat} (hload : Catalogue.load e.tree path = .ok c)
    (h : positions.Sublist (List.range c.items.length)) :
    Removed c path positions (removeAt e path c positions) := by
  have hnodup : ((recordsOutside c.items positions).map Media.key).Nodup := by
    have hsub := (List.filter_sublist (p := fun x : Media × Nat => x.2 ∉ positions)
      (l := c.items.zipIdx)).map Prod.fst
    rw [List.zipIdx_map_fst] at hsub
    exact (Catalogue.nodup_of_load hload).sublist (hsub.map Media.key)
  obtain ⟨written, hwrite, heffect⟩ := effect_removeAt hload h
  obtain ⟨hcode, houtput, htree⟩ := Effect.mk.inj heffect
  refine ⟨hcode, houtput, fun m hm m' hm' hline => eq_of_key_eq hload hm hm' (key_eq_of_removedLine hline),
    ?_, Catalogue.recordsAt_append_recordsOutside_perm _ _,
    Catalogue.recordsAt_matchingIndices_outside c positions⟩
  rw [htree]
  exact Catalogue.load_fileText hnodup (FileTree.read_write hwrite)

/-! Requests -/

theorem effect_remove (h : Ready e r criteria path c) :
    (fulfil e (.remove r)).effect = (removeIn e r criteria path c).effect := by
  obtain ⟨config, hconfig, hpath⟩ := h.catalogue
  have hneeds : (Request.remove r).needsConfig = true := rfl
  rw [fulfil, if_pos hneeds, Report.effect_andThen hconfig, perform, remove,
    Report.effect_andThen (result_compileQuery.mpr h.query), Report.effect_andThen hpath,
    Report.effect_andThen (result_loadCatalogue.mpr h.loaded)]

/-- The matches that a removal goes by. -/
theorem tryAll_items (c : Catalogue) (criteria : Query.Criteria) (wanted : Option MediaType) :
    (tryAll criteria (·.1)
      (c.items.zipIdx.filter fun (m, _) => Catalogue.isOfType wanted m)).2 =
        c.matchingPairs criteria wanted := by
  rw [tryAll_snd]
  exact c.filter_filter_zipIdx criteria wanted

/-- A removal selects among the positions that match, and lists the records there if it cannot. -/
theorem effect_removeIn (e : Environment) (r : RemoveRequest) (criteria : Query.Criteria) (path : Path)
    (c : Catalogue) :
    (removeIn e r criteria path c).effect =
      if c.matchingIndices criteria r.mediaType = [] then ⟨.success, [noResults], e.tree⟩
      else (selected r.selection (c.matchingIndices criteria r.mediaType)).toOption.elim
        ⟨.failure, [line "The following matches were found:",
          line (numberedGrid (recordsAt c.items (c.matchingIndices criteria r.mediaType))).display], e.tree⟩
        fun positions => (removeAt e path c positions).effect := by
  have hitems := Catalogue.filterMap_getElem? (c.matchingIndices_sublist criteria r.mediaType)
  unfold removeIn
  simp only [tryAll_items, ← Catalogue.matchingIndices_eq, Outcome.effect_after, hitems]
  split_ifs with hnone hnil hnil
  · rfl
  · exact absurd (List.isEmpty_iff.mp hnone) hnil
  · exact absurd (List.isEmpty_iff.mpr hnil) hnone
  · cases selected r.selection (c.matchingIndices criteria r.mediaType) <;> rfl

theorem effect_removeIn_none (h : c.matchingIndices criteria r.mediaType = []) :
    (removeIn e r criteria path c).effect = ⟨.success, [noResults], e.tree⟩ := by
  rw [effect_removeIn, if_pos h]

theorem effect_removeIn_selected {positions : List Nat}
    (hne : c.matchingIndices criteria r.mediaType ≠ [])
    (h : selected r.selection (c.matchingIndices criteria r.mediaType) = .ok positions) :
    (removeIn e r criteria path c).effect = (removeAt e path c positions).effect := by
  rw [effect_removeIn, if_neg hne, h]
  rfl

theorem effect_removeIn_refused {reason : String}
    (hne : c.matchingIndices criteria r.mediaType ≠ [])
    (h : selected r.selection (c.matchingIndices criteria r.mediaType) = .error reason) :
    (removeIn e r criteria path c).effect =
      ⟨.failure, [line "The following matches were found:",
        line (numberedGrid (recordsAt c.items (c.matchingIndices criteria r.mediaType))).display],
        e.tree⟩ := by
  rw [effect_removeIn, if_neg hne, h]
  rfl

theorem removed_run {args : List String} {verbosity : Nat} {positions : List Nat}
    (hargs : readArguments args = .ok ⟨verbosity, .remove r⟩) (h : Ready e r criteria path c)
    (hne : c.matchingIndices criteria r.mediaType ≠ [])
    (hselects : Selects (c.matchingIndices criteria r.mediaType) r.selection positions) :
    Removed c path positions (run e args) := by
  have heffect : (removeAt e path c positions).effect = (run e args).effect := by
    rw [effect_run hargs, effect_remove h, effect_removeIn_selected hne (selected_eq_ok.mpr hselects)]
  have hsublist := hselects.sublist.trans (c.matchingIndices_sublist criteria r.mediaType)
  exact (removed_removeAt h.loaded hsublist).of_effect heffect

/-- The rows of a listing are numbered in order, each with a number of its own. -/
theorem numberedRows_filter {ms : List Media} {m : Media} {k : Nat} (h : ms[k]? = some m) :
    (numberedRows ms).filter (fun row => row.head? = some (toString (k + 1))) =
      [toString (k + 1) :: recordRow m] := by
  have hnumber : ((fun row => decide (row.head? = some (toString (k + 1)))) ∘
      fun x : Media × Nat => toString (x.2 + 1) :: recordRow x.1) = fun x => decide (x.2 = k) := by
    funext x
    simp [Nat.repr_inj]
  rw [numberedRows, List.filter_map, hnumber, Catalogue.zipIdx_filter_eq h]
  rfl

theorem effect_run_refused {args : List String} {verbosity : Nat}
    (hargs : readArguments args = .ok ⟨verbosity, .remove r⟩) (h : Ready e r criteria path c)
    (hne : c.matchingIndices criteria r.mediaType ≠ [])
    (hspares : Spares (c.matchingIndices criteria r.mediaType) r.selection) :
    (run e args).effect = ⟨.failure, [line "The following matches were found:",
      line (numberedGrid (recordsAt c.items (c.matchingIndices criteria r.mediaType))).display],
      e.tree⟩ := by
  rw [effect_run hargs, effect_remove h]
  cases hselected : selected r.selection (c.matchingIndices criteria r.mediaType) with
  | ok positions => exact absurd (selected_eq_ok.mp hselected) (not_selects hne hspares)
  | error reason => exact effect_removeIn_refused hne hselected

theorem listed_run {args : List String} {verbosity : Nat}
    (hargs : readArguments args = .ok ⟨verbosity, .remove r⟩) (h : Ready e r criteria path c)
    (hsingle : r.selection = .single)
    (hseveral : 1 < (c.matchingIndices criteria r.mediaType).length) :
    Listed e r path c (c.matchingIndices criteria r.mediaType) (run e args) := by
  have hne : c.matchingIndices criteria r.mediaType ≠ [] := by
    intro hnil
    rw [hnil] at hseveral
    exact absurd hseveral (by simp)
  obtain ⟨-, houtput, htree⟩ := Effect.mk.inj
    (effect_run_refused hargs h hne (.inr (.inr ⟨hsingle, hseveral⟩)))
  refine ⟨houtput, listsRecords_numberedGrid _, ?_⟩
  intro n hn hle
  have hpos := toNat_pos hn
  have hlt : n.toNat - 1 < (c.matchingIndices criteria r.mediaType).length := by omega
  have hi := List.getElem?_eq_getElem hlt
  obtain ⟨m, hm, hrow⟩ := Catalogue.getElem?_recordsAt_matchingIndices hi
  have hlisted := numberedRows_filter hrow
  rw [Nat.sub_add_cancel hpos] at hlisted
  have hnamed : ∀ m' ∈ c.items, recordRow m' = recordRow m → m' = m := fun m' hm' hcells =>
    eq_of_key_eq h.loaded hm' (List.mem_of_getElem? hm) (key_eq_of_recordRow hcells)
  refine ⟨_, m, hi, hm, hlisted, hnamed, ?_⟩
  intro args' verbosity' hargs'
  have hnext : Ready e { r with selection := .numbered n } criteria path c := ⟨h.1, h.2, h.3⟩
  have hremoved := removed_run hargs' hnext hne (.numbered hn hi)
  rw [htree]
  refine ⟨hremoved, ?_⟩
  rw [hremoved.told, Catalogue.recordsAt_singleton hm]
  rfl

/-- Removing takes the selected matches out of the catalogue file and nothing else. After all matches
are removed none is left. Where nothing is selected, the files stay as they are, and several matches are
listed under the numbers that select them. -/
theorem run_remove {args : List String} {verbosity : Nat}
    (hargs : readArguments args = .ok ⟨verbosity, .remove r⟩) (h : Ready e r criteria path c) :
    (¬ Spares (c.matchingIndices criteria r.mediaType) r.selection →
      ∃ positions, Selects (c.matchingIndices criteria r.mediaType) r.selection positions ∧
        Removed c path positions (run e args)) ∧
    (r.selection = .all → ∃ rest, Catalogue.load (run e args).tree path = .ok rest ∧
      rest.matchingIndices criteria r.mediaType = []) ∧
    (Spares (c.matchingIndices criteria r.mediaType) r.selection → (run e args).tree = e.tree) ∧
    (r.selection = .single → 1 < (c.matchingIndices criteria r.mediaType).length →
      Listed e r path c (c.matchingIndices criteria r.mediaType) (run e args)) := by
  have hspared : Spares (c.matchingIndices criteria r.mediaType) r.selection →
      (run e args).tree = e.tree := by
    intro hspares
    by_cases hne : c.matchingIndices criteria r.mediaType = []
    · have heffect : (run e args).effect = ⟨.success, [noResults], e.tree⟩ := by
        rw [effect_run hargs, effect_remove h, effect_removeIn_none hne]
      exact (Effect.mk.inj heffect).2.2
    · exact (Effect.mk.inj (effect_run_refused hargs h hne hspares)).2.2
  refine ⟨?_, ?_, hspared, listed_run hargs h⟩
  · intro hspares
    obtain ⟨positions, hselects⟩ := exists_selects hspares
    have hne : c.matchingIndices criteria r.mediaType ≠ [] := fun hnil => hspares (.inl hnil)
    exact ⟨positions, hselects, removed_run hargs h hne hselects⟩
  · intro hall
    by_cases hne : c.matchingIndices criteria r.mediaType = []
    · refine ⟨c, ?_, hne⟩
      rw [hspared (.inl hne)]
      exact h.loaded
    · have hselects : Selects (c.matchingIndices criteria r.mediaType) r.selection
          (c.matchingIndices criteria r.mediaType) := by
        rw [hall]
        exact .all
      have hremoved := removed_run hargs h hne hselects
      exact ⟨_, hremoved.left, c.matchingIndices_outside_matches criteria r.mediaType⟩

def holding (c : Catalogue) : Environment :=
  { tree := ⟨[([['c']], .file c.fileText)]⟩, cwd := ⟨['/']⟩, home := ⟨['/']⟩, logFilter := none }

def requestAt (query : String) (selection : Selection) : RemoveRequest :=
  { query, catalogue := some "/c", mediaType := none, selection }

theorem result_loadConfig_holding (c : Catalogue) : (loadConfig (holding c)).result = .ok Config.standard := by
  have hnone : Config.discover (holding c).tree (holding c).home (holding c).cwd = [] := rfl
  simp only [loadConfig, hnone]
  rfl

theorem ready_holding (hnodup : (c.items.map Media.key).Nodup) {query : String}
    (hquery : Query.Criteria.compile query = .ok criteria) (selection : Selection) :
    Ready (holding c) (requestAt query selection) criteria ⟨['/', 'c']⟩ c := by
  exact ⟨⟨Config.standard, result_loadConfig_holding c, by cbv⟩, hquery, Catalogue.load_fileText hnodup rfl⟩

def twoFilms : Catalogue :=
  ⟨[⟨"Alpha", 4, 1990, .film 90 "North" "Lee"⟩, ⟨"Beta", 3, 1991, .film 100 "North" "Lee"⟩]⟩

/-- Both films match and are listed, and the number of the second one removes it. -/
theorem run_remove_second_of_two :
    Listed (holding twoFilms) (requestAt "title contains a" .single) ⟨['/', 'c']⟩ twoFilms [0, 1]
        (run (holding twoFilms) ["remove", "title contains a", "-c", "/c"]) ∧
      Removed twoFilms ⟨['/', 'c']⟩ [1]
        (run (holding twoFilms) ["remove", "title contains a", "-c", "/c", "-i", "2"]) ∧
      (run (holding twoFilms) ["remove", "title contains a", "-c", "/c", "-i", "2"]).outputText =
        "Removed (film) Beta [1991], rated 3\n" := by
  have hargs : readArguments ["remove", "title contains a", "-c", "/c"] =
      .ok ⟨0, .remove (requestAt "title contains a" .single)⟩ := by cbv
  have hnumbered : readArguments ["remove", "title contains a", "-c", "/c", "-i", "2"] =
      .ok ⟨0, .remove (requestAt "title contains a" (.numbered 2))⟩ := by cbv
  have hquery : Query.Criteria.compile "title contains a" =
      .ok ⟨[⟨"title", .contains, "a"⟩], ⟨"(A)".toList, ['A'], .var 0⟩⟩ := by cbv
  have hfound : twoFilms.matchingIndices
      ⟨[⟨"title", .contains, "a"⟩], ⟨"(A)".toList, ['A'], .var 0⟩⟩ none = [0, 1] := by cbv
  have hready := ready_holding (c := twoFilms) (by decide) hquery
  obtain ⟨-, -, -, hlists⟩ := run_remove hargs (hready .single)
  obtain ⟨hremoves, -, -, -⟩ := run_remove hnumbered (hready (.numbered 2))
  simp only [requestAt, hfound] at hlists hremoves
  refine ⟨hlists trivial (by decide), ?_⟩
  have hnamed : ¬ Spares [0, 1] (.numbered 2) := by
    rintro (hnone | ⟨n, hn, hbad⟩ | ⟨hsingle, -⟩)
    · cases hnone
    · obtain rfl := Selection.numbered.inj hn
      exact absurd hbad (by decide)
    · cases hsingle
  obtain ⟨positions, hselects, hremoved⟩ := hremoves hnamed
  cases hselects with
  | numbered _ hi =>
    obtain rfl := Option.some.inj hi
    refine ⟨hremoved, ?_⟩
    rw [Outcome.outputText, hremoved.told]
    decide +kernel

end MediaCatalogue.CommandLine
