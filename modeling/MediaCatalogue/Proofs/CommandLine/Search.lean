import MediaCatalogue.Proofs.CommandLine.Remove

/-! What searching shows: the first of the records at the positions that matching finds, which are also
those that removing lists. As JSON, what is printed is again a catalogue, of just these records. -/

namespace MediaCatalogue

namespace Catalogue

/-- Filtering the records of a type finds those at the matching positions. -/
theorem filter_itemsByType (c : Catalogue) (criteria : Query.Criteria) (wanted : Option MediaType) :
    ((c.itemsByType wanted).filter fun m => criteria.accepts m.record) =
      recordsAt c.items (c.matchingIndices criteria wanted) := by
  rw [recordsAt_matchingIndices, itemsByType, List.filter_filter]
  apply List.filter_congr
  intro m _
  exact Bool.and_comm _ _

theorem search_eq (c : Catalogue) (criteria : Query.Criteria) :
    c.search criteria = recordsAt c.items (c.matchingIndices criteria none) := by
  rw [← filter_itemsByType]
  have hall : c.itemsByType none = c.items := List.filter_eq_self.mpr fun m _ => rfl
  rw [hall, search]

/-- A printed part of a catalogue is a catalogue. -/
theorem parse_printList {ms : List Media} (h : (ms.map Media.key).Nodup) :
    parse (CommandLine.line (printList ms)) = .ok ⟨ms⟩ := by
  have hlist : parseList (CommandLine.line (printList ms)) = .ok ms :=
    parseList_printList ms (by simp [Json.Blank, Json.isSpace])
  rw [parse_eq, hlist, Except.map, ofList_of_nodup h]

end Catalogue

namespace CommandLine

open Catalogue (recordsAt)

structure Searchable (e : Environment) (r : SearchRequest) (config : Config)
    (criteria : Query.Criteria) (c : Catalogue) : Prop where
  settings : (loadConfig e).result = .ok config
  query : Query.Criteria.compile r.query = .ok criteria
  catalogue : ∃ path, (catalogueReport e.cwd config r.catalogue).result = .ok path ∧
    Catalogue.load e.tree path = .ok c
  /-- What the query means is not asked for. -/
  search : r.explain = false

/-- The first of some positions, as many as a limit allows; zero allows all. -/
structure FirstOf (limit : UInt64) (found positions : List Nat) : Prop where
  front : positions <+: found
  all : limit = 0 → positions = found
  most : limit ≠ 0 → positions.length = min limit.toNat found.length

/-- Just some records are shown, and nothing else happens. -/
structure Shows (e : Environment) (r : SearchRequest) (config : Config) (shown : List Media)
    (o : Outcome) : Prop where
  code : o.code = .success
  tree : o.tree = e.tree
  json : r.json = true ∨ config.format = .json →
    o.outputText = Catalogue.printList shown ++ "\n" ∧ Catalogue.parse o.outputText = .ok ⟨shown⟩
  table : r.json = false → config.format = .table → shown ≠ [] →
    o.outputText = (mediaGrid shown).display ++ "\n" ∧ ShowsRecords shown (mediaGrid shown).display
  empty : r.json = false → config.format = .table → shown = [] →
    o.outputText = "No results found.\n"

theorem limited_map {α β : Type} (limit : UInt64) (f : α → β) (items : List α) :
    limited limit (items.map f) = (limited limit items).map f := by
  unfold limited
  split_ifs
  · rfl
  · rw [List.map_take]

theorem limited_sublist {α : Type} (limit : UInt64) (items : List α) :
    (limited limit items).Sublist items := by
  unfold limited
  split_ifs
  · exact List.Sublist.refl _
  · exact List.take_sublist _ _

theorem firstOf_limited (limit : UInt64) (found : List Nat) :
    FirstOf limit found (limited limit found) := by
  unfold limited
  split_ifs with hzero
  · exact ⟨List.prefix_rfl, fun _ => rfl, fun hlimit => absurd hzero hlimit⟩
  · exact ⟨List.take_prefix _ _, fun hlimit => absurd hlimit hzero, fun _ => List.length_take⟩

theorem FirstOf.eq_limited {limit : UInt64} {found positions : List Nat}
    (h : FirstOf limit found positions) : positions = limited limit found := by
  unfold limited
  split_ifs with hzero
  · exact h.all hzero
  · rw [List.prefix_iff_eq_take.mp h.front, h.most hzero, ← List.take_eq_take_min]

/-- To cut off the records found is to cut off their positions. -/
theorem limited_recordsAt (limit : UInt64) (c : Catalogue) (criteria : Query.Criteria)
    (wanted : Option MediaType) :
    limited limit (recordsAt c.items (c.matchingIndices criteria wanted)) =
      recordsAt c.items (limited limit (c.matchingIndices criteria wanted)) := by
  have hpairs : (limited limit (c.matchingPairs criteria wanted)).Sublist c.items.zipIdx :=
    (limited_sublist limit _).trans (c.matchingPairs_sublist criteria wanted)
  rw [← Catalogue.map_fst_matchingPairs, Catalogue.matchingIndices_eq, limited_map, limited_map,
    Catalogue.recordsAt_map_snd hpairs]

variable {e : Environment} {r : SearchRequest} {config : Config} {criteria : Query.Criteria}
  {c : Catalogue}

theorem effect_searchIn (e : Environment) (config : Config) (r : SearchRequest)
    (criteria : Query.Criteria) (c : Catalogue) :
    (searchIn e config r criteria c).effect =
      ⟨.success, [foundText (r.json || config.format == .json)
        (recordsAt c.items (limited (r.limit.getD config.limit)
          (c.matchingIndices criteria r.mediaType)))], e.tree⟩ := by
  have hfound : (tryAll criteria id (c.itemsByType r.mediaType)).2 =
      recordsAt c.items (c.matchingIndices criteria r.mediaType) := by
    rw [tryAll_snd]
    exact c.filter_itemsByType criteria r.mediaType
  simp only [searchIn, Outcome.effect_after, Outcome.effect_success, hfound, limited_recordsAt]

theorem effect_search (h : Searchable e r config criteria c) :
    (fulfil e (.search r)).effect = (searchIn e config r criteria c).effect := by
  obtain ⟨path, hpath, hload⟩ := h.catalogue
  have hneeds : (Request.search r).needsConfig = true := rfl
  have hexplain : ¬ r.explain = true := by simp [h.search]
  rw [fulfil, if_pos hneeds, Report.effect_andThen h.settings, perform, search,
    Report.effect_andThen (result_compileQuery.mpr h.query), if_neg hexplain,
    Report.effect_andThen hpath, Report.effect_andThen (result_loadCatalogue.mpr hload)]

theorem shows_of_effect {shown : List Media} {o : Outcome} (hnodup : (shown.map Media.key).Nodup)
    (h : o.effect = ⟨.success, [foundText (r.json || config.format == .json) shown], e.tree⟩) :
    Shows e r config shown o := by
  obtain ⟨hcode, houtput, htree⟩ := Effect.mk.inj h
  have htext : o.outputText = foundText (r.json || config.format == .json) shown := by
    rw [Outcome.outputText, houtput, String.join_cons, String.join_nil, String.append_empty]
  refine ⟨hcode, htree, ?_, ?_, ?_⟩
  · intro hjson
    have hlist : o.outputText = line (Catalogue.printList shown) := by
      rw [htext, foundText, if_pos (by simpa using hjson)]
    exact ⟨hlist, hlist ▸ Catalogue.parse_printList hnodup⟩
  · intro hjson htable hne
    refine ⟨?_, showsRecords_mediaGrid shown⟩
    rw [htext, hjson, htable, foundText]
    simp [hne, line]
  · intro hjson htable hempty
    rw [htext, hjson, htable, hempty]
    rfl

/-- A search shows the first of the records that match, up to the limit that is given or else that is
configured, in the order of the catalogue. The ways to select by type and query agree, and a removal by
the same type and query lists the same records, or takes them out if it is to take out all. -/
theorem run_search {args : List String} {verbosity : Nat}
    (hargs : readArguments args = .ok ⟨verbosity, .search r⟩) (h : Searchable e r config criteria c) :
    (∃ positions, FirstOf (r.limit.getD config.limit) (c.matchingIndices criteria r.mediaType) positions ∧
      (recordsAt c.items positions).Sublist c.items ∧
        Shows e r config (recordsAt c.items positions) (run e args)) ∧
    ((c.itemsByType r.mediaType).filter fun m => criteria.accepts m.record) =
      recordsAt c.items (c.matchingIndices criteria r.mediaType) ∧
    c.search criteria = recordsAt c.items (c.matchingIndices criteria none) ∧
    (∀ args' verbosity' selection, readArguments args' =
        .ok ⟨verbosity', .remove ⟨r.query, r.catalogue, r.mediaType, selection⟩⟩ →
      c.matchingIndices criteria r.mediaType ≠ [] →
        (Spares (c.matchingIndices criteria r.mediaType) selection →
          (run e args').output = ["The following matches were found:\n",
            (numberedGrid (recordsAt c.items (c.matchingIndices criteria r.mediaType))).display ++ "\n"] ∧
          ListsRecords (recordsAt c.items (c.matchingIndices criteria r.mediaType))
            (numberedGrid (recordsAt c.items (c.matchingIndices criteria r.mediaType))).display) ∧
        (selection = .all → (run e args').output =
          (recordsAt c.items (c.matchingIndices criteria r.mediaType)).map removedLine)) := by
  refine ⟨⟨limited (r.limit.getD config.limit) (c.matchingIndices criteria r.mediaType),
    firstOf_limited _ _, Catalogue.recordsAt_sublist _ _, ?_⟩,
    c.filter_itemsByType criteria r.mediaType, c.search_eq criteria, ?_⟩
  · obtain ⟨path, -, hload⟩ := h.catalogue
    have hnodup := (Catalogue.nodup_of_load hload).sublist ((Catalogue.recordsAt_sublist c.items
      (limited (r.limit.getD config.limit) (c.matchingIndices criteria r.mediaType))).map Media.key)
    refine shows_of_effect hnodup ?_
    rw [effect_run hargs, effect_search h, effect_searchIn]
  · intro args' verbosity' selection hargs' hne
    obtain ⟨path, hpath, hload⟩ := h.catalogue
    have hready : Ready e ⟨r.query, r.catalogue, r.mediaType, selection⟩ criteria path c :=
      ⟨⟨config, h.settings, hpath⟩, h.query, hload⟩
    refine ⟨fun hspares => ?_, ?_⟩
    · exact ⟨(Effect.mk.inj (effect_run_refused hargs' hready hne hspares)).2.1,
        listsRecords_numberedGrid _⟩
    · rintro rfl
      exact (removed_run hargs' hready hne .all).told

/-- Both films match, and the limit leaves the first of them, in either format. -/
theorem run_search_first_of_two :
    Catalogue.parse (run (holding twoFilms)
        ["search", "title contains a", "-c", "/c", "-n", "1", "--json"]).outputText =
      .ok ⟨recordsAt twoFilms.items [0]⟩ ∧
    ∃ text, (run (holding twoFilms) ["search", "title contains a", "-c", "/c", "-n", "1"]).outputText =
        text ++ "\n" ∧ ShowsRecords (recordsAt twoFilms.items [0]) text := by
  have hjson : readArguments ["search", "title contains a", "-c", "/c", "-n", "1", "--json"] =
      .ok ⟨0, .search ⟨"title contains a", some "/c", some 1, none, true, false⟩⟩ := by cbv
  have htable : readArguments ["search", "title contains a", "-c", "/c", "-n", "1"] =
      .ok ⟨0, .search ⟨"title contains a", some "/c", some 1, none, false, false⟩⟩ := by cbv
  have hquery : Query.Criteria.compile "title contains a" =
      .ok ⟨[⟨"title", .contains, "a"⟩], ⟨"(A)".toList, ['A'], .var 0⟩⟩ := by cbv
  have hfound : twoFilms.matchingIndices
      ⟨[⟨"title", .contains, "a"⟩], ⟨"(A)".toList, ['A'], .var 0⟩⟩ none = [0, 1] := by cbv
  have hready := ready_holding (c := twoFilms) (by decide) hquery .single
  obtain ⟨config, hconfig, hpath⟩ := hready.catalogue
  obtain rfl := Except.ok.inj ((result_loadConfig_holding twoFilms).symm.trans hconfig)
  have hsearchable : ∀ json, Searchable (holding twoFilms)
      ⟨"title contains a", some "/c", some 1, none, json, false⟩ Config.standard
      ⟨[⟨"title", .contains, "a"⟩], ⟨"(A)".toList, ['A'], .var 0⟩⟩ twoFilms := fun _ =>
    ⟨hconfig, hquery, ⟨_, hpath, hready.loaded⟩, rfl⟩
  have hlimited : limited (1 : UInt64) [0, 1] = [0] := by decide
  obtain ⟨⟨positions, hpositions, -, hshows⟩, -⟩ := run_search hjson (hsearchable true)
  obtain ⟨⟨positions', hpositions', -, hshows'⟩, -⟩ := run_search htable (hsearchable false)
  rw [hfound] at hpositions hpositions'
  obtain rfl := hpositions.eq_limited.trans hlimited
  obtain rfl := hpositions'.eq_limited.trans hlimited
  exact ⟨(hshows.json (.inl rfl)).2, _, hshows'.table rfl rfl (List.cons_ne_nil _ _)⟩

end CommandLine

end MediaCatalogue
