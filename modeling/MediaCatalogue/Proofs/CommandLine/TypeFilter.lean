import MediaCatalogue.Proofs.CommandLine.Search
import MediaCatalogue.Proofs.Query.Joined

/-! What a restriction to a type is worth: one more condition, on the field of the type, joined to the query
by a connective that both sides have to meet. -/

namespace MediaCatalogue

open Query

def narrowed (query : String) (t : MediaType) : String := query ++ " & type = " ++ inQuotes t.name

def typeCondition (t : MediaType) : Condition := ⟨"type", .equals, t.name⟩

theorem compile_typeCondition (t : MediaType) : Criteria.compile ("type = " ++ inQuotes t.name) =
    .ok ⟨[typeCondition t], ⟨"(A)".toList, ['A'], .var 0⟩⟩ := by
  cases t <;> cbv

theorem name_inj {s t : MediaType} : s.name = t.name ↔ s = t := by
  refine ⟨fun h => ?_, congrArg _⟩
  cases s <;> cases t <;> first | rfl | exact absurd h (by decide)

theorem test_typeCondition (t : MediaType) (m : Media) :
    (typeCondition t).test m.record = Catalogue.isOfType (some t) m := by
  have hliteral : m.record t.name = .unknown := by
    have hname : Field.ofName? t.name = none := by cases t <;> cbv
    simp only [Media.record, hname]
  have hfield : m.record "type" = .value m.mediaType.name := rfl
  have hequals : Operator.equals.test m.mediaType.name t.name = (m.mediaType.name == t.name) :=
    Verdict.toBool_ofBool _
  have hoption : Catalogue.isOfType (some t) m = (t == m.mediaType) := rfl
  simp only [typeCondition, Condition.test, resolve, hfield, hliteral, hequals, hoption]
  rw [Bool.eq_iff_iff, beq_iff_eq, beq_iff_eq, name_inj, eq_comm]

theorem spells_ampersand : Spells "&" .and := ⟨("&", .and), by simp [connectiveAliases], rfl, rfl⟩

theorem compile_narrowed {query : String} {criteria : Criteria}
    (h : Criteria.compile query = .ok criteria) (hfew : criteria.conditions.length < maxConditions)
    (hsettled : EndsSettled query) (t : MediaType) :
    ∃ narrow, Criteria.compile (narrowed query t) = .ok narrow ∧ ∀ m : Media,
      narrow.accepts m.record = (Catalogue.isOfType (some t) m && criteria.accepts m.record) := by
  obtain ⟨narrow, hcompile, hjoined⟩ :=
    compile_joined h hfew hsettled spells_ampersand (compile_typeCondition t) rfl
  have htext : narrowed query t = query ++ " " ++ "&" ++ " " ++ ("type = " ++ inQuotes t.name) := by
    simp only [narrowed, String.append_assoc]
    rfl
  refine ⟨narrow, htext ▸ hcompile, fun m => ?_⟩
  have htype : Criteria.accepts ⟨[typeCondition t], ⟨"(A)".toList, ['A'], .var 0⟩⟩ m.record =
      Catalogue.isOfType (some t) m := test_typeCondition t m
  rw [hjoined.accepts, htype, Bool.and_comm]
  rfl

namespace Catalogue

/-- A query that asks for the type itself matches what a search among the records of the type does. -/
theorem matchingIndices_narrow {narrow criteria : Criteria} {t : MediaType}
    (h : ∀ m : Media, narrow.accepts m.record = (isOfType (some t) m && criteria.accepts m.record))
    (c : Catalogue) : c.matchingIndices narrow none = c.matchingIndices criteria (some t) := by
  simp only [matchingIndices, List.filter_filter, h]
  congr 2
  funext entry
  simp [isOfType, Bool.and_comm]

theorem search_narrow {narrow criteria : Criteria} {t : MediaType}
    (h : ∀ m : Media, narrow.accepts m.record = (isOfType (some t) m && criteria.accepts m.record))
    (c : Catalogue) :
    c.search narrow = (c.itemsByType (some t)).filter fun m => criteria.accepts m.record := by
  simp only [search, itemsByType, List.filter_filter, h, Bool.and_comm]

end Catalogue

namespace CommandLine

theorem Report.effect_andThen_congr {α : Type} (r : Report α) (tree : FileTree) {f g : α → Outcome}
    (h : ∀ a, (f a).effect = (g a).effect) :
    (r.andThen tree f).effect = (r.andThen tree g).effect := by
  cases hr : r.result with
  | ok a => rw [effect_andThen hr, effect_andThen hr, h]
  | error x => rw [effect_andThen_error hr, effect_andThen_error hr]

/-- A search for the narrowed query does what the search among the records of the type does, also if there
is no catalogue to search. -/
theorem effect_search_narrowed {e : Environment} {r : SearchRequest} {criteria narrow : Criteria}
    {t : MediaType} (hquery : Criteria.compile r.query = .ok criteria)
    (hnarrow : Criteria.compile (narrowed r.query t) = .ok narrow)
    (haccepts : ∀ m : Media,
      narrow.accepts m.record = (Catalogue.isOfType (some t) m && criteria.accepts m.record))
    (htype : r.mediaType = some t) (hexplain : r.explain = false) :
    (fulfil e (.search { r with query := narrowed r.query t, mediaType := none })).effect =
      (fulfil e (.search r)).effect := by
  have hno : ¬ r.explain = true := by simp [hexplain]
  have hneeds : ∀ r, (Request.search r).needsConfig = true := fun _ => rfl
  rw [fulfil, fulfil, if_pos (hneeds _), if_pos (hneeds _)]
  refine Report.effect_andThen_congr _ _ fun config => ?_
  simp only [perform, search, if_neg hno]
  rw [Report.effect_andThen (result_compileQuery.mpr hnarrow),
    Report.effect_andThen (result_compileQuery.mpr hquery)]
  refine Report.effect_andThen_congr _ _ fun path => Report.effect_andThen_congr _ _ fun c => ?_
  rw [effect_searchIn, effect_searchIn, htype, Catalogue.matchingIndices_narrow haccepts]

/-- To a query that has room for one more condition and does not end inside quotes or behind a backslash,
any query of one condition can be joined by any connective. The text compiles to the conditions of both, and
comes to the connective of what both come to. So the restriction of a search to a type can be written into
its query: what is found in any catalogue is the same, and so is all that a run prints. -/
theorem joined_queries_compose {q : String} {first : Criteria} (hq : Criteria.compile q = .ok first)
    (hfew : first.conditions.length < maxConditions) (hsettled : EndsSettled q) :
    (∀ token k d last, Spells token k → Criteria.compile d = .ok last → last.conditions.length = 1 →
      ∃ joined, Criteria.compile (q ++ " " ++ token ++ " " ++ d) = .ok joined ∧
        Joined k first last joined) ∧
    ∀ t : MediaType,
      (∃ narrow, Criteria.compile (narrowed q t) = .ok narrow ∧ ∀ c : Catalogue,
        c.matchingIndices narrow none = c.matchingIndices first (some t) ∧
        c.search narrow = (c.itemsByType (some t)).filter fun m => first.accepts m.record) ∧
      ∀ e args args' verbosity verbosity' r,
        readArguments args = .ok ⟨verbosity, .search r⟩ → r.query = q → r.mediaType = some t →
        r.explain = false → readArguments args' =
          .ok ⟨verbosity', .search { r with query := narrowed q t, mediaType := none }⟩ →
        (run e args').effect = (run e args).effect := by
  refine ⟨fun token k d last hk hd hsingle => compile_joined hq hfew hsettled hk hd hsingle, fun t => ?_⟩
  obtain ⟨narrow, hnarrow, haccepts⟩ := compile_narrowed hq hfew hsettled t
  refine ⟨⟨narrow, hnarrow, fun c =>
    ⟨Catalogue.matchingIndices_narrow haccepts c, Catalogue.search_narrow haccepts c⟩⟩, ?_⟩
  rintro e args args' verbosity verbosity' r hargs rfl htype hexplain hargs'
  rw [effect_run hargs, effect_run hargs', effect_search_narrowed hq hnarrow haccepts htype hexplain]

/-- A query that ends in quotes which are closed, joined in capital letters and restricted to films. -/
theorem joined_queries_compose_films :
    ∃ first last joined, Criteria.compile "title contains \"a\"" = .ok first ∧
      EndsSettled "title contains \"a\"" ∧ Criteria.compile "rating !> 3" = .ok last ∧
      Criteria.compile "title contains \"a\" IMPLIES rating !> 3" = .ok joined ∧
      Joined .implies first last joined ∧
      (run (holding twoFilms)
          ["search", "title contains \"a\" & type = \"film\"", "-c", "/c", "--json"]).effect =
        (run (holding twoFilms)
          ["search", "title contains \"a\"", "-t", "film", "-c", "/c", "--json"]).effect := by
  obtain ⟨first, hq, hfew⟩ : ∃ first, Criteria.compile "title contains \"a\"" = .ok first ∧
      first.conditions.length < maxConditions :=
    ⟨⟨[⟨"title", .contains, "a"⟩], ⟨"(A)".toList, ['A'], .var 0⟩⟩, by cbv, by decide⟩
  obtain ⟨last, hd, hsingle⟩ : ∃ last, Criteria.compile "rating !> 3" = .ok last ∧
      last.conditions.length = 1 :=
    ⟨⟨[⟨"rating", .greater, "3"⟩], ⟨"(¬A)".toList, ['A'], .not (.var 0)⟩⟩, by cbv, rfl⟩
  have hrun : (Lexing.gap.run "title contains \"a\"".toList).2 = .word ['a'] false false := by cbv
  have hsettled : EndsSettled "title contains \"a\"" := by
    rw [EndsSettled, hrun]
    exact ⟨rfl, rfl⟩
  have hk : Spells "IMPLIES" .implies :=
    ⟨("implies", .implies), by simp [connectiveAliases], by decide +kernel, rfl⟩
  have hargs : readArguments ["search", "title contains \"a\"", "-t", "film", "-c", "/c", "--json"] =
      .ok ⟨0, .search ⟨"title contains \"a\"", some "/c", none, some .film, true, false⟩⟩ := rfl
  have hargs' : readArguments
        ["search", "title contains \"a\" & type = \"film\"", "-c", "/c", "--json"] =
      .ok ⟨0, .search ⟨narrowed "title contains \"a\"" .film, some "/c", none, none, true, false⟩⟩ := rfl
  have htext : "title contains \"a\"" ++ " " ++ "IMPLIES" ++ " " ++ "rating !> 3" =
      "title contains \"a\" IMPLIES rating !> 3" := rfl
  obtain ⟨hjoin, hnarrow⟩ :=
    @joined_queries_compose "title contains \"a\"" first hq hfew hsettled
  obtain ⟨joined, hcompile, hjoined⟩ := hjoin "IMPLIES" .implies "rating !> 3" _ hk hd hsingle
  rw [htext] at hcompile
  exact ⟨first, last, joined, hq, hsettled, hd, hcompile, hjoined,
    (hnarrow .film).2 _ _ _ _ _ _ hargs rfl rfl rfl hargs'⟩

end CommandLine

end MediaCatalogue
