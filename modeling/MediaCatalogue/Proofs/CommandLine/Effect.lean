import MediaCatalogue.CommandLine.Run
import MediaCatalogue.Proofs.Catalogue.Storage
import MediaCatalogue.Proofs.Query.Slot

/-! What a run does apart from what it tells about its course. -/

namespace MediaCatalogue.CommandLine

structure Effect where
  code : ExitCode
  output : List String
  tree : FileTree

def Effect.below (output : List String) (o : Effect) : Effect := { o with output := output ++ o.output }

namespace Outcome

def effect (o : Outcome) : Effect := ⟨o.code, o.output, o.tree⟩

@[simp] theorem effect_success (tree : FileTree) (output : List String) :
    (success tree output).effect = ⟨.success, output, tree⟩ := rfl

@[simp] theorem effect_after (messages : List Log.Message) (o : Outcome) :
    (o.after messages).effect = o.effect := rfl

@[simp] theorem effect_below (output : List String) (o : Outcome) :
    (o.below output).effect = o.effect.below output := rfl

end Outcome

theorem Report.effect_andThen {α : Type} {r : Report α} {a : α} (h : r.result = .ok a)
    (tree : FileTree) (next : α → Outcome) : (r.andThen tree next).effect = (next a).effect := by
  unfold Report.andThen
  rw [h]
  rfl

theorem Report.effect_andThen_error {α : Type} {r : Report α} {x : Explained}
    (h : r.result = .error x) (tree : FileTree) (next : α → Outcome) :
    (r.andThen tree next).effect = ⟨.failure, [], tree⟩ := by
  unfold Report.andThen
  rw [h]
  rfl

theorem effect_run {e : Environment} {args : List String} {invocation : Invocation}
    (h : readArguments args = .ok invocation) :
    (run e args).effect = (fulfil e invocation.request).effect := by
  unfold run
  rw [h]
  rfl

theorem result_compileQuery {query : String} {c : Query.Criteria} :
    (compileQuery query).result = .ok c ↔ Query.Criteria.compile query = .ok c := by
  unfold compileQuery
  cases Query.Criteria.compile query <;> simp

theorem result_loadCatalogue {tree : FileTree} {path : Path} {c : Catalogue} :
    (loadCatalogue tree path).result = .ok c ↔ Catalogue.load tree path = .ok c := by
  rw [Catalogue.load_eq, loadCatalogue]
  cases Catalogue.loadList tree path <;> simp [Except.map]

/-- The candidates that are found are those that meet the criteria. -/
theorem tryAll_snd {α : Type} (c : Query.Criteria) (mediaOf : α → Media) (candidates : List α) :
    (tryAll c mediaOf candidates).2 = candidates.filter fun a => c.accepts (mediaOf a).record := by
  have htrials := (Query.Criteria.trialsSlot_faithful Pattern.faithful_none c
    (candidates.map fun a => (mediaOf a).record)).1
  have hzip : ∀ f : α → Query.Criteria.Trial,
      candidates.zip (candidates.map f) = candidates.map fun a => (a, f a) :=
    fun _ => List.map_prod_left_eq_zip.symm
  simp only [tryAll, htrials, List.map_map, hzip, List.filter_map]
  exact List.map_id _

end MediaCatalogue.CommandLine
