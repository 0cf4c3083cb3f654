import Mathlib
import MediaCatalogue.Proofs.CommandLine.Effect
import MediaCatalogue.Proofs.Formula.TruthTable
import MediaCatalogue.Proofs.Json.RoundTrip
import MediaCatalogue.Proofs.Query.Faults
import MediaCatalogue.Proofs.Query.Spelling
import MediaCatalogue.Proofs.Text.Lines

/-! The formula that explains a query. Its text reads back as the same formula, so that its truth table is that
of the query: each row says what the query comes to when its conditions have the values of the row. -/

namespace MediaCatalogue

open Formula

/-! The tree of a query is shown without loss -/

namespace Query

theorem cancel_signed_var (n i : ℕ) : (signed n (.var i)).cancel = signed n (.var i) := by
  unfold signed
  split_ifs <;> rfl

theorem encloseDepth_signed_var (n i : ℕ) :
    (signed n (.var i)).encloseDepth (signed n (.var i)).infixDepth = 0 := by
  unfold signed
  split_ifs <;> rfl

/-- No negation of a query's tree stands on another. -/
theorem cancel_links (cs : List Clause) (i : ℕ) (k : Option Connective) {e : Expr} (h : e.cancel = e) :
    ((clauseLinks i k cs).foldl Chain.join e).cancel = (clauseLinks i k cs).foldl Chain.join e := by
  induction cs generalizing i k e with
  | nil => cases k <;> exact h
  | cons c cs ih =>
    cases k with
    | none => exact h
    | some k =>
      refine ih (i + 1) c.next ?_
      rw [Chain.join, Expr.cancel, h, cancel_signed_var]

/-- Each further condition puts what is in front of it one level deeper, and no more. -/
theorem infixDepth_links (cs : List Clause) (i : ℕ) (k : Option Connective) (e : Expr) :
    ((clauseLinks i k cs).foldl Chain.join e).infixDepth ≤ e.infixDepth + cs.length := by
  induction cs generalizing i k e with
  | nil => cases k <;> exact Nat.le_add_right ..
  | cons c cs ih =>
    cases k with
    | none => exact Nat.le_add_right ..
    | some k =>
      have hjoin : (Chain.join e ⟨0, k, signsOf c, .var i⟩).infixDepth ≤ e.infixDepth + 1 := by
        rw [Chain.join, Expr.infixDepth, encloseDepth_signed_var, Nat.max_zero]
        unfold Expr.encloseDepth
        split_ifs <;> omega
      have hrest := ih (i + 1) c.next (Chain.join e ⟨0, k, signsOf c, .var i⟩)
      rw [List.length_cons]
      exact hrest.trans (by omega)

theorem cancel_clauseChain (c : Clause) (cs : List Clause) :
    (clauseChain c cs).expr.cancel = (clauseChain c cs).expr :=
  cancel_links cs 1 c.next (cancel_signed_var (signsOf c) 0)

theorem infixDepth_clauseChain (c : Clause) (cs : List Clause) :
    (clauseChain c cs).expr.infixDepth ≤ cs.length := by
  have hfirst : (signed (signsOf c) (.var 0)).infixDepth = 0 := by
    unfold signed
    split_ifs <;> rfl
  have hdepth := infixDepth_links cs 1 c.next (signed (signsOf c) (.var 0))
  rwa [hfirst, Nat.zero_add] at hdepth

theorem parse_display_generatedFormula {tokens : List String} {c : Clause} {cs : List Clause}
    (h : Written tokens c cs) (few : (c :: cs).length ≤ maxConditions) :
    ∃ g, Formula.parse (generatedFormula c cs).display = .ok g ∧
      g.letters = (generatedFormula c cs).letters ∧ g.root = (generatedFormula c cs).root := by
  have hparse := parse_formulaText h few
  have hdepth : (generatedFormula c cs).root.infixDepth ≤ maxDepth := by
    have hlinks := infixDepth_clauseChain c cs
    have hmost : maxConditions ≤ maxDepth := by decide
    rw [List.length_cons] at few
    exact hlinks.trans (by omega)
  obtain ⟨hletters, hroot⟩ := readBack_root hparse
  exact ⟨_, (parse_display hparse).mpr ⟨hdepth, rfl⟩, hletters, hroot.trans (cancel_clauseChain c cs)⟩

/-! The value of a query under given values of its conditions -/

def combineRest (acc : Bool) : List Bool → List String → Option Bool
  | [], [] => some acc
  | b :: bits, token :: _ :: operator :: _ :: rest => do
    let k ← connectiveOfToken? token
    combineRest (combined acc (carriesSign operator ^^ b) k) bits rest
  | _, _ => none

/-- The value of the tokens of a query when its conditions have the values `bits`, from left to right and without
precedence. The sign of an operator complements the value of its condition. -/
def combination : List Bool → List String → Option Bool
  | b :: bits, _ :: operator :: _ :: rest => combineRest (carriesSign operator ^^ b) bits rest
  | _, _ => none

theorem negated_eq {left operator right : String} {negated : Bool} {condition : Condition}
    (h : Clause.conditionOf left operator right = .ok (negated, condition)) :
    negated = carriesSign operator := by
  obtain ⟨-, -, hnegated, -⟩ := conditionOf_eq_ok h
  exact hnegated

theorem combineRest_tail {tokens : List String} {k : Option Connective} {cs : List Clause}
    (h : Tail tokens k cs) (acc v : Bool) (bits : List Bool) :
    combineRest acc bits tokens = some v ↔ bits.length = cs.length ∧ combine acc k cs bits = v := by
  induction h generalizing acc bits with
  | nil => cases bits <;> simp [combineRest, combine]
  | cons joint head _ ih =>
    cases bits with
    | nil => simp [combineRest]
    | cons b bits =>
      simp only [combineRest, joint, Option.bind_eq_bind, Option.bind_some, ih, combine, ← negated_eq head,
        combined_eq_apply, List.length_cons, Nat.add_right_cancel_iff]

theorem combination_written {tokens : List String} {c : Clause} {cs : List Clause} (h : Written tokens c cs)
    (v : Bool) (bits : List Bool) :
    combination bits tokens = some v ↔
      bits.length = (c :: cs).length ∧ (clauseChain c cs).expr.eval bits = v := by
  cases h with
  | mk head tail =>
    cases bits with
    | nil => simp [combination]
    | cons b bits =>
      rw [combination, combineRest_tail tail, ← negated_eq head, List.length_cons, List.length_cons,
        Nat.add_right_cancel_iff]
      exact and_congr_right fun hlength => by rw [eval_clauseChain_bits _ b hlength]

end Query

/-! Queries and tables -/

namespace CommandLine

open Query

/-- The lines that explain a query by the formula `g`, with a letter in front of each condition. -/
def explainedLines (query : String) (c : Criteria) (g : Formula) : List String :=
  ["Query:", "   " ++ query, "", "Formula:", "   " ++ c.formula.display, "", "Conditions:"] ++
    List.zipWith (fun letter condition => "   " ++ letter.toString ++ "  " ++ condition.display)
      g.letters c.conditions ++
    ["", "Expression tree:"] ++ (g.root.outlineLines 0).map ("   " ++ ·)

/-- What explains a query in JSON, with a letter in each condition. -/
def explainedJson (query : String) (c : Criteria) (g : Formula) : Json :=
  .object [("query", .string query), ("formula", .string c.formula.display),
    ("conditions", .array (List.zipWith (fun letter condition => .object [("variable", .string letter.toString),
      ("left", .string condition.left), ("operator", .string condition.operator.token),
      ("right", .string condition.right)] none) g.letters c.conditions) none)] none

/-- A run explains a query and does nothing else. What it shows in JSON can be read back. -/
structure ShowsExplanation (query : String) (c : Criteria) (g : Formula) (json : Bool) (before : FileTree)
    (o : Outcome) : Prop where
  code : o.code = .success
  tree : o.tree = before
  lines : json = false → o.outputText = String.join ((explainedLines query c g).map (· ++ "\n"))
  json : json = true → Json.decode .ok o.outputText = .ok (explainedJson query c g)

/-- The formula `g` is that of the criteria: its table holds the combination of the conditions of the query under
all their values, the columns are the letters that stand beside the conditions, and it is this table that is
printed for the formula shown. A search that is to explain the query shows the text that `g` is read from, and
the conditions beside the letters of `g`. -/
structure Explains (query : String) (c : Criteria) (g : Formula) : Prop where
  letters : g.letters = c.formula.letters
  root : g.root = c.formula.root
  table : g.Tabulated
  rows : ∀ row, row ∈ g.tableRows ↔ combination row.inputs (tokenize query) = some row.output
  verdicts : ∀ record, ⟨c.bits record, c.accepts record⟩ ∈ g.tableRows
  columns : (lettered c).map (·.1) = g.letters
  conditions : (lettered c).map (·.2) = c.conditions
  printed : ∀ e, (fulfil e (.table c.formula.display)).effect = ⟨.success, [g.tableText], e.tree⟩
  tabulated : ∀ e args verbosity, readArguments args = .ok ⟨verbosity, .table c.formula.display⟩ →
    (run e args).effect = ⟨.success, [g.tableText], e.tree⟩
  aligned : g.letters.length = c.conditions.length
  legible : ∀ condition ∈ c.conditions,
    tokenize condition.display = [condition.left, condition.operator.token, condition.right]
  shown : ∀ e config args verbosity r, (loadConfig e).result = .ok config →
    readArguments args = .ok ⟨verbosity, .search r⟩ → r.query = query → r.explain = true →
      ShowsExplanation query c g r.json e.tree (run e args)

theorem effect_table {text : String} {f : Formula} (h : Formula.parse text = .ok f) (e : Environment) :
    (fulfil e (.table text)).effect = ⟨.success, [f.tableText], e.tree⟩ := by
  have htable : fulfil e (.table text) = table e text := rfl
  rw [htable, table, h]
  rfl

theorem lettered_columns {c : Criteria} (h : c.formula.letters.length = c.conditions.length) :
    (lettered c).map (·.1) = c.formula.letters ∧ (lettered c).map (·.2) = c.conditions :=
  ⟨List.map_fst_zip h.le, List.map_snd_zip h.ge⟩

/-! What is shown -/

theorem lettered_map {α : Type} (c : Criteria) (f : Char → Condition → α) :
    (lettered c).map (fun entry => f entry.1 entry.2) = List.zipWith f c.formula.letters c.conditions := by
  rw [lettered, List.zip, List.map_zipWith]

/-- A line of an outline is an indented label. -/
theorem exists_label_of_mem_outlineLines {e : Expr} {depth : ℕ} {s : String} (h : s ∈ e.outlineLines depth) :
    ∃ n label, s.toList = List.replicate n ' ' ++ label ∧ label ≠ [] ∧ '\n' ∉ label := by
  have hindent : ∀ (n : ℕ) (label : String), ("".pushn ' ' n ++ label).toList =
      List.replicate n ' ' ++ label.toList := by
    intro n label
    rw [String.toList_append, toList_pushn, String.toList_empty, List.nil_append]
  induction e generalizing depth with
  | var i =>
    obtain rfl := List.mem_singleton.mp h
    have hlabel : ("Var(" ++ i.repr ++ ")").toList = 'V' :: 'a' :: 'r' :: '(' :: (Nat.toDigits 10 i ++ [')']) := by
      simp
    have hdigits : '\n' ∉ Nat.toDigits 10 i := fun hmem =>
      absurd (Json.isDigit_of_mem_toDigits _ hmem) (by decide)
    exact ⟨2 * depth, _, (hindent _ _).trans (congrArg _ hlabel), List.cons_ne_nil _ _, by simp [hdigits]⟩
  | not e ih =>
    rcases List.mem_cons.mp h with rfl | h
    · exact ⟨2 * depth, _, hindent _ _, by decide, by decide⟩
    · exact ih h
  | binary k l r ihl ihr =>
    rw [Expr.outlineLines, List.mem_cons, List.mem_append] at h
    rcases h with rfl | h | h
    · refine ⟨2 * depth, _, hindent _ _, ?_⟩
      cases k <;> decide
    · exact ihl h
    · exact ihr h

theorem linesOf_outline (e : Expr) : linesOf e.outline = e.outlineLines 0 := by
  have hlabel : ∀ s ∈ e.outlineLines 0, ∃ n label, s.toList = List.replicate n ' ' ++ label ∧ label ≠ [] ∧
      '\n' ∉ label := fun _ => exists_label_of_mem_outlineLines
  have htext : e.outline.toList = ((e.outlineLines 0).map String.toList).flatMap (· ++ ['\n']) ++ [] := by
    simp [Expr.outline, String.toList_join, List.flatMap_map]
  have hlines : e.outline.toList.splitOn '\n' = (e.outlineLines 0).map String.toList ++ [[]] := by
    rw [htext]
    refine splitOn_flatMap ?_ List.not_mem_nil
    intro line hline
    obtain ⟨s, hs, rfl⟩ := List.mem_map.mp hline
    obtain ⟨n, label, hs', -, hnewline⟩ := hlabel s hs
    simp [hs', hnewline, List.mem_replicate]
  have hfull : (e.outlineLines 0).filter (· != "") = e.outlineLines 0 := by
    rw [List.filter_eq_self]
    intro s hs
    obtain ⟨n, label, hs', hne, -⟩ := hlabel s hs
    rw [bne_iff_ne]
    rintro rfl
    exact hne (List.append_eq_nil_iff.mp hs'.symm).2
  rw [linesOf, hlines]
  simp [hfull]

theorem explanationLines_eq {c : Criteria} {g : Formula} (hletters : g.letters = c.formula.letters)
    (hroot : g.root = c.formula.root) (query : String) : explanationLines query c = explainedLines query c g := by
  rw [explainedLines, hletters, hroot, ← lettered_map, ← linesOf_outline]
  rfl

theorem explanationJson_eq {c : Criteria} {g : Formula} (hletters : g.letters = c.formula.letters)
    (query : String) : explanationJson query c = explainedJson query c g := by
  rw [explainedJson, hletters, ← lettered_map]
  rfl

theorem whole_explanationJson (query : String) (c : Criteria) : (explanationJson query c).Whole := by
  have hconditions : ∀ entries : List (Char × Condition), Json.WholeItems (entries.map conditionJson) := by
    intro entries
    induction entries with
    | nil => exact trivial
    | cons entry entries ih => exact ⟨by simp [conditionJson, Json.Whole, Json.WholeEntries], ih⟩
  simp [explanationJson, Json.Whole, Json.WholeEntries, hconditions]

theorem levels_explanationJson (query : String) (c : Criteria) :
    (explanationJson query c).levels ≤ Json.maxDepth := by
  have hconditions : ∀ entries : List (Char × Condition),
      Json.levelsItems (entries.map conditionJson) ≤ 1 := by
    intro entries
    induction entries with
    | nil => exact Nat.zero_le _
    | cons entry entries ih => exact Nat.max_le.mpr ⟨le_rfl, ih⟩
  have hlettered := hconditions (lettered c)
  have hmost : 3 ≤ Json.maxDepth := by decide
  simp only [explanationJson, Json.levels, Json.levelsEntries]
  omega

theorem decode_explanation (query : String) (c : Criteria) :
    Json.decode .ok (line ((explanationJson query c).print Json.pretty)) = .ok (explanationJson query c) :=
  Json.decode_print .ok Json.spaced_pretty (whole_explanationJson query c) (levels_explanationJson query c)
    (by simp [Json.Blank, Json.isSpace])

theorem showsExplanation_run {e : Environment} {config : Config} {args : List String} {verbosity : ℕ}
    {r : SearchRequest} {c : Criteria} {g : Formula} (hconfig : (loadConfig e).result = .ok config)
    (hargs : readArguments args = .ok ⟨verbosity, .search r⟩) (hexplain : r.explain = true)
    (hquery : Criteria.compile r.query = .ok c) (hletters : g.letters = c.formula.letters)
    (hroot : g.root = c.formula.root) : ShowsExplanation r.query c g r.json e.tree (run e args) := by
  have heffect : (run e args).effect = ⟨.success, explanationText r.json r.query c, e.tree⟩ := by
    have hneeds : (Request.search r).needsConfig = true := rfl
    rw [effect_run hargs, fulfil, if_pos hneeds, Report.effect_andThen hconfig, perform, search,
      Report.effect_andThen (result_compileQuery.mpr hquery), if_pos hexplain, Outcome.effect_success]
  obtain ⟨hcode, houtput, htree⟩ := Effect.mk.inj heffect
  have htext : (run e args).outputText = String.join (explanationText r.json r.query c) :=
    congrArg String.join houtput
  refine ⟨hcode, htree, fun hjson => ?_, fun hjson => ?_⟩
  · rw [htext, hjson, ← explanationLines_eq hletters hroot]
    rfl
  · rw [htext, hjson, ← explanationJson_eq hletters, ← decode_explanation]
    simp [explanationText]

/-- The formula shown for a query reads back with its letters and its tree. Its truth table is that of the query,
and the letters beside the conditions head its columns in order. -/
theorem explanations_tabulate (query : String) (c : Criteria) (h : Criteria.compile query = .ok c) :
    ∃ g, Formula.parse c.formula.display = .ok g ∧ Explains query c g := by
  have hdescribes : Describes (tokenize query) c := by
    rcases ofTokens_cases (tokenize query) with ⟨c', hc', -, hdescribes⟩ | ⟨fault, hfault, -⟩
    · obtain rfl := Except.ok.inj (hc'.symm.trans (compile_eq_ok.mp h))
      exact hdescribes
    · cases hfault.symm.trans (compile_eq_ok.mp h)
  obtain ⟨first, rest, hw, few, rfl⟩ := ofTokens_eq_ok_iff.mp (compile_eq_ok.mp h)
  obtain ⟨g, hg, hletters, hroot⟩ := parse_display_generatedFormula hw few
  obtain ⟨hcolumns, hconditions⟩ := lettered_columns hdescribes.aligned
  have htable := tabulated hg
  have hlength : g.letters.length = (first :: rest).length := by
    rw [hletters, hdescribes.aligned, List.length_map]
  have hrow : ∀ row, row ∈ g.tableRows ↔
      row.inputs.length = (first :: rest).length ∧ (clauseChain first rest).expr.eval row.inputs = row.output := by
    intro row
    rw [mem_tableRows_iff htable.assignments, hlength, hroot]
    rfl
  refine ⟨g, hg, hletters, hroot, htable, fun row => ?_, fun record => ?_, hletters ▸ hcolumns, hconditions,
    effect_table hg, fun e _ _ hargs => (effect_run hargs).trans (effect_table hg e),
    hletters ▸ hdescribes.aligned, fun condition _ => tokenize_display condition, ?_⟩
  · rw [hrow, combination_written hw]
  · rw [hrow]
    exact ⟨by simp [Criteria.bits], rfl⟩
  · rintro e config args verbosity r hconfig hargs rfl hexplain
    exact showsExplanation_run hconfig hargs hexplain h hletters hroot

def nowhere : Environment := { tree := ⟨[]⟩, cwd := ⟨['/']⟩, home := ⟨['/']⟩, logFilter := none }

/-- The first two of three conditions are shown in parentheses, and a negated one with its sign. -/
theorem explanations_tabulate_films :
    ∃ c g, Criteria.compile "type = film or rating !> 3 and title find Heat" = .ok c ∧
      c.formula.display = "(A v ¬B) ^ C" ∧ Formula.parse "(A v ¬B) ^ C" = .ok g ∧
      Explains "type = film or rating !> 3 and title find Heat" c g ∧
      (run nowhere ["search", "type = film or rating !> 3 and title find Heat", "--explain"]).outputText =
        "Query:\n   type = film or rating !> 3 and title find Heat\n\nFormula:\n   (A v ¬B) ^ C\n\n" ++
        "Conditions:\n   A  type = film\n   B  rating > 3\n   C  title find Heat\n\n" ++
        "Expression tree:\n   And\n     Or\n       Var(0)\n       Not\n         Var(1)\n     Var(2)\n" := by
  have hc : Criteria.compile "type = film or rating !> 3 and title find Heat" =
      .ok ⟨[⟨"type", .equals, "film"⟩, ⟨"rating", .greater, "3"⟩, ⟨"title", .find, "Heat"⟩],
        ⟨"(Av¬B^C)".toList, ['A', 'B', 'C'],
          .binary .and (.binary .or (.var 0) (.not (.var 1))) (.var 2)⟩⟩ := by cbv
  have hargs : readArguments ["search", "type = film or rating !> 3 and title find Heat", "--explain"] =
      .ok ⟨0, .search ⟨"type = film or rating !> 3 and title find Heat", none, none, none, false, true⟩⟩ := by
    cbv
  have hconfig : (loadConfig nowhere).result = .ok Config.standard := rfl
  obtain ⟨g, hg, hexplains⟩ := explanations_tabulate _ _ hc
  have hdisplay : Formula.display ⟨"(Av¬B^C)".toList, ['A', 'B', 'C'],
      .binary .and (.binary .or (.var 0) (.not (.var 1))) (.var 2)⟩ = "(A v ¬B) ^ C" := by decide +kernel
  have htext := (hexplains.shown nowhere _ _ _ _ hconfig hargs rfl rfl).lines rfl
  rw [explainedLines, hexplains.letters, hexplains.root, hdisplay] at htext
  refine ⟨_, g, hc, hdisplay, hdisplay ▸ hg, hexplains, htext.trans ?_⟩
  decide +kernel

end CommandLine

end MediaCatalogue
