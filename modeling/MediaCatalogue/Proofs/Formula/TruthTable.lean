import Mathlib
import MediaCatalogue.Proofs.Formula.Assignments
import MediaCatalogue.Proofs.Formula.Leaves
import MediaCatalogue.Proofs.Text.Lines

/-! The truth table of a compiled formula. It has one row for each list of values of the variables, with the
value of the formula under them, and its text holds these rows, cell by cell. -/

namespace MediaCatalogue

theorem Expr.mem_infixChars {names : List Char} {e : Expr} {c : Char} (h : c ∈ e.infixChars names) :
    c ∈ names ∨ c = '?' ∨ c = ' ' ∨ Formula.isGlyph c = true := by
  have henclose : ∀ (e : Expr) (text : List Char), c ∈ e.enclose text → Formula.isGlyph c = true ∨ c ∈ text := by
    intro e text hc
    unfold enclose at hc
    split at hc
    · simp only [List.mem_cons, List.mem_append, List.not_mem_nil, or_false] at hc
      rcases hc with rfl | hc | rfl
      · exact .inl rfl
      · exact .inr hc
      · exact .inl rfl
    · exact .inr hc
  induction e with
  | var i =>
    obtain rfl := List.mem_singleton.mp h
    rw [List.getD_eq_getElem?_getD]
    cases hi : names[i]? with
    | none => exact .inr (.inl rfl)
    | some d => exact .inl (List.mem_of_getElem? hi)
  | not e ih =>
    rcases List.mem_cons.mp h with rfl | h
    · exact .inr (.inr (.inr rfl))
    · exact (henclose e _ h).elim (.inr ∘ .inr ∘ .inr) ih
  | binary k l r ihl ihr =>
    simp only [infixChars, List.mem_append, List.mem_cons] at h
    rcases h with h | rfl | rfl | rfl | h
    · exact (henclose l _ h).elim (.inr ∘ .inr ∘ .inr) ihl
    · exact .inr (.inr (.inl rfl))
    · exact .inr (.inr (.inr (Formula.isGlyph_glyph k)))
    · exact .inr (.inr (.inl rfl))
    · exact (henclose r _ h).elim (.inr ∘ .inr ∘ .inr) ihr

namespace Formula

/-- The cells of a table in a text, line by line. -/
def cellsOf (text : String) : List (List (List Char)) := (text.toList.splitOn '\n').map (·.splitOn '|')

def headerCells (f : Formula) : List (List Char) := f.letters.map ([·]) ++ [f.display.toList]

def Row.cells (r : Row) : List (List Char) := r.inputs.map ([bit ·]) ++ [[bit r.output]]

def lineOf (cells : List (List Char)) (last : List Char) : List Char := cells.flatMap (· ++ ['|']) ++ last

theorem newline_notMem_lineOf {cells : List (List Char)} {last : List Char}
    (hcells : ∀ p ∈ cells, '\n' ∉ p) (hlast : '\n' ∉ last) : '\n' ∉ lineOf cells last := by
  simp only [lineOf, List.mem_append, List.mem_flatMap, not_or, not_exists, not_and]
  exact ⟨fun p hp => ⟨hcells p hp, by decide⟩, hlast⟩

theorem toList_tableText (f : Formula) :
    f.tableText.toList =
      (lineOf (f.letters.map ([·])) f.display.toList ::
        f.tableRows.map fun r => lineOf (r.inputs.map ([bit ·])) [bit r.output]).flatMap (· ++ ['\n']) := by
  have hrow : ∀ r : Row, r.text.toList = lineOf (r.inputs.map ([bit ·])) [bit r.output] ++ ['\n'] := by
    intro r
    simp [Row.text, lineOf, List.flatMap_map]
  simp [tableText, String.toList_join, tableHeader, lineOf, List.flatMap_map, hrow]

section
variable {text : String} {f : Formula}

theorem isVariable_of_mem_letters (h : parse text = .ok f) {c : Char} (hc : c ∈ f.letters) :
    isVariable c = true := by
  rw [letters_eq h, List.mem_eraseDups] at hc
  exact (List.mem_filter.mp hc).2

/-- A character that has no place in formulas is not in the text of one. -/
theorem notMem_display (h : parse text = .ok f) {c : Char} (hc : c ≠ '?' ∧ c ≠ ' ' ∧ isGlyph c = false) :
    c ∉ f.display.toList := by
  intro hmem
  rw [display, Expr.infixText, String.toList_ofList] at hmem
  rcases Expr.mem_infixChars hmem with hletter | hmark | hspace | hglyph
  · rw [isGlyph_variable (isVariable_of_mem_letters h hletter)] at hc
    cases hc.2.2
  · exact hc.1 hmark
  · exact hc.2.1 hspace
  · rw [hglyph] at hc
    cases hc.2.2

theorem cellsOf_tableText (h : parse text = .ok f) :
    cellsOf f.tableText = f.headerCells :: f.tableRows.map Row.cells ++ [[[]]] := by
  have hletters : ∀ mark, isVariable mark = false → ∀ p ∈ f.letters.map ([·]), mark ∉ p := by
    intro mark hmark p hp hmem
    obtain ⟨c, hc, rfl⟩ := List.mem_map.mp hp
    obtain rfl := List.mem_singleton.mp hmem
    rw [isVariable_of_mem_letters h hc] at hmark
    cases hmark
  have hbit : ∀ mark, mark ≠ '0' ∧ mark ≠ '1' → ∀ b, mark ∉ [bit b] := by
    rintro mark ⟨hzero, hone⟩ (_ | _) hmem
    · exact hzero (List.mem_singleton.mp hmem)
    · exact hone (List.mem_singleton.mp hmem)
  have hbits : ∀ mark, mark ≠ '0' ∧ mark ≠ '1' → ∀ r : Row, ∀ p ∈ r.inputs.map ([bit ·]), mark ∉ p := by
    intro mark hmark r p hp
    obtain ⟨b, -, rfl⟩ := List.mem_map.mp hp
    exact hbit mark hmark b
  have hheader : (lineOf (f.letters.map ([·])) f.display.toList).splitOn '|' = f.headerCells :=
    splitOn_flatMap (hletters '|' rfl) (notMem_display h (by decide))
  have hrow : ∀ r : Row, (lineOf (r.inputs.map ([bit ·])) [bit r.output]).splitOn '|' = r.cells := fun r =>
    splitOn_flatMap (hbits '|' (by decide) r) (hbit '|' (by decide) _)
  have hlines : ∀ line ∈ lineOf (f.letters.map ([·])) f.display.toList ::
      f.tableRows.map fun r => lineOf (r.inputs.map ([bit ·])) [bit r.output], '\n' ∉ line := by
    intro line hline
    rcases List.mem_cons.mp hline with rfl | hline
    · exact newline_notMem_lineOf (hletters '\n' rfl) (notMem_display h (by decide))
    · obtain ⟨r, -, rfl⟩ := List.mem_map.mp hline
      exact newline_notMem_lineOf (hbits '\n' (by decide) r) (hbit '\n' (by decide) _)
  have hsplit := splitOn_flatMap hlines List.not_mem_nil
  rw [List.append_nil, ← toList_tableText] at hsplit
  rw [cellsOf, hsplit, List.map_append, List.map_cons, hheader, List.map_map]
  simp only [Function.comp_def, hrow]
  rfl

end

theorem mem_tableRows_iff {f : Formula} (h : f.assignments.Enumerates f.letters.length) {r : Row} :
    r ∈ f.tableRows ↔ r.inputs.length = f.letters.length ∧ f.root.eval r.inputs = r.output := by
  simp only [tableRows, List.mem_map, h.mem_iff]
  constructor
  · rintro ⟨values, hlength, rfl⟩
    exact ⟨hlength, rfl⟩
  · rintro ⟨hlength, houtput⟩
    exact ⟨r.inputs, hlength, by rw [rowOf, houtput]⟩

/-- The truth table of a formula: one row for each list of values of its variables, in order, with the value of
the formula. The rows can be asked for one by one, and the text holds the header and the rows, cell by cell. -/
structure Tabulated (f : Formula) : Prop where
  assignments : f.assignments.Enumerates f.letters.length
  length : f.tableRows.length = 2 ^ f.letters.length
  inputs : f.tableRows.map (·.inputs) = f.assignments.toList
  outputs : ∀ r ∈ f.tableRows, f.evalWith r.inputs = .ok r.output
  yields : ∀ n, (f.assignments.take n).1.map f.rowOf = f.tableRows.take n
  cells : cellsOf f.tableText = f.headerCells :: f.tableRows.map Row.cells ++ [[[]]]

theorem tabulated {text : String} {f : Formula} (h : parse text = .ok f) : Tabulated f := by
  have hnamed : Named text.toList f.letters := (parse_eq_ok.mp h).2.1 ▸ named_normalize text.toList
  have hwidth : min f.letters.length Assignments.maxWidth = f.letters.length :=
    min_eq_left (hnamed.length_le.trans (by decide))
  have hassignments : f.assignments.Enumerates f.letters.length :=
    hwidth ▸ Assignments.enumerates_ofWidth f.letters.length
  refine ⟨hassignments, ?_, ?_, fun r hr => ?_, fun n => ?_, cellsOf_tableText h⟩
  · rw [tableRows, List.length_map, hassignments.length]
  · rw [tableRows, List.map_map]
    exact List.map_id _
  · obtain ⟨hlength, houtput⟩ := (mem_tableRows_iff hassignments).mp hr
    rw [evalWith, if_pos hlength, houtput]
  · rw [hassignments.yields, tableRows, List.map_take]

/-- Of any number of variables at most 63 are enumerated, without an overflow of the row counter, and the truth
table of a compiled formula has all assignments of its variables, each with the value of the formula. -/
theorem tables_are_complete :
    (∀ width, (Assignments.ofWidth width).Enumerates (min width 63)) ∧
      ∀ text f, parse text = .ok f → Tabulated f :=
  ⟨Assignments.enumerates_ofWidth, fun _ _ h => tabulated h⟩

/-- Of the eight rows one is false. -/
theorem tables_are_complete_three_variables :
    ∃ f, parse "(X → Y) v (Z → ¬X)" = .ok f ∧ f.tableRows.length = 8 ∧
      (∀ r ∈ f.tableRows, f.evalWith r.inputs = .ok r.output) ∧
      f.tableRows.filter (!·.output) = [⟨[true, false, true], false⟩] := by
  have hf : parse "(X → Y) v (Z → ¬X)" = .ok ⟨"((X→Y)v(Z→¬X))".toList, ['X', 'Y', 'Z'],
      .binary .or (.binary .implies (.var 0) (.var 1)) (.binary .implies (.var 2) (.not (.var 0)))⟩ := rfl
  have htable := tables_are_complete.2 _ _ hf
  exact ⟨_, hf, htable.length, htable.outputs, by decide +kernel⟩

end Formula

end MediaCatalogue
