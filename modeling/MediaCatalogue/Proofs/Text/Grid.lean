import MediaCatalogue.Proofs.Text.Lines
import MediaCatalogue.Text.Grid

/-! What can be read off a table. Between the rules of its frame, the lines of the text hold all lines of all
cells, row by row, and every column has one width. -/

namespace MediaCatalogue

/-- A piece of a line shows some text: between two spaces, and filled up to a width. -/
def Fills (width : ℕ) (text piece : List Char) : Prop :=
  ∃ n, columns text + n = width ∧ piece = ' ' :: (text ++ List.replicate n ' ' ++ [' '])

/-- A line shows the line with number `i` of every cell, between bars. -/
def ShowsLine (width : ℕ → ℕ) (cells : List String) (i : ℕ) (line : List Char) : Prop :=
  ∃ pieces, line = '│' :: (['┆'].intercalate pieces ++ ['│']) ∧
    List.Forall₂ (fun x piece => Fills (width x.2) ((textLines x.1).getD i []) piece) cells.zipIdx pieces

/-- Lines show a row of cells, as many lines as its longest cell has. -/
structure ShowsRow (width : ℕ → ℕ) (cells : List String) (block : List (List Char)) : Prop where
  lines : ∀ i line, block[i]? = some line → ShowsLine width cells i line
  enough : ∀ cell ∈ cells, (textLines cell).length ≤ block.length
  least : ∀ n, (∀ cell ∈ cells, (textLines cell).length ≤ n) → block.length ≤ n

/-- A line that consists of the frame alone. -/
def IsRule (line : List Char) : Prop :=
  line ≠ [] ∧ ∀ c ∈ line, c ∈ ['┌', '─', '┬', '┐', '╞', '═', '╪', '╡', '└', '┴', '┘']

/-- A text is a table: the header stands between the first two rules, the rows in order between the last two. -/
inductive ShowsTable (header : List String) (rows : List (List String)) (text : String) : Prop where
  | framed {width : ℕ → ℕ} {top middle bottom : List Char} {head : List (List Char)}
      {body : List (List (List Char))} (rules : ∀ rule ∈ [top, middle, bottom], IsRule rule)
      (header : ShowsRow width header head) (rows : List.Forall₂ (ShowsRow width) rows body)
      (lines : textLines text = top :: (head ++ middle :: (body.flatten ++ [bottom])))

namespace Grid

theorem linesOf_eq_splitOn (cs : List Char) : linesOf cs = cs.splitOn '\n' := by
  induction cs with
  | nil => rfl
  | cons c cs ih =>
    rw [linesOf, ih, List.splitOn_cons_eq_if_modifyHead]
    obtain ⟨line, lines, hlines⟩ := List.exists_cons_of_ne_nil (List.splitOn_ne_nil '\n' cs)
    rw [hlines]
    simp only [beq_iff_eq, List.modifyHead_cons]

theorem cellOf_eq (s : String) : cellOf s = textLines s := linesOf_eq_splitOn s.toList

theorem newline_notMem_getD (s : String) (i : ℕ) : '\n' ∉ (textLines s).getD i [] := by
  rw [List.getD_eq_getElem?_getD]
  cases h : (textLines s)[i]? with
  | none => exact List.not_mem_nil
  | some line => exact newline_notMem_splitOn (List.mem_of_getElem? h)

theorem foldl_max_le_iff {ns : List ℕ} {a n : ℕ} : ns.foldl max a ≤ n ↔ a ≤ n ∧ ∀ m ∈ ns, m ≤ n := by
  induction ns generalizing a with
  | nil => simp
  | cons m ns ih => rw [List.foldl_cons, ih, max_le_iff, List.forall_mem_cons, and_assoc]

theorem columns_le_cellColumns (cell : Cell) (i : ℕ) : columns (cell.getD i []) ≤ cellColumns cell := by
  rw [List.getD_eq_getElem?_getD]
  cases h : cell[i]? with
  | none => exact Nat.zero_le _
  | some line =>
    exact (foldl_max_le_iff.mp le_rfl).2 _ (List.mem_map_of_mem (List.mem_of_getElem? h))

/-- There is a width for every cell, and all its lines fit in it. -/
structure Covers (widths : List ℕ) (cells : List Cell) : Prop where
  length : cells.length ≤ widths.length
  fits : ∀ j cell, cells[j]? = some cell → cellColumns cell ≤ widths.getD j 0

theorem length_widen (widths : List ℕ) (cells : List Cell) :
    (widen widths cells).length = max widths.length cells.length := by
  induction cells generalizing widths with
  | nil => cases widths <;> simp [widen]
  | cons cell cells ih => cases widths <;> simp [widen, ih]

theorem le_getD_widen (widths : List ℕ) (cells : List Cell) (j : ℕ) :
    widths.getD j 0 ≤ (widen widths cells).getD j 0 := by
  induction cells generalizing widths j with
  | nil => cases widths <;> simp [widen]
  | cons cell cells ih =>
    cases widths with
    | nil => exact Nat.zero_le _
    | cons w widths =>
      cases j with
      | zero => exact le_max_left _ _
      | succ j => exact ih widths j

theorem Covers.widen {widths : List ℕ} {cells : List Cell} (h : Covers widths cells) (more : List Cell) :
    Covers (widen widths more) cells where
  length := by
    rw [length_widen]
    exact h.length.trans (le_max_left _ _)
  fits j cell hcell := (h.fits j cell hcell).trans (le_getD_widen widths more j)

theorem covers_widen (widths : List ℕ) (cells : List Cell) : Covers (Grid.widen widths cells) cells where
  length := by
    rw [length_widen]
    exact le_max_right _ _
  fits := by
    induction cells generalizing widths with
    | nil => simp
    | cons cell cells ih =>
      intro j c hc
      cases j with
      | zero =>
        obtain rfl := Option.some.inj hc
        cases widths with
        | nil => exact le_rfl
        | cons w widths => exact le_max_right _ _
      | succ j =>
        cases widths with
        | nil => exact ih [] j c hc
        | cons w widths => exact ih widths j c hc

/-- The widths of a table are enough for all its rows. -/
theorem covers_foldl_widen {rows : List (List Cell)} {widths : List ℕ} {cells : List Cell}
    (h : Covers widths cells ∨ cells ∈ rows) : Covers (rows.foldl Grid.widen widths) cells := by
  induction rows generalizing widths with
  | nil => exact h.resolve_right List.not_mem_nil
  | cons row rows ih =>
    refine ih ?_
    rcases h with h | h
    · exact .inl (h.widen row)
    · rcases List.mem_cons.mp h with rfl | h
      · exact .inl (covers_widen widths _)
      · exact .inr h

theorem fills_padded {width : ℕ} {line : List Char} (h : columns line ≤ width) :
    Fills width line (padded width line) :=
  ⟨width - columns line, Nat.add_sub_of_le h, rfl⟩

theorem showsLine_lineAt {widths : List ℕ} {cells : List String}
    (h : Covers widths (cells.map cellOf)) (i : ℕ) :
    ShowsLine (widths.getD · 0) cells i (lineAt widths (cells.map cellOf) i) := by
  refine ⟨_, rfl, ?_⟩
  have hlength : cells.length ≤ widths.length := by simpa using h.length
  refine List.forall₂_iff_get.mpr ⟨by simp [hlength], ?_⟩
  intro j hj hj'
  have hcell : j < cells.length := by simpa using hj
  have hwidth : j < widths.length := hcell.trans_le hlength
  have hfits : columns ((cellOf cells[j]).getD i []) ≤ widths[j] := by
    have hcolumns := h.fits j (cellOf cells[j]) (by simp [hcell])
    rw [List.getD_eq_getElem _ _ hwidth] at hcolumns
    exact (columns_le_cellColumns _ i).trans hcolumns
  have hfills := fills_padded hfits
  simpa [cellOf_eq, hwidth] using hfills

theorem showsRow_rowLines {widths : List ℕ} {cells : List String}
    (h : Covers widths (cells.map cellOf)) :
    ShowsRow (widths.getD · 0) cells (rowLines widths (cells.map cellOf)) := by
  have hlengths : ((cells.map cellOf).map List.length) = cells.map fun cell => (textLines cell).length := by
    simp [cellOf_eq]
  have hlength : ∀ n, (rowLines widths (cells.map cellOf)).length ≤ n ↔
      ∀ cell ∈ cells, (textLines cell).length ≤ n := by
    intro n
    rw [rowLines, List.length_map, List.length_range, foldl_max_le_iff, hlengths]
    simp
  refine ⟨?_, (hlength _).mp le_rfl, fun n => (hlength n).mpr⟩
  intro i line hline
  rw [rowLines, List.getElem?_map, Option.map_eq_some_iff] at hline
  obtain ⟨j, hj, rfl⟩ := hline
  obtain ⟨hi, rfl⟩ := List.getElem?_eq_some_iff.mp hj
  rw [List.getElem_range]
  exact showsLine_lineAt h i

theorem eq_or_mem_of_mem_intercalate {c d : Char} {parts : List (List Char)}
    (h : c ∈ [d].intercalate parts) : c = d ∨ ∃ p ∈ parts, c ∈ p := by
  induction parts with
  | nil => cases h
  | cons p parts ih =>
    cases parts with
    | nil => exact .inr ⟨p, List.mem_cons_self, by simpa using h⟩
    | cons q parts =>
      rw [List.intercalate_cons_cons, List.append_assoc, List.mem_append, List.mem_append,
        List.mem_singleton] at h
      rcases h with hp | hd | hrest
      · exact .inr ⟨p, List.mem_cons_self, hp⟩
      · exact .inl hd
      · exact (ih hrest).imp_right fun ⟨r, hr, hc⟩ => ⟨r, List.mem_cons_of_mem p hr, hc⟩

theorem newline_notMem_fills {width : ℕ} {text piece : List Char} (h : Fills width text piece)
    (htext : '\n' ∉ text) : '\n' ∉ piece := by
  obtain ⟨n, -, rfl⟩ := h
  simp [htext, List.mem_replicate]

theorem newline_notMem_showsLine {width : ℕ → ℕ} {cells : List String} {i : ℕ} {line : List Char}
    (h : ShowsLine width cells i line) : '\n' ∉ line := by
  obtain ⟨pieces, rfl, hpieces⟩ := h
  have hpiece : ∀ p ∈ pieces, '\n' ∉ p := by
    intro p hp
    obtain ⟨k, hk, rfl⟩ := List.getElem_of_mem hp
    have hfills := (List.forall₂_iff_get.mp hpieces).2 k (by rwa [hpieces.length_eq]) hk
    exact newline_notMem_fills hfills (newline_notMem_getD _ i)
  have hmiddle : '\n' ∉ ['┆'].intercalate pieces := by
    intro hmem
    obtain hmark | ⟨p, hp, hmem⟩ := eq_or_mem_of_mem_intercalate hmem
    · exact absurd hmark (by decide)
    · exact hpiece p hp hmem
  simp [hmiddle]

theorem newline_notMem_rowLines {widths : List ℕ} {cells : List String} (h : Covers widths (cells.map cellOf))
    {line : List Char} (hline : line ∈ rowLines widths (cells.map cellOf)) : '\n' ∉ line := by
  obtain ⟨i, hi⟩ := List.getElem?_of_mem hline
  exact newline_notMem_showsLine ((showsRow_rowLines h).lines i line hi)

theorem isRule_ruled {left fill cross right : Char} (widths : List ℕ)
    (h : ∀ c ∈ [left, fill, cross, right],
      c ∈ ['┌', '─', '┬', '┐', '╞', '═', '╪', '╡', '└', '┴', '┘']) :
    IsRule (ruled left fill cross right widths) := by
  refine ⟨List.cons_ne_nil _ _, fun c hc => h c ?_⟩
  rw [ruled, List.mem_cons, List.mem_append, List.mem_singleton] at hc
  rcases hc with rfl | hc | rfl
  · simp
  · obtain rfl | ⟨p, hp, hc⟩ := eq_or_mem_of_mem_intercalate hc
    · simp
    · obtain ⟨w, -, rfl⟩ := List.mem_map.mp hp
      simp [List.eq_of_mem_replicate hc]
  · simp

theorem newline_notMem_rule {line : List Char} (h : IsRule line) : '\n' ∉ line :=
  fun hmem => absurd (h.2 _ hmem) (by decide)

/-- What is displayed is a table of the header and the rows. -/
theorem showsTable_display (g : Grid) : ShowsTable g.header g.rows g.display := by
  obtain ⟨widths, hwidths⟩ : ∃ widths, widths =
    (g.header.map cellOf :: g.rows.map (·.map cellOf)).foldl Grid.widen [] := ⟨_, rfl⟩
  have hcovers : ∀ cells, cells = g.header ∨ cells ∈ g.rows → Covers widths (cells.map cellOf) := by
    intro cells hcells
    rw [hwidths]
    refine covers_foldl_widen (.inr ?_)
    rcases hcells with rfl | hcells
    · exact List.mem_cons_self
    · exact List.mem_cons_of_mem _ (List.mem_map_of_mem hcells)
  have hrules : ∀ rule ∈ [ruled '┌' '─' '┬' '┐' widths, ruled '╞' '═' '╪' '╡' widths,
      ruled '└' '─' '┴' '┘' widths], IsRule rule := by
    simp only [List.forall_mem_cons]
    exact ⟨isRule_ruled widths (by simp), isRule_ruled widths (by simp),
      isRule_ruled widths (by simp), List.forall_mem_nil _⟩
  have hlines : g.lines = ruled '┌' '─' '┬' '┐' widths :: (rowLines widths (g.header.map cellOf) ++
      ruled '╞' '═' '╪' '╡' widths ::
        ((g.rows.map fun cells => rowLines widths (cells.map cellOf)).flatten ++
          [ruled '└' '─' '┴' '┘' widths])) := by
    rw [hwidths, lines, List.flatMap_map, List.flatMap_def]
  have hsplit : textLines g.display = g.lines := by
    rw [textLines, display, String.toList_ofList]
    refine List.splitOn_intercalate '\n' ?_ (hlines ▸ List.cons_ne_nil _ _)
    rw [hlines]
    intro line hline
    simp only [List.mem_cons, List.mem_append, List.mem_flatten, List.mem_map, List.not_mem_nil, or_false]
      at hline
    rcases hline with rfl | hline | rfl | ⟨_, ⟨cells, hcells, rfl⟩, hline⟩ | rfl
    · exact newline_notMem_rule (hrules _ (by simp))
    · exact newline_notMem_rowLines (hcovers _ (.inl rfl)) hline
    · exact newline_notMem_rule (hrules _ (by simp))
    · exact newline_notMem_rowLines (hcovers cells (.inr hcells)) hline
    · exact newline_notMem_rule (hrules _ (by simp))
  refine .framed hrules (showsRow_rowLines (hcovers _ (.inl rfl))) ?_ (hsplit.trans hlines)
  rw [List.forall₂_map_right_iff, List.forall₂_same]
  exact fun cells hcells => showsRow_rowLines (hcovers cells (.inr hcells))

end Grid

end MediaCatalogue
