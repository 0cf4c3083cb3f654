import MediaCatalogue.Proofs.Formula.RoundTrip

/-! The text that a compiled formula is shown in. It reads back with the same variables and the same
values, unless it nests too deeply to be read at all: every connective of a flat chain but the last is
shown in parentheses, so that a long chain is shown deeper than it was written. -/

namespace MediaCatalogue

namespace Formula

section
variable {text : String} {f : Formula}

theorem letters_eq (h : parse text = .ok f) : f.letters = (text.toList.filter isVariable).eraseDups :=
  (parse_eq_ok.mp h).2.1.trans (letters_normalize _)

/-- Each leaf is the number of the letter that stands there. -/
theorem exists_letter (h : parse text = .ok f) {i : Nat} (hi : i ∈ f.root.leaves) :
    ∃ c ∈ f.letters, isVariable c = true ∧ i = f.letters.idxOf c := by
  rw [leaves_root h] at hi
  obtain ⟨c, hc, rfl⟩ := List.mem_map.mp hi
  refine ⟨c, ?_, (List.mem_filter.mp hc).2, rfl⟩
  rw [letters_eq h]
  exact List.mem_eraseDups.mpr hc

theorem letters_leaves (h : parse text = .ok f) :
    f.root.leaves.map (Expr.letter f.letters) = text.toList.filter isVariable := by
  rw [leaves_root h, List.map_map]
  refine (List.map_congr_left ?_).trans (List.map_id _)
  intro c hc
  apply Expr.letter_idxOf
  rw [letters_eq h]
  exact List.mem_eraseDups.mpr hc

theorem isVariable_letter (h : parse text = .ok f) :
    ∀ i ∈ f.root.leaves, isVariable (Expr.letter f.letters i) = true := by
  intro i hi
  obtain ⟨c, hc, hvar, rfl⟩ := exists_letter h hi
  rw [Expr.letter_idxOf hc]
  exact hvar

/-- What the text of a compiled formula reads back as: its own variables and numbers, and its tree
without the negations that cancel. -/
theorem readBack_root (h : parse text = .ok f) :
    (f.root.readBack f.letters).letters = f.letters ∧
      (f.root.readBack f.letters).root = f.root.cancel := by
  have hletters : (f.root.leaves.map (Expr.letter f.letters)).eraseDups = f.letters := by
    rw [letters_leaves h, letters_eq h]
  refine ⟨hletters, ?_⟩
  rw [Expr.readBack, hletters]
  refine (Expr.rename_congr f.root.cancel ?_).trans (Expr.rename_id _)
  intro i hi
  rw [Expr.leaves_cancel] at hi
  obtain ⟨c, hc, -, rfl⟩ := exists_letter h hi
  rw [Expr.letter_idxOf hc]
  rfl

theorem parse_display (h : parse text = .ok f) {g : Formula} :
    parse f.display = .ok g ↔ f.root.infixDepth ≤ maxDepth ∧ g = f.root.readBack f.letters :=
  Expr.parse_infixText (isVariable_letter h)

end

/-- The text of a compiled formula reads back exactly when it nests at most `maxDepth` deep. What it
reads back as has the same variables, and the same value under all bindings. -/
theorem display_reads_back_iff (text : String) (f : Formula) (h : parse text = .ok f) :
    ((∃ g, parse f.display = .ok g) ↔ nesting f.display.toList ≤ maxDepth) ∧
      ∀ g, parse f.display = .ok g →
        g.letters = f.letters ∧ ∀ b, g.evalWith b = f.evalWith b ∧ g.root.eval b = f.root.eval b := by
  obtain ⟨hletters, hroot⟩ := readBack_root h
  constructor
  · exact Expr.parses_infixText_iff (isVariable_letter h)
  · intro g hg
    obtain ⟨-, rfl⟩ := (parse_display h).mp hg
    refine ⟨hletters, fun b => ?_⟩
    have heval : (f.root.readBack f.letters).root.eval b = f.root.eval b := by
      rw [hroot, Expr.eval_cancel]
    refine ⟨?_, heval⟩
    rw [evalWith, evalWith, hletters, heval]

/-- A negated group under a negation is shown without the group, and reads back as another tree. -/
theorem display_reads_back_negated_group :
    ∃ f g, parse "¬(¬A)vB" = .ok f ∧ parse f.display = .ok g ∧ g.root ≠ f.root ∧
      ∀ b, g.root.eval b = f.root.eval b := by
  have hf : parse "¬(¬A)vB" = .ok
      ⟨"(¬(¬A)vB)".toList, ['A', 'B'], .binary .or (.not (.not (.var 0))) (.var 1)⟩ := rfl
  have h := display_reads_back_iff "¬(¬A)vB" _ hf
  obtain ⟨g, hg⟩ := h.1.mpr (by rw [display, Expr.infixText, String.toList_ofList]; decide)
  have hroot : g.root = .binary .or (.var 0) (.var 1) := by
    rw [((parse_display hf).mp hg).2, (readBack_root hf).2]
    rfl
  exact ⟨_, g, hf, hg, by rw [hroot]; decide, fun b => ((h.2 g hg).2 b).2⟩

/-- A chain of `n` conjunctions, written without parentheses. -/
def flatChain (n : Nat) : List Char := 'A' :: (List.replicate n ['^', 'A']).flatten

theorem bodyTokens_flatChain (n : Nat) :
    ∃ i, bodyTokens (flatChain n) =
      .variable i :: (List.replicate n [.connective .and, .variable i]).flatten := by
  refine ⟨(normalize (flatChain n)).letters.idxOf 'A', ?_⟩
  have hfilter : (flatChain n).filter isGlyph = flatChain n := by
    rw [List.filter_eq_self]
    intro c hc
    have hc : c = 'A' ∨ c = '^' := by
      simp only [flatChain, List.mem_cons, List.mem_flatten, List.mem_replicate] at hc
      rcases hc with rfl | ⟨_, ⟨-, rfl⟩, hc⟩
      · exact .inl rfl
      · simpa [or_comm] using hc
    rcases hc with rfl | rfl <;> rfl
  rw [bodyTokens, hfilter]
  simp only [flatChain, List.map_cons, List.map_flatten, List.map_replicate]
  rfl

/-- The tree of a flat chain leans to the left: its text nests one level for each connective but the
last. -/
theorem parse_flatChain (n : Nat) :
    ∃ f, parse (String.ofList (flatChain (n + 1))) = .ok f ∧ f.root.infixDepth = n := by
  obtain ⟨i, hi⟩ := bodyTokens_flatChain (n + 1)
  have hcontent : Content 0
      (.variable i :: (List.replicate (n + 1) [.connective .and, .variable i]).flatten)
      (.operand (.var i) :: (List.replicate (n + 1) [.connective .and, .operand (.var i)]).flatten) := by
    apply Content.plains .nil
    simp only [List.map_cons, List.map_flatten, List.map_replicate]
    rfl
  have hdepth : ∀ n, ((List.replicate (n + 1) (Link.mk 0 .and 0 (.var i))).foldl Chain.join
      (.var i)).infixDepth = n := by
    intro n
    induction n with
    | zero => rfl
    | succ n ih =>
      rw [List.replicate_succ', List.foldl_append, List.foldl_cons, List.foldl_nil, Chain.join,
        Expr.infixDepth, ih]
      simp [List.replicate_succ', Chain.join, Expr.encloseDepth, Expr.isBinary, signed, Expr.infixDepth]
  have shape := Shape.joined ⟨0, .var i, List.replicate (n + 1) ⟨0, .and, 0, .var i⟩, 0⟩ rfl
  refine ⟨⟨_, _, _⟩, parse_eq_ok.mpr ⟨rfl, rfl, 0, _, Nat.zero_le _, ?_, shape⟩, hdepth n⟩
  rw [String.toList_ofList, hi]
  simpa [Chain.parts, Link.parts, nots, List.flatMap_replicate] using hcontent

/-- The shortest flat chain whose text does not read back. -/
theorem display_not_read_back :
    ∃ f, parse (String.ofList (flatChain 258)) = .ok f ∧ ∀ g, parse f.display ≠ .ok g := by
  obtain ⟨f, hf, depth⟩ := parse_flatChain 257
  refine ⟨f, hf, fun g hg => ?_⟩
  have := ((parse_display hf).mp hg).1
  rw [depth] at this
  exact absurd this (by decide)

end Formula

end MediaCatalogue
