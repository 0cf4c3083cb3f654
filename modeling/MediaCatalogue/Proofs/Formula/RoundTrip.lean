import MediaCatalogue.Proofs.FirstOccurrence
import MediaCatalogue.Proofs.Formula.Cancel
import MediaCatalogue.Proofs.Formula.Compiled

/-! The infix text of a tree and the tree that it reads back as. The text is content of a section,
with a group for every binary operand; reading it cancels negations and numbers the variables by their
first occurrence, and fails exactly when the text nests too deeply. -/

namespace MediaCatalogue

namespace Expr

open Formula

def encloseTokens (e : Expr) (ts : List Token) : List Token :=
  if e.isBinary then .opening :: (ts ++ [.closing]) else ts

/-- The tokens of the infix text, with the variable `i` numbered `φ i`. -/
def infixTokens (φ : Nat → Nat) : Expr → List Token
  | var i => [.variable (φ i)]
  | not e => .not :: e.encloseTokens (e.infixTokens φ)
  | binary c l r =>
    l.encloseTokens (l.infixTokens φ) ++ .connective c :: r.encloseTokens (r.infixTokens φ)

def encloseDepth (e : Expr) (d : Nat) : Nat := if e.isBinary then d + 1 else d

def infixDepth : Expr → Nat
  | var _ => 0
  | not e => e.encloseDepth e.infixDepth
  | binary _ l r => max (l.encloseDepth l.infixDepth) (r.encloseDepth r.infixDepth)

/-- What the tree is as one operand: its negations at the root, and one operand below them. -/
def operandParts (φ : Nat → Nat) (e : Expr) : List Part :=
  nots e.signs ++ [.operand (e.core.cancel.rename φ)]

def pair (φ : Nat → Nat) (c : Connective) (l r : Expr) : Chain where
  signs := l.signs
  first := l.core.cancel.rename φ
  links := [⟨0, c, r.signs, r.core.cancel.rename φ⟩]
  trailing := 0

variable (φ : Nat → Nat)

theorem shape_pair (c : Connective) (l r : Expr) :
    Shape (operandParts φ l ++ .connective c :: operandParts φ r)
      (some ((binary c l r).cancel.rename φ)) := by
  have hparts : (pair φ c l r).parts = operandParts φ l ++ .connective c :: operandParts φ r := by
    simp [pair, Chain.parts, Link.parts, operandParts, nots]
  have hexpr : (pair φ c l r).expr = (binary c l r).cancel.rename φ := by
    rw [cancel, rename, cancel_eq l, cancel_eq r, rename_signed, rename_signed]
    simp [pair, Chain.expr, Chain.join]
  rw [← hparts, ← hexpr]
  exact .joined _ rfl

theorem shape_operand (e : Expr) : Shape (operandParts φ e) (some (e.cancel.rename φ)) := by
  rw [cancel_eq e, rename_signed]
  have := Shape.joined ⟨e.signs, e.core.cancel.rename φ, [], 0⟩ rfl
  simpa [Chain.parts, Chain.expr, nots, operandParts] using this

theorem content_operand (e : Expr) :
    ∀ {d : Nat} {ts : List Token} {ps : List Part}, Content d ts ps →
      Content (max d (e.encloseDepth e.infixDepth)) (ts ++ e.encloseTokens (e.infixTokens φ))
        (ps ++ operandParts φ e) := by
  induction e with
  | var i =>
    intro d ts ps h
    have := h.variable (φ i)
    simpa [encloseDepth, encloseTokens, isBinary, infixDepth, infixTokens, operandParts, signs, core,
      cancel, rename, nots] using this
  | not e ih =>
    intro d ts ps h
    have := ih h.not
    simpa [encloseDepth, encloseTokens, isBinary, infixDepth, infixTokens, operandParts, signs, core,
      nots, List.replicate_succ] using this
  | binary c l r ihl ihr =>
    intro d ts ps h
    have inner := ihr ((ihl .nil).connective c)
    simp only [List.nil_append, List.append_assoc, Nat.zero_max, List.singleton_append] at inner
    exact h.group inner (shape_pair φ c l r)

theorem content_infix (e : Expr) :
    ∃ ps, Content e.infixDepth (e.infixTokens φ) ps ∧ Shape ps (some (e.cancel.rename φ)) := by
  cases e with
  | binary c l r =>
    have inner := content_operand φ r ((content_operand φ l .nil).connective c)
    simp only [List.nil_append, List.append_assoc, Nat.zero_max, List.singleton_append] at inner
    exact ⟨_, inner, shape_pair φ c l r⟩
  | var i =>
    have := content_operand φ (var i) .nil
    exact ⟨_, by simpa [encloseDepth, encloseTokens, isBinary] using this, shape_operand φ (var i)⟩
  | not e =>
    have := content_operand φ (not e) .nil
    exact ⟨_, by simpa [encloseDepth, encloseTokens, isBinary] using this, shape_operand φ (not e)⟩

def letter (names : List Char) (i : Nat) : Char := names.getD i '?'

section
variable {names : List Char}

theorem letter_eq {i : Nat} (h : i < names.length) : letter names i = names[i] := by
  rw [letter, List.getD_eq_getElem?_getD, List.getElem?_eq_getElem h]
  rfl

theorem letter_idxOf {c : Char} (h : c ∈ names) : letter names (names.idxOf c) = c := by
  have hlt := List.idxOf_lt_length_of_mem h
  rw [letter_eq hlt, List.getElem_idxOf hlt]

theorem getD_map_letter (σ : Char → Bool) {i : Nat} (h : i < names.length) :
    (names.map σ).getD i false = σ (letter names i) := by
  rw [letter_eq h, List.getD_eq_getElem?_getD, List.getElem?_map, List.getElem?_eq_getElem h]
  rfl

theorem tokens_infixChars (vars : List Char) (e : Expr)
    (h : ∀ i ∈ e.leaves, isVariable (letter names i) = true) :
    ((e.infixChars names).filter isGlyph).map (tokenOf vars) =
      e.infixTokens fun i => vars.idxOf (letter names i) := by
  have henclose : ∀ (e : Expr) (text : List Char),
      ((e.enclose text).filter isGlyph).map (tokenOf vars) =
        e.encloseTokens ((text.filter isGlyph).map (tokenOf vars)) := by
    intro e text
    unfold enclose encloseTokens
    split
    · rw [List.filter_cons_of_pos rfl, List.filter_append, List.map_cons, List.map_append]
      rfl
    · rfl
  induction e with
  | var i =>
    have hi : isVariable (letter names i) = true := h i (List.mem_singleton_self i)
    have hchars : infixChars names (var i) = [letter names i] := rfl
    rw [hchars, List.filter_cons_of_pos (isGlyph_variable hi), List.map_cons, tokenOf_variable vars hi]
    rfl
  | not e ih =>
    simp only [infixChars, infixTokens]
    rw [List.filter_cons_of_pos rfl, List.map_cons, henclose, ih h]
    rfl
  | binary c l r ihl ihr =>
    simp only [infixChars, infixTokens]
    rw [List.filter_append, List.map_append, List.filter_cons_of_neg (by decide),
      List.filter_cons_of_pos (isGlyph_glyph c), List.filter_cons_of_neg (by decide), List.map_cons,
      henclose, henclose, ihl fun i hi => h i (List.mem_append_left _ hi),
      ihr fun i hi => h i (List.mem_append_right _ hi), tokenOf_glyph]

theorem letters_infixChars (e : Expr) (h : ∀ i ∈ e.leaves, isVariable (letter names i) = true) :
    (e.infixChars names).filter isVariable = e.leaves.map (letter names) := by
  have henclose : ∀ (e : Expr) (text : List Char),
      (e.enclose text).filter isVariable = text.filter isVariable := by
    intro e text
    unfold enclose
    split
    · rw [List.filter_cons_of_neg (by decide), List.filter_append]
      exact List.append_nil _
    · rfl
  induction e with
  | var i => exact List.filter_cons_of_pos (h i (List.mem_singleton_self i))
  | not e ih =>
    simp only [infixChars, leaves]
    rw [List.filter_cons_of_neg (by decide), henclose, ih h]
  | binary c l r ihl ihr =>
    simp only [infixChars, leaves]
    rw [List.filter_append, List.filter_cons_of_neg (by decide),
      List.filter_cons_of_neg (by simp [isVariable_glyph]), List.filter_cons_of_neg (by decide),
      henclose, henclose, ihl fun i hi => h i (List.mem_append_left _ hi),
      ihr fun i hi => h i (List.mem_append_right _ hi), List.map_append]

theorem bodyTokens_infixChars (e : Expr) (h : ∀ i ∈ e.leaves, isVariable (letter names i) = true) :
    bodyTokens (e.infixChars names) =
      e.infixTokens fun i => (e.leaves.map (letter names)).eraseDups.idxOf (letter names i) := by
  rw [bodyTokens, tokens_infixChars _ e h, letters_normalize, letters_infixChars e h]

theorem nesting_infixText (e : Expr) (h : ∀ i ∈ e.leaves, isVariable (letter names i) = true) :
    nesting (e.infixText names).toList = e.infixDepth := by
  obtain ⟨ps, content, -⟩ :=
    content_infix (fun i => (e.leaves.map (letter names)).eraseDups.idxOf (letter names i)) e
  rw [← bodyTokens_infixChars e h] at content
  rw [infixText, String.toList_ofList, nesting_eq content]

/-- The formula that the infix text reads back as: the variables are numbered by the letters of the
text, and negations that cancel are gone. -/
def readBack (names : List Char) (e : Expr) : Formula where
  source := (normalize (e.infixChars names)).source
  letters := (e.leaves.map (letter names)).eraseDups
  root := e.cancel.rename fun i => (e.leaves.map (letter names)).eraseDups.idxOf (letter names i)

theorem parse_infixText {e : Expr} (h : ∀ i ∈ e.leaves, isVariable (letter names i) = true)
    {f : Formula} :
    parse (e.infixText names) = .ok f ↔ e.infixDepth ≤ maxDepth ∧ f = e.readBack names := by
  obtain ⟨ps, content, shape⟩ :=
    content_infix (fun i => (e.leaves.map (letter names)).eraseDups.idxOf (letter names i)) e
  rw [← bodyTokens_infixChars e h] at content
  have hback : e.infixDepth ≤ maxDepth → parse (e.infixText names) = .ok (e.readBack names) := by
    intro depth
    rw [parse_eq_ok, infixText, String.toList_ofList]
    refine ⟨rfl, ?_, e.infixDepth, ps, depth, content, shape⟩
    rw [letters_normalize, letters_infixChars e h]
    rfl
  constructor
  · intro hf
    obtain ⟨-, -, d, qs, depth, content', -⟩ := parse_eq_ok.mp hf
    rw [infixText, String.toList_ofList] at content'
    rw [← nesting_eq content', nesting_eq content] at depth
    exact ⟨depth, Except.ok.inj (hf.symm.trans (hback depth))⟩
  · rintro ⟨depth, rfl⟩
    exact hback depth

theorem parses_infixText_iff {e : Expr} (h : ∀ i ∈ e.leaves, isVariable (letter names i) = true) :
    (∃ f, parse (e.infixText names) = .ok f) ↔ nesting (e.infixText names).toList ≤ maxDepth := by
  rw [nesting_infixText e h]
  constructor
  · rintro ⟨f, hf⟩
    exact ((parse_infixText h).mp hf).1
  · intro depth
    exact ⟨_, (parse_infixText h).mpr ⟨depth, rfl⟩⟩

end

section
variable {names : List Char} {e : Expr}

theorem letter_mem (named : e.maxVariable < names.length) {i : Nat} (hi : i ∈ e.leaves) :
    letter names i ∈ names := by
  have hlt : i < names.length := Nat.lt_of_le_of_lt (le_maxVariable hi) named
  rw [letter_eq hlt]
  exact List.getElem_mem hlt

theorem letter_inj (distinct : names.Nodup) (named : e.maxVariable < names.length) {i j : Nat}
    (hi : i ∈ e.leaves) (hj : j ∈ e.leaves) (h : letter names i = letter names j) : i = j :=
  (List.getD_inj (Nat.lt_of_le_of_lt (le_maxVariable hi) named)
    (Nat.lt_of_le_of_lt (le_maxVariable hj) named) distinct).mp h

/-- Bound by name, the formula that is read back has the value of the tree. -/
theorem eval_readBack (named : e.maxVariable < names.length) (σ : Char → Bool) :
    (e.readBack names).root.eval ((e.readBack names).letters.map σ) = e.eval (names.map σ) := by
  rw [← eval_cancel (names.map σ) e]
  apply eval_rename
  intro i hi
  rw [leaves_cancel] at hi
  have hlt : i < names.length := Nat.lt_of_le_of_lt (le_maxVariable hi) named
  have hmem : letter names i ∈ (e.readBack names).letters :=
    List.mem_eraseDups.mpr (List.mem_map_of_mem hi)
  change ((e.readBack names).letters.map σ).getD ((e.readBack names).letters.idxOf (letter names i))
    false = (names.map σ).getD i false
  rw [getD_map_letter σ (List.idxOf_lt_length_of_mem hmem), letter_idxOf hmem, getD_map_letter σ hlt]

end

/-- The infix text of any tree over distinct letters reads back exactly when it nests at most `maxDepth`
deep. It then has the letters of the tree by first occurrence, the tree without negations that cancel,
and the value of the tree under every assignment to letters. -/
theorem infixText_round_trip (e : Expr) (names : List Char) (distinct : names.Nodup)
    (letters : ∀ c ∈ names, isVariable c = true) (named : e.maxVariable < names.length) :
    ((∃ f, parse (e.infixText names) = .ok f) ↔ nesting (e.infixText names).toList ≤ maxDepth) ∧
      ∀ f, parse (e.infixText names) = .ok f →
        f.letters = (e.leaves.map (letter names)).eraseDups ∧
          f.root = e.cancel.rename e.leaves.eraseDups.idxOf ∧
          ∀ σ : Char → Bool, f.evalWith (f.letters.map σ) = .ok (e.eval (names.map σ)) := by
  have hvar : ∀ i ∈ e.leaves, isVariable (letter names i) = true :=
    fun i hi => letters _ (letter_mem named hi)
  have hinj : ∀ i ∈ e.leaves, ∀ j ∈ e.leaves, letter names i = letter names j → i = j :=
    fun i hi j hj => letter_inj distinct named hi hj
  constructor
  · exact parses_infixText_iff hvar
  · intro f hf
    obtain ⟨-, rfl⟩ := (parse_infixText hvar).mp hf
    refine ⟨rfl, ?_, ?_⟩
    · apply rename_congr
      intro i hi
      rw [leaves_cancel] at hi
      rw [eraseDups_map e.leaves hinj]
      exact idxOf_map fun j hj => hinj j (List.mem_eraseDups.mp hj) i hi
    · intro σ
      rw [evalWith, if_pos (List.length_map ..), eval_readBack named σ]

theorem infixText_round_trip_three_signs :
    ∃ f, parse ((not (not (not (binary .and (var 2) (var 0))))).infixText ['A', 'B', 'C']) = .ok f ∧
      f.letters = ['C', 'A'] ∧ f.root = not (binary .and (var 0) (var 1)) := by
  have h := infixText_round_trip (not (not (not (binary .and (var 2) (var 0))))) ['A', 'B', 'C']
    (by decide) (List.all_eq_true.mp (by decide)) (by decide)
  obtain ⟨f, hf⟩ := h.1.mpr (by rw [infixText, String.toList_ofList]; decide)
  obtain ⟨hletters, hroot, -⟩ := h.2 f hf
  exact ⟨f, hf, hletters.trans (by decide), hroot.trans (by decide)⟩

end Expr

end MediaCatalogue
