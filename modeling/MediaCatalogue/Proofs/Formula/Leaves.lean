import Mathlib
import MediaCatalogue.Proofs.FirstOccurrence
import MediaCatalogue.Proofs.Formula.Display

/-! The variables of a compiled formula. They are numbered in the order in which they first appear, every
number stands at some leaf, and the leaves from left to right are the letters of the text. So the value of
a compiled formula is made of the values that it is given for its variables, and of nothing else. -/

namespace MediaCatalogue

/-- The value under `bindings`, if they cover all variables that are read for it. -/
def Expr.value? (bindings : List Bool) : Expr → Option Bool
  | .var i => bindings[i]?
  | .not e => (e.value? bindings).map (!·)
  | .binary c l r => do return c.apply (← l.value? bindings) (← r.value? bindings)

theorem Expr.value?_eq_some {bindings : List Bool} {e : Expr}
    (h : ∀ i ∈ e.leaves, i < bindings.length) : e.value? bindings = some (e.eval bindings) := by
  induction e with
  | var i =>
    have hi := h i (List.mem_singleton_self i)
    rw [value?, eval, List.getElem?_eq_getElem hi, List.getD_eq_getElem _ _ hi]
  | not e ih => rw [value?, ih h, eval, Option.map_some]
  | binary c l r ihl ihr =>
    rw [value?, ihl fun i hi => h i (List.mem_append_left _ hi),
      ihr fun i hi => h i (List.mem_append_right _ hi), eval]
    rfl

theorem Expr.maxVariable_mem (e : Expr) : e.maxVariable ∈ e.leaves := by
  induction e with
  | var i => exact List.mem_singleton_self i
  | not e ih => exact ih
  | binary c l r ihl ihr =>
    rw [maxVariable, leaves, List.mem_append]
    rcases max_choice l.maxVariable r.maxVariable with h | h <;> rw [h]
    · exact .inl ihl
    · exact .inr ihr

namespace Formula

/-! Reducing a text -/

/-- What a character of a reduced text stands for. -/
inductive Denotes (letters : List Char) : Char → Token → Prop where
  | opening : Denotes letters '(' .opening
  | closing : Denotes letters ')' .closing
  | not : Denotes letters negationGlyph .not
  | connective (k : Connective) : Denotes letters k.glyph (.connective k)
  | variable {c : Char} {i : Nat} (capital : isVariable c = true) (named : letters[i]? = some c) :
      Denotes letters c (.variable i)

theorem denotes_tokenOf {letters : List Char} {c : Char} (hglyph : isGlyph c = true)
    (hletter : isVariable c = true → c ∈ letters) : Denotes letters c (tokenOf letters c) := by
  rcases glyph_cases hglyph with hc | rfl | rfl | rfl | ⟨k, rfl⟩
  · rw [tokenOf_variable letters hc]
    exact .variable hc (List.getElem?_idxOf (hletter hc))
  · exact .opening
  · exact .closing
  · exact .not
  · rw [tokenOf_glyph]
    exact .connective k

theorem source_normalize (text : List Char) :
    (normalize text).source = '(' :: (text.filter isGlyph ++ [')']) := rfl

/-- Each token is that of the character at its position. -/
theorem denotes_normalize (text : List Char) :
    List.Forall₂ (Denotes (normalize text).letters) (normalize text).source (normalize text).tokens := by
  have htokens : (normalize text).tokens =
      (normalize text).source.map (tokenOf (normalize text).letters) := rfl
  rw [htokens, List.forall₂_map_right_iff, List.forall₂_same]
  intro c hc
  refine denotes_tokenOf ?_ fun hcapital => ?_
  · rw [source_normalize] at hc
    rcases List.mem_cons.mp hc with rfl | hc
    · rfl
    · rcases List.mem_append.mp hc with hc | hc
      · exact (List.mem_filter.mp hc).2
      · obtain rfl := List.mem_singleton.mp hc
        rfl
  · rw [letters_normalize, List.mem_eraseDups, List.mem_filter]
    refine ⟨?_, hcapital⟩
    rw [source_normalize] at hc
    rcases List.mem_cons.mp hc with rfl | hc
    · cases hcapital
    · rcases List.mem_append.mp hc with hc | hc
      · exact List.mem_of_mem_filter hc
      · obtain rfl := List.mem_singleton.mp hc
        cases hcapital

theorem normalize_filter (text : List Char) : normalize (text.filter isGlyph) = normalize text := by
  simp only [normalize, List.filter_filter, Bool.and_self]

/-! One pass over a text -/

namespace Normalized

def opened : Normalized := { source := ['('], letters := [], tokens := [.opening] }

/-- Takes in one more character. A letter that is new gets the next number. -/
def push (n : Normalized) (c : Char) : Normalized :=
  if isGlyph c then
    let letters := if isVariable c && !n.letters.contains c then n.letters ++ [c] else n.letters
    { source := n.source ++ [c], letters, tokens := n.tokens ++ [tokenOf letters c] }
  else n

def closed (n : Normalized) : Normalized :=
  { n with source := n.source ++ [')'], tokens := n.tokens ++ [.closing] }

end Normalized

/-- What is known of a text before its closing parenthesis. -/
def unclosed (text : List Char) : Normalized where
  source := '(' :: text.filter isGlyph
  letters := (text.filter isVariable).eraseDups
  tokens := .opening :: (text.filter isGlyph).map (tokenOf (text.filter isVariable).eraseDups)

/-- Further letters do not change the numbers of those that are known. -/
theorem tokenOf_append {letters : List Char} (more : List Char) {c : Char} (hglyph : isGlyph c = true)
    (hletter : isVariable c = true → c ∈ letters) : tokenOf (letters ++ more) c = tokenOf letters c := by
  rcases glyph_cases hglyph with hc | rfl | rfl | rfl | ⟨k, rfl⟩
  · rw [tokenOf_variable _ hc, tokenOf_variable _ hc, List.idxOf_append, if_pos (hletter hc)]
  · rfl
  · rfl
  · rfl
  · rw [tokenOf_glyph, tokenOf_glyph]

theorem letters_concat (text : List Char) (c : Char) :
    ((text ++ [c]).filter isVariable).eraseDups =
      if isVariable c && !(text.filter isVariable).eraseDups.contains c then
        (text.filter isVariable).eraseDups ++ [c]
      else (text.filter isVariable).eraseDups := by
  rw [List.filter_append]
  cases hc : isVariable c with
  | false => simp [hc]
  | true =>
    rw [List.filter_cons_of_pos hc, List.filter_nil, eraseDups_concat]
    by_cases hmem : c ∈ text.filter isVariable
    · have hcontains : (text.filter isVariable).eraseDups.contains c = true := by
        rw [List.contains_iff_mem, List.mem_eraseDups]
        exact hmem
      rw [if_pos hmem, hcontains]
      rfl
    · have hcontains : (text.filter isVariable).eraseDups.contains c = false := by
        rw [← Bool.not_eq_true, List.contains_iff_mem, List.mem_eraseDups]
        exact hmem
      rw [if_neg hmem, hcontains]
      rfl

theorem unclosed_concat (text : List Char) (c : Char) :
    unclosed (text ++ [c]) = (unclosed text).push c := by
  have hletters := letters_concat text c
  have htokens : (text.filter isGlyph).map (tokenOf ((text ++ [c]).filter isVariable).eraseDups) =
      (text.filter isGlyph).map (tokenOf (text.filter isVariable).eraseDups) := by
    refine List.map_congr_left fun d hd => ?_
    have hletter : isVariable d = true → d ∈ (text.filter isVariable).eraseDups := by
      intro hcapital
      rw [List.mem_eraseDups]
      exact List.mem_filter.mpr ⟨List.mem_of_mem_filter hd, hcapital⟩
    rw [hletters]
    split_ifs
    · exact tokenOf_append [c] (List.mem_filter.mp hd).2 hletter
    · rfl
  unfold Normalized.push
  cases hglyph : isGlyph c with
  | false =>
    have hcapital : isVariable c = false := by
      rw [← Bool.not_eq_true]
      intro hc
      rw [isGlyph_variable hc] at hglyph
      cases hglyph
    simp [unclosed, hglyph, hcapital]
  | true =>
    simp only [unclosed, if_true]
    rw [List.filter_append, List.filter_cons_of_pos hglyph, List.filter_nil, List.map_append, htokens,
      hletters]
    rfl

/-- One pass over a text reduces it, and numbers each letter where it is met first. -/
theorem normalize_eq_foldl (text : List Char) :
    normalize text = (text.foldl Normalized.push .opened).closed := by
  have hpass : unclosed text = text.foldl Normalized.push .opened := by
    induction text using List.reverseRecOn with
    | nil => rfl
    | append_singleton text c ih => rw [unclosed_concat, ih, List.foldl_concat]
  have hclosed : normalize text = (unclosed text).closed := by
    have htokens : (normalize text).tokens = (unclosed text).tokens ++ [.closing] := by
      rw [tokens_normalize, bodyTokens, letters_normalize]
      rfl
    calc normalize text
        = ⟨(normalize text).source, (normalize text).letters, (normalize text).tokens⟩ := rfl
      _ = (unclosed text).closed := by
        rw [letters_normalize, htokens]
        rfl
  rw [hclosed, hpass]

/-! The letters of a text -/

/-- The distinct variables of a text in the order in which they first appear. -/
structure Named (text letters : List Char) : Prop where
  distinct : letters.Nodup
  mem_iff : ∀ c, c ∈ letters ↔ c ∈ text ∧ isVariable c = true
  ordered : letters.Pairwise fun a b => text.idxOf a < text.idxOf b

theorem named_normalize (text : List Char) : Named text (normalize text).letters := by
  have hpairwise := pairwise_eraseDups (text.filter isVariable)
  rw [letters_normalize]
  refine ⟨hpairwise.imp ?_, fun c => by simp, hpairwise.imp_of_mem fun ha hb hab => ?_⟩
  · rintro a _ hab rfl
    exact absurd hab (lt_irrefl _)
  · exact idxOf_filter_lt (List.mem_filter.mp (List.mem_eraseDups.mp ha)).2
      (List.mem_filter.mp (List.mem_eraseDups.mp hb)).2 hab

/-- There are as many variables as capital letters. -/
theorem Named.length_le {text letters : List Char} (h : Named text letters) : letters.length ≤ 26 := by
  have hcodes : letters.map Char.toNat ⊆ List.range' 65 26 := by
    intro n hn
    obtain ⟨c, hc, rfl⟩ := List.mem_map.mp hn
    have hcapital := ((h.mem_iff c).mp hc).2
    simp only [isVariable, Bool.and_eq_true, decide_eq_true_eq] at hcapital
    rw [List.mem_range'_1]
    have hlow : 65 ≤ c.toNat := hcapital.1
    have hhigh : c.toNat ≤ 90 := hcapital.2
    omega
  have hdistinct : (letters.map Char.toNat).Nodup := h.distinct.map fun _ _ => Char.toNat_inj.mp
  simpa using (List.subperm_of_subset hdistinct hcodes).length_le

/-! The leaves of a compiled formula -/

section
variable {text : String} {f : Formula}

theorem leaves_tokens (h : parse text = .ok f) :
    f.root.leaves = (normalize text.toList).tokens.filterMap Token.index? := by
  rw [leaves_bodyTokens h, tokens_normalize, List.filterMap_cons_none rfl, List.filterMap_append]
  exact (List.append_nil _).symm

/-- Every number stands at a leaf, and no others do. -/
theorem mem_leaves_iff (h : parse text = .ok f) {i : Nat} : i ∈ f.root.leaves ↔ i < f.letters.length := by
  have hnamed : Named text.toList f.letters := (parse_eq_ok.mp h).2.1 ▸ named_normalize text.toList
  constructor
  · intro hi
    obtain ⟨c, hc, -, rfl⟩ := exists_letter h hi
    exact List.idxOf_lt_length_iff.mpr hc
  · intro hi
    have hletter := (hnamed.mem_iff f.letters[i]).mp (List.getElem_mem hi)
    rw [leaves_root h]
    refine List.mem_map.mpr ⟨f.letters[i], List.mem_filter.mpr hletter, ?_⟩
    exact hnamed.distinct.idxOf_getElem i hi

theorem letters_at_leaves (h : parse text = .ok f) :
    f.root.leaves.map (f.letters[·]?) = (text.toList.filter isVariable).map some := by
  rw [leaves_root h, List.map_map]
  refine List.map_congr_left fun c hc => ?_
  refine List.getElem?_idxOf ?_
  rw [letters_eq h, List.mem_eraseDups]
  exact hc

end

/-- In a compiled formula the leaves from left to right are the variables of the reduced text, and these
are the letters of the text. The letters are distinct, numbered in the order in which they first appear,
at least one and at most 26, and the leaves hold exactly their numbers. Each token is that of the
character at its position, and reducing once more what is between the outermost parentheses gives the
same. So no value is read but those that are given for the variables. -/
theorem leaves_are_letters (text : String) (f : Formula) (h : parse text = .ok f) :
    f.source = (normalize text.toList).source ∧ f.letters = (normalize text.toList).letters ∧
      f.root.leaves = (normalize text.toList).tokens.filterMap Token.index? ∧
      f.root.leaves.map (f.letters[·]?) = (text.toList.filter isVariable).map some ∧
      (Named text.toList f.letters ∧ 1 ≤ f.letters.length ∧ f.letters.length ≤ 26) ∧
      (∀ i, i ∈ f.root.leaves ↔ i < f.letters.length) ∧
      List.Forall₂ (Denotes f.letters) (normalize text.toList).source (normalize text.toList).tokens ∧
      (∃ inner, f.source = '(' :: (inner ++ [')']) ∧ normalize inner = normalize text.toList) ∧
      f.root.maxVariable < f.letters.length ∧
      ∀ bindings : List Bool, bindings.length = f.letters.length →
        f.evalWith bindings = .ok (f.root.eval bindings) ∧
          f.root.value? bindings = some (f.root.eval bindings) := by
  obtain ⟨hsource, hletters, -⟩ := parse_eq_ok.mp h
  have hnamed : Named text.toList f.letters := hletters ▸ named_normalize text.toList
  have hlast : f.root.maxVariable < f.letters.length := (mem_leaves_iff h).mp f.root.maxVariable_mem
  refine ⟨hsource, hletters, leaves_tokens h, letters_at_leaves h,
    ⟨hnamed, Nat.one_le_of_lt hlast, hnamed.length_le⟩, fun i => mem_leaves_iff h,
    hletters ▸ denotes_normalize text.toList, ⟨_, hsource.trans (source_normalize _), ?_⟩, hlast, ?_⟩
  · exact normalize_filter text.toList
  · intro bindings hlength
    refine ⟨by rw [evalWith, if_pos hlength], Expr.value?_eq_some fun i hi => ?_⟩
    rw [hlength]
    exact (mem_leaves_iff h).mp hi

/-- Empty groups leave no trace, and the second letter of the text is numbered first. -/
theorem leaves_are_letters_empty_group :
    ∃ f, parse "()(B → x ()A) ^ B" = .ok f ∧ f.letters = ['B', 'A'] ∧ f.root.leaves = [0, 1, 0] ∧
      f.root.maxVariable < f.letters.length := by
  have hf : parse "()(B → x ()A) ^ B" = .ok
      ⟨"(()(B→()A)^B)".toList, ['B', 'A'], .binary .and (.binary .implies (.var 0) (.var 1)) (.var 0)⟩ :=
    rfl
  obtain ⟨-, -, -, -, -, -, -, -, hlast, -⟩ := leaves_are_letters _ _ hf
  exact ⟨_, hf, rfl, rfl, hlast⟩

end Formula

end MediaCatalogue
