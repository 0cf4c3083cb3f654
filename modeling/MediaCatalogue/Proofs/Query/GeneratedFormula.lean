import MediaCatalogue.Proofs.FirstOccurrence
import MediaCatalogue.Proofs.Formula.Compiled
import MediaCatalogue.Proofs.Query.Clauses

/-! The formula that a query generates. Its text always compiles: the condition `i` becomes the variable
`i`, under the letter `i`, and the tree joins the conditions from left to right. -/

namespace MediaCatalogue.Query

open Formula

def clauseChars (letters : List Char) (cs : List Clause) : List Char :=
  (List.zipWith Clause.formulaChars letters cs).flatten

def clauseTokens (i : Nat) : List Clause → List Token
  | [] => []
  | c :: cs =>
    (if c.negated then [.not] else []) ++
      .variable i :: ((c.next.map Token.connective).toList ++ clauseTokens (i + 1) cs)

def clauseParts (i : Nat) : List Clause → List Part
  | [] => []
  | c :: cs =>
    (if c.negated then [.not] else []) ++
      .operand (.var i) :: ((c.next.map Part.connective).toList ++ clauseParts (i + 1) cs)

def signsOf (c : Clause) : Nat := if c.negated then 1 else 0

/-- The links of clauses to the operand in front of them, behind which the connective `k` stands. -/
def clauseLinks (i : Nat) : Option Connective → List Clause → List Link
  | some k, c :: cs => ⟨0, k, signsOf c, .var i⟩ :: clauseLinks (i + 1) c.next cs
  | _, _ => []

def clauseChain (c : Clause) (cs : List Clause) : Chain where
  signs := signsOf c
  first := .var 0
  links := clauseLinks 1 c.next cs
  trailing := 0

theorem clauseChars_cons (l : Char) (ls : List Char) (c : Clause) (cs : List Clause) :
    clauseChars (l :: ls) (c :: cs) =
      (if c.negated then [negationGlyph] else []) ++
        l :: ((c.next.map (·.glyph)).toList ++ clauseChars ls cs) := by
  simp [clauseChars, Clause.formulaChars]

theorem filter_isGlyph_clauseChars (cs : List Clause) (letters : List Char)
    (h : ∀ l ∈ letters, isVariable l = true) :
    (clauseChars letters cs).filter isGlyph = clauseChars letters cs := by
  rw [List.filter_eq_self]
  intro ch hch
  simp only [clauseChars, List.mem_flatten] at hch
  obtain ⟨text, htext, hch⟩ := hch
  rw [← List.map_uncurry_zip_eq_zipWith, List.mem_map] at htext
  obtain ⟨⟨l, c⟩, hlc, rfl⟩ := htext
  change ch ∈ c.formulaChars l at hch
  simp only [Clause.formulaChars, List.mem_append, List.mem_cons, Option.mem_toList,
    Option.map_eq_some_iff] at hch
  rcases hch with hch | rfl | ⟨k, -, rfl⟩
  · split at hch
    · obtain rfl := List.mem_singleton.mp hch
      rfl
    · cases hch
  · exact isGlyph_variable (h _ (List.of_mem_zip hlc).1)
  · exact isGlyph_glyph k

theorem letters_clauseChars (cs : List Clause) (letters : List Char)
    (h : ∀ l ∈ letters, isVariable l = true) :
    (clauseChars letters cs).filter isVariable = letters.take cs.length := by
  induction cs generalizing letters with
  | nil => simp [clauseChars]
  | cons c cs ih =>
    cases letters with
    | nil => simp [clauseChars]
    | cons l ls =>
      have hsign : (if c.negated then [negationGlyph] else []).filter isVariable = [] := by
        split <;> rfl
      have hnext : (c.next.map (·.glyph)).toList.filter isVariable = [] := by
        cases c.next with
        | none => rfl
        | some k => exact List.filter_cons_of_neg (by simp [isVariable_glyph])
      rw [clauseChars_cons, List.filter_append, hsign, List.nil_append,
        List.filter_cons_of_pos (h l List.mem_cons_self), List.filter_append, hnext, List.nil_append,
        ih ls fun l' hl' => h l' (List.mem_cons_of_mem l hl'), List.length_cons, List.take_succ_cons]

/-- The letters in front of a clause's own letter are the numbers in front of its own number. -/
theorem tokens_clauseChars (cs : List Clause) (before letters : List Char)
    (h : ∀ l ∈ letters, isVariable l = true) (distinct : (before ++ letters).Nodup)
    (enough : cs.length ≤ letters.length) :
    (clauseChars letters cs).map (tokenOf (before ++ letters.take cs.length)) =
      clauseTokens before.length cs := by
  induction cs generalizing before letters with
  | nil => simp [clauseChars, clauseTokens]
  | cons c cs ih =>
    cases letters with
    | nil => simp at enough
    | cons l ls =>
      have ih := ih (before ++ [l]) ls (fun l' hl' => h l' (List.mem_cons_of_mem l hl'))
        (by simpa using distinct) (by simpa using enough)
      have hl : l ∉ before := fun hmem => List.nodup_append.mp distinct |>.2.2 l hmem l
        List.mem_cons_self rfl
      have hidx : (before ++ l :: ls.take cs.length).idxOf l = before.length := by
        rw [List.idxOf_append, if_neg hl, List.idxOf_cons_self, Nat.zero_add]
      rw [List.append_assoc, List.singleton_append, List.length_append, List.length_singleton] at ih
      rw [clauseChars_cons, List.length_cons, List.take_succ_cons, clauseTokens, List.map_append,
        List.map_cons, List.map_append, ih, tokenOf_variable _ (h l List.mem_cons_self), hidx]
      congr 1
      · split <;> rfl
      · congr 2
        cases c.next with
        | none => rfl
        | some k => exact congrArg (· :: []) (tokenOf_glyph _ k)

theorem part?_clauseTokens (i : Nat) (cs : List Clause) :
    (clauseTokens i cs).map Token.part? = (clauseParts i cs).map some := by
  induction cs generalizing i with
  | nil => rfl
  | cons c cs ih =>
    have hsign : (if c.negated then [Token.not] else []).map Token.part? =
        (if c.negated then [Part.not] else []).map some := by
      split <;> rfl
    have hnext : (c.next.map Token.connective).toList.map Token.part? =
        (c.next.map Part.connective).toList.map some := by
      cases c.next <;> rfl
    simp only [clauseTokens, clauseParts, List.map_append, List.map_cons, hsign, hnext, ih, Token.part?]

theorem parts_links {tokens : List String} {k : Option Connective} {cs : List Clause}
    (h : Tail tokens k cs) (i : Nat) :
    (clauseLinks i k cs).flatMap Link.parts =
      (k.map Part.connective).toList ++ clauseParts i cs := by
  induction h generalizing i with
  | nil => rfl
  | @cons _ _ _ _ k negated _ _ _ _ _ _ _ ih =>
    rw [clauseLinks, List.flatMap_cons, ih, clauseParts]
    cases negated <;> simp [Link.parts, signsOf, nots]

theorem parts_clauseChain {tokens : List String} {c : Clause} {cs : List Clause}
    (h : Written tokens c cs) : (clauseChain c cs).parts = clauseParts 0 (c :: cs) := by
  cases h with
  | @mk _ _ _ negated _ _ _ _ _ tail =>
    rw [Chain.parts, clauseChain, parts_links tail, clauseParts]
    cases negated <;> simp [signsOf, nots]

theorem isVariable_variableLetters : ∀ l ∈ variableLetters, isVariable l = true := by
  rw [← List.all_eq_true]
  decide

theorem nodup_variableLetters : variableLetters.Nodup := by
  decide +kernel

/-- The formula of clauses: one variable for each, in order, and the conditions joined in order. -/
def generatedFormula (c : Clause) (cs : List Clause) : Formula where
  source := '(' :: (clauseChars variableLetters (c :: cs) ++ [')'])
  letters := variableLetters.take (c :: cs).length
  root := (clauseChain c cs).expr

theorem parse_formulaText {tokens : List String} {c : Clause} {cs : List Clause}
    (h : Written tokens c cs) (few : (c :: cs).length ≤ maxConditions) :
    Formula.parse (formulaText (c :: cs)) = .ok (generatedFormula c cs) := by
  have hchars : (formulaText (c :: cs)).toList = clauseChars variableLetters (c :: cs) := by
    rw [formulaText, String.toList_ofList, clauseChars]
  have hletters : (Formula.normalize (clauseChars variableLetters (c :: cs))).letters =
      variableLetters.take (c :: cs).length := by
    rw [letters_normalize, letters_clauseChars _ _ isVariable_variableLetters]
    exact eraseDups_of_nodup (nodup_variableLetters.sublist (List.take_sublist _ _))
  have hbody : bodyTokens (clauseChars variableLetters (c :: cs)) = clauseTokens 0 (c :: cs) := by
    rw [bodyTokens, hletters, filter_isGlyph_clauseChars _ _ isVariable_variableLetters]
    exact tokens_clauseChars (c :: cs) [] variableLetters isVariable_variableLetters
      nodup_variableLetters few
  have content : Content 0 ([] ++ clauseTokens 0 (c :: cs)) ([] ++ clauseParts 0 (c :: cs)) :=
    .plains .nil (part?_clauseTokens 0 (c :: cs))
  rw [Formula.parse_eq_ok, hchars, hletters, hbody]
  refine ⟨?_, rfl, 0, _, Nat.zero_le _, content, ?_⟩
  · rw [Formula.normalize, filter_isGlyph_clauseChars _ _ isVariable_variableLetters]
    rfl
  · rw [← parts_clauseChain h]
    exact .joined _ rfl

/-- What a query compiles to: its conditions in order and the formula of its clauses. -/
theorem ofTokens_eq_ok_iff {tokens : List String} {criteria : Criteria} :
    Criteria.ofTokens tokens = .ok criteria ↔
      ∃ c cs, Written tokens c cs ∧ (c :: cs).length ≤ maxConditions ∧
        criteria = ⟨(c :: cs).map (·.condition), generatedFormula c cs⟩ := by
  rw [ofTokens_eq_ok]
  constructor
  · rintro ⟨c, cs, hw, few, hconditions, hformula⟩
    rw [parse_formulaText hw few, Except.ok.injEq] at hformula
    refine ⟨c, cs, hw, few, ?_⟩
    rw [← hconditions, hformula]
  · rintro ⟨c, cs, hw, few, rfl⟩
    exact ⟨c, cs, hw, few, rfl, parse_formulaText hw few⟩

end MediaCatalogue.Query
