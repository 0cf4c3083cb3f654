import Mathlib
import MediaCatalogue.Proofs.Query.Faults

/-! How tokens can be written in a query. A token that is quoted where it has to be, or escaped
throughout, is read back as it is, whatever its characters and however many spaces stand around it. So a
condition is read back from its display. -/

namespace MediaCatalogue.Query

namespace Lexing

/-- The tokens that a text holds for one who has come to `state` before it. -/
def tokensFrom (state : Lexing) (text : List Char) : List (List Char) :=
  (state.run text).1 ++ (state.run text).2.flush

theorem tokensFrom_append (state : Lexing) (a b : List Char) :
    state.tokensFrom (a ++ b) = (state.run a).1 ++ (state.run a).2.tokensFrom b := by
  simp only [tokensFrom, run_append, List.append_assoc]

end Lexing

open Lexing

theorem tokenize_ofList (text : List Char) :
    tokenize (String.ofList text) = (gap.tokensFrom text).map String.ofList := by
  rw [tokenize, String.toList_ofList]
  rfl

def spaces (n : ℕ) : List Char := List.replicate n ' '

theorem run_spaces (n : ℕ) : gap.run (spaces n) = ([], gap) := by
  induction n with
  | zero => rfl
  | succ n ih =>
    rw [spaces, List.replicate_succ, run]
    simp only [step, spaces] at ih ⊢
    rw [ih]
    rfl

/-- The first space ends a word. -/
theorem run_spaces_word (read : List Char) (n : ℕ+) :
    (word read false false).run (spaces n) = ([read.reverse], gap) := by
  obtain ⟨k, hk⟩ := Nat.exists_eq_succ_of_ne_zero n.ne_zero
  have hrest := run_spaces k
  rw [spaces] at hrest
  rw [spaces, hk, List.replicate_succ, run]
  simp only [step, hrest]
  rfl

/-- Any character but a space begins a word. -/
theorem run_gap_cons {c : Char} (h : c ≠ ' ') (cs : List Char) :
    gap.run (c :: cs) = (word [] false false).run (c :: cs) := by
  have hstep : gap.step c = (word [] false false).step c := by
    simp only [step]
    split <;> simp_all
  rw [run, run, hstep]

def IsPlain (c : Char) : Prop := c ≠ ' ' ∧ c ≠ '"' ∧ c ≠ '\\'

theorem step_plain {c : Char} (h : IsPlain c) (read : List Char) (quoted : Bool) :
    (word read quoted false).step c = (word (c :: read) quoted false, none) := by
  obtain ⟨hspace, hquote, hslash⟩ := h
  unfold step
  split <;> simp_all

theorem run_plain {cs : List Char} (h : ∀ c ∈ cs, IsPlain c) (read : List Char) :
    (word read false false).run cs = ([], word (cs.reverse ++ read) false false) := by
  induction cs generalizing read with
  | nil => rfl
  | cons c cs ih =>
    rw [run, step_plain (h c List.mem_cons_self)]
    simp only [ih (fun d hd => h d (List.mem_cons_of_mem _ hd))]
    simp

/-- Between quotes the escaped characters stand for themselves, and so do spaces. -/
theorem run_escapeQuoted (cs read : List Char) :
    (word read true false).run (cs.flatMap escapeQuoted) =
      ([], word (cs.reverse ++ read) true false) := by
  induction cs generalizing read with
  | nil => rfl
  | cons c cs ih =>
    have hc : (word read true false).run (escapeQuoted c) = ([], word (c :: read) true false) := by
      by_cases hslash : c = '\\'
      · subst hslash; rfl
      by_cases hquote : c = '"'
      · subst hquote; rfl
      · simp [escapeQuoted, hslash, hquote, run, step]
    rw [List.flatMap_cons, run_append, hc, ih]
    simp

def escapeAll (cs : List Char) : List Char := cs.flatMap fun c => ['\\', c]

theorem run_escapeAll (cs read : List Char) :
    (word read false false).run (escapeAll cs) = ([], word (cs.reverse ++ read) false false) := by
  induction cs generalizing read with
  | nil => rfl
  | cons c cs ih =>
    have hc : (word read false false).run ['\\', c] = ([], word (c :: read) false false) := rfl
    rw [escapeAll] at ih ⊢
    rw [List.flatMap_cons, run_append, hc, ih]
    simp

theorem run_gap_escapeAll {cs : List Char} (h : cs ≠ []) :
    gap.run (escapeAll cs) = ([], word cs.reverse false false) := by
  have hrun := run_escapeAll cs []
  obtain ⟨c, cs, rfl⟩ := List.exists_cons_of_ne_nil h
  rw [List.append_nil, escapeAll, List.flatMap_cons, List.cons_append] at hrun
  rw [escapeAll, List.flatMap_cons, List.cons_append, run_gap_cons (by decide), hrun]

theorem isPlain_of_needsQuotes {cs : List Char} (h : needsQuotes cs = false) :
    cs ≠ [] ∧ ∀ c ∈ cs, IsPlain c := by
  simpa [needsQuotes, IsPlain, and_assoc] using h

theorem run_quoteChars (cs : List Char) :
    gap.run (quoteChars cs) = ([], word cs.reverse false false) := by
  unfold quoteChars
  split_ifs with h
  · have hclose : (word cs.reverse true false).run ['"'] = ([], word cs.reverse false false) := rfl
    have hopen : gap.step '"' = (word [] true false, none) := rfl
    rw [run, hopen]
    simp only [run_append, run_escapeQuoted, List.append_nil, hclose]
    rfl
  · obtain ⟨hne, hplain⟩ := isPlain_of_needsQuotes (Bool.eq_false_of_not_eq_true h)
    have hrun := run_plain hplain []
    obtain ⟨c, cs, rfl⟩ := List.exists_cons_of_ne_nil hne
    rw [run_gap_cons (hplain c List.mem_cons_self).1, hrun, List.append_nil]

inductive Spelling where
  /-- Quoted, if that is needed. -/
  | quoted (token : String)
  /-- With a backslash in front of every character. The empty token cannot be written so. -/
  | escaped (token : String) (nonempty : token ≠ "")

namespace Spelling

def token : Spelling → String
  | quoted token => token
  | escaped token _ => token

def chars : Spelling → List Char
  | quoted token => (quoteToken token).toList
  | escaped token _ => escapeAll token.toList

theorem run_chars (s : Spelling) :
    gap.run s.chars = ([], word s.token.toList.reverse false false) := by
  cases s with
  | quoted token =>
    rw [chars, quoteToken, String.toList_ofList]
    exact run_quoteChars token.toList
  | escaped token nonempty =>
    have hne : token.toList ≠ [] := by simpa using nonempty
    exact run_gap_escapeAll hne

end Spelling

/-- Spellings in a line: spaces, a spelling, further ones behind their own numbers of spaces, spaces. -/
def lineChars (lead : ℕ) (first : Spelling) (others : List (ℕ+ × Spelling)) (trail : ℕ) :
    List Char :=
  spaces lead ++ (first.chars ++
    (others.flatMap (fun other => spaces other.1 ++ other.2.chars) ++ spaces trail))

theorem tokensFrom_others (others : List (ℕ+ × Spelling)) (trail : ℕ) (read : List Char) :
    (word read false false).tokensFrom
        (others.flatMap (fun other => spaces other.1 ++ other.2.chars) ++ spaces trail) =
      read.reverse :: others.map (·.2.token.toList) := by
  induction others generalizing read with
  | nil =>
    -- the last token is ended by a space or by the end of the text
    rw [List.flatMap_nil, List.nil_append, tokensFrom]
    cases trail with
    | zero => rfl
    | succ n =>
      have hspaces := run_spaces_word read n.succPNat
      rw [Nat.succPNat_coe] at hspaces
      rw [hspaces]
      rfl
  | cons other others ih =>
    rw [List.flatMap_cons, List.append_assoc, List.append_assoc, tokensFrom_append, run_spaces_word,
      tokensFrom_append, other.2.run_chars, ih]
    simp

theorem tokenize_lineChars (lead : ℕ) (first : Spelling) (others : List (ℕ+ × Spelling))
    (trail : ℕ) :
    tokenize (String.ofList (lineChars lead first others trail)) =
      first.token :: others.map (·.2.token) := by
  rw [tokenize_ofList, lineChars, tokensFrom_append, run_spaces, tokensFrom_append, first.run_chars,
    tokensFrom_others]
  simp

def queryOf (tokens : List String) : String := " ".intercalate (tokens.map quoteToken)

/-- One space stands between two tokens. -/
theorem queryOf_cons (token : String) (tokens : List String) :
    queryOf (token :: tokens) =
      String.ofList (lineChars 0 (.quoted token) (tokens.map fun t => (1, .quoted t)) 0) := by
  apply String.toList_injective
  induction tokens generalizing token with
  | nil => simp [queryOf, lineChars, spaces, Spelling.chars]
  | cons other tokens ih =>
    have hfirst : queryOf (token :: other :: tokens) = quoteToken token ++ " " ++ queryOf (other :: tokens) :=
      String.intercalate_cons_cons
    rw [hfirst, String.toList_append, ih]
    simp [lineChars, spaces, Spelling.chars]

theorem tokenize_queryOf (tokens : List String) : tokenize (queryOf tokens) = tokens := by
  cases tokens with
  | nil => rfl
  | cons token tokens =>
    rw [queryOf_cons, tokenize_lineChars, List.map_map]
    exact congrArg (token :: ·) (List.map_id tokens)

theorem quoteToken_token (o : Operator) : quoteToken o.token = o.token := by
  cases o <;> decide +kernel

theorem tokenize_display (c : Condition) :
    tokenize c.display = [c.left, c.operator.token, c.right] := by
  -- an operator needs no quotes, so the display is three quoted tokens in a line
  have hline : c.display = String.ofList
      (lineChars 0 (.quoted c.left) [(1, .quoted c.operator.token), (1, .quoted c.right)] 0) := by
    rw [Condition.display, ← quoteToken_token c.operator]
    apply String.toList_injective
    simp [lineChars, spaces, Spelling.chars, quoteToken_token]
  rw [hline, tokenize_lineChars]
  rfl

theorem signOf_token (o : Operator) : Clause.signOf o.token = (false, o.token) := by
  cases o <;> decide +kernel

theorem conditionOf_token {left operator right : String} {negated : Bool} {c : Condition}
    (h : Clause.conditionOf left operator right = .ok (negated, c)) :
    Clause.conditionOf c.left c.operator.token c.right = .ok (false, c) := by
  obtain ⟨o, -, -, rfl, compiles⟩ := conditionOf_eq_ok_iff.mp h
  have hsign := signOf_token o
  rw [signOf_eq, Prod.mk.injEq] at hsign
  refine conditionOf_eq_ok_iff.mpr ⟨o, ?_, hsign.1.symm, rfl, compiles⟩
  rw [Names, hsign.2]
  exact sameName_refl o.token

theorem Tail.conditionOf {tokens : List String} {k : Option Connective} {cs : List Clause}
    (h : Tail tokens k cs) {c : Clause} (hc : c ∈ cs) :
    ∃ left operator right,
      Clause.conditionOf left operator right = .ok (c.negated, c.condition) := by
  induction h with
  | nil => cases hc
  | cons _ head _ ih =>
    obtain rfl | hc := List.mem_cons.mp hc
    · exact ⟨_, _, _, head⟩
    · exact ih hc

theorem Written.conditionOf {tokens : List String} {first : Clause} {rest : List Clause}
    (h : Written tokens first rest) {c : Clause} (hc : c ∈ first :: rest) :
    ∃ left operator right,
      Clause.conditionOf left operator right = .ok (c.negated, c.condition) := by
  cases h with
  | mk head tail =>
    obtain rfl | hc := List.mem_cons.mp hc
    · exact ⟨_, _, _, head⟩
    · exact tail.conditionOf hc

/-- The display of a condition that was read is a query for this condition alone. -/
theorem compile_display {query : String} {criteria : Criteria}
    (h : Criteria.compile query = .ok criteria) {c : Condition} (hc : c ∈ criteria.conditions) :
    Criteria.compile c.display = .ok ⟨[c], ⟨"(A)".toList, ['A'], .var 0⟩⟩ := by
  obtain ⟨first, rest, hw, -, rfl⟩ := ofTokens_eq_ok_iff.mp (compile_eq_ok.mp h)
  obtain ⟨clause, hclause, rfl⟩ := List.mem_map.mp hc
  obtain ⟨left, operator, right, hread⟩ := hw.conditionOf hclause
  have hone : 1 ≤ maxConditions := by decide
  rw [compile_eq_ok, tokenize_display, ofTokens_eq_ok_iff]
  exact ⟨_, [], .mk (conditionOf_token hread) .nil, hone, rfl⟩

/-- However tokens are written, with quotes where they are needed or escaped throughout, and whatever
spaces stand between and around them, they are read back. So is a condition from its display, which is
itself a query for that condition. -/
theorem tokenize_written :
    (∀ n, tokenize (String.ofList (spaces n)) = []) ∧
      (∀ lead first others trail, tokenize (String.ofList (lineChars lead first others trail)) =
        first.token :: others.map (·.2.token)) ∧
      (∀ c : Condition, tokenize c.display = [c.left, c.operator.token, c.right]) ∧
      ∀ query criteria, Criteria.compile query = .ok criteria → ∀ c ∈ criteria.conditions,
        Criteria.compile c.display = .ok ⟨[c], ⟨"(A)".toList, ['A'], .var 0⟩⟩ := by
  refine ⟨?_, tokenize_lineChars, tokenize_display, fun _ _ h _ hc => compile_display h hc⟩
  intro n
  rw [tokenize_ofList, tokensFrom, run_spaces]
  rfl

end MediaCatalogue.Query
