import MediaCatalogue.Formula.Basic
import MediaCatalogue.Proofs.Formula.Acceptance
import MediaCatalogue.Proofs.Formula.Nesting

/-! Formulas from text: a text compiles exactly when its glyphs are the content of a section, and the
leaves of the tree are the letters of the text in order. -/

namespace MediaCatalogue

namespace Formula

theorem eq_glyph_of_ofGlyph? {c : Char} {k : Connective} (h : Connective.ofGlyph? c = some k) :
    c = k.glyph := by
  have := List.find?_some h
  exact (beq_iff_eq.mp this).symm

theorem isVariable_glyph (k : Connective) : isVariable k.glyph = false := by
  cases k <;> rfl

theorem ofGlyph?_variable {c : Char} (h : isVariable c = true) : Connective.ofGlyph? c = none := by
  cases hk : Connective.ofGlyph? c with
  | none => rfl
  | some k =>
    rw [eq_glyph_of_ofGlyph? hk, isVariable_glyph] at h
    cases h

theorem tokenOf_variable (names : List Char) {c : Char} (h : isVariable c = true) :
    tokenOf names c = .variable (names.idxOf c) := by
  have hne : ∀ d, isVariable d = false → (c == d) = false := by
    intro d hd
    rw [beq_eq_false_iff_ne]
    rintro rfl
    simp [h] at hd
  simp [tokenOf, hne '(' rfl, hne ')' rfl, hne negationGlyph rfl, ofGlyph?_variable h]

theorem tokenOf_glyph (names : List Char) (k : Connective) : tokenOf names k.glyph = .connective k := by
  cases k <;> rfl

theorem isGlyph_variable {c : Char} (h : isVariable c = true) : isGlyph c = true := by
  simp [isGlyph, h]

theorem isGlyph_glyph (k : Connective) : isGlyph k.glyph = true := by
  simp [isGlyph]

theorem glyph_cases {c : Char} (h : isGlyph c = true) :
    isVariable c = true ∨ c = '(' ∨ c = ')' ∨ c = negationGlyph ∨ ∃ k : Connective, c = k.glyph := by
  simp only [isGlyph, Bool.or_eq_true, beq_iff_eq, Option.isSome_iff_exists] at h
  rcases h with (((h | h) | h) | h) | ⟨k, hk⟩
  · exact .inl h
  · exact .inr (.inl h)
  · exact .inr (.inr (.inl h))
  · exact .inr (.inr (.inr (.inl h)))
  · exact .inr (.inr (.inr (.inr ⟨k, eq_glyph_of_ofGlyph? hk⟩)))

def Token.index? : Token → Option Nat
  | .variable i => some i
  | _ => none

theorem index?_tokenOf (names : List Char) {c : Char} (h : isGlyph c = true) :
    (tokenOf names c).index? = if isVariable c then some (names.idxOf c) else none := by
  rcases glyph_cases h with h | rfl | rfl | rfl | ⟨k, rfl⟩
  · simp [tokenOf_variable names h, h, Token.index?]
  · rfl
  · rfl
  · rfl
  · simp [tokenOf_glyph, isVariable_glyph, Token.index?]

theorem tokenOf_parentheses (names : List Char) (c : Char) :
    (tokenOf names c == .opening) = (c == '(') ∧ (tokenOf names c == .closing) = (c == ')') := by
  by_cases hopen : c = '('
  · subst hopen
    exact ⟨rfl, rfl⟩
  by_cases hclose : c = ')'
  · subst hclose
    exact ⟨rfl, rfl⟩
  have hne : tokenOf names c ≠ .opening ∧ tokenOf names c ≠ .closing := by
    unfold tokenOf
    rw [if_neg (by simpa using hopen), if_neg (by simpa using hclose)]
    split
    · exact ⟨nofun, nofun⟩
    · split <;> exact ⟨nofun, nofun⟩
  rw [beq_eq_false_iff_ne.mpr hopen, beq_eq_false_iff_ne.mpr hclose]
  exact ⟨beq_eq_false_iff_ne.mpr hne.1, beq_eq_false_iff_ne.mpr hne.2⟩

def bodyTokens (text : List Char) : List Token :=
  (text.filter isGlyph).map (tokenOf (normalize text).letters)

theorem tokens_normalize (text : List Char) :
    (normalize text).tokens = .opening :: (bodyTokens text ++ [.closing]) := by
  simp only [normalize, bodyTokens, List.map_cons, List.map_append, List.map_nil]
  rfl

theorem letters_normalize (text : List Char) :
    (normalize text).letters = (text.filter isVariable).eraseDups := by
  simp only [normalize, List.filter_filter]
  congr 2
  funext c
  cases h : isVariable c with
  | false => rfl
  | true => simp [isGlyph_variable h]

theorem parse_eq_ok {text : String} {f : Formula} :
    parse text = .ok f ↔
      f.source = (normalize text.toList).source ∧ f.letters = (normalize text.toList).letters ∧
        ∃ d ps, d ≤ maxDepth ∧ Content d (bodyTokens text.toList) ps ∧ Shape ps (some f.root) := by
  have hroot : ∀ e, parseTokens (normalize text.toList).tokens (normalize text.toList).source = .ok e ↔
      ∃ d ps, d ≤ maxDepth ∧ Content d (bodyTokens text.toList) ps ∧ Shape ps (some e) := by
    intro e
    rw [parseTokens_eq_ok, tokens_normalize]
    constructor
    · intro h
      obtain ⟨d, ts, ps, hts, depth, content, shape⟩ := section_of_readTokens h
      obtain rfl := List.append_cancel_right (List.cons.inj hts).2
      exact ⟨d, ps, depth, content, shape⟩
    · rintro ⟨d, ps, depth, content, shape⟩
      exact readTokens_section content depth shape
  simp only [parse, bind_eq_ok, hroot]
  constructor
  · rintro ⟨e, h, hf⟩
    cases hf
    exact ⟨rfl, rfl, h⟩
  · rintro ⟨hsource, hletters, h⟩
    refine ⟨f.root, h, ?_⟩
    rw [← hsource, ← hletters]
    rfl

/-- The depth of the content of a text is how deep its parentheses nest. -/
theorem nesting_eq {d : Nat} {text : List Char} {ps : List Part} (h : Content d (bodyTokens text) ps) :
    nesting text = d := by
  have hd := h.deepest 0 []
  simp only [List.append_nil, Formula.deepest, Nat.zero_add, Nat.max_zero] at hd
  rw [← hd, bodyTokens, deepest_map _ _ _ _ _ fun c _ => tokenOf_parentheses _ c, nesting,
    deepest_filter]
  intro c hc
  constructor <;> rw [beq_eq_false_iff_ne] <;> rintro rfl <;> cases hc

def Part.leaves : Part → List Nat
  | .operand e => e.leaves
  | _ => []

theorem leaves_nots (n : Nat) : (nots n).flatMap Part.leaves = [] := by
  induction n with
  | zero => rfl
  | succ n ih => rw [nots_succ, List.flatMap_append, ih]; rfl

theorem leaves_signed (n : Nat) (e : Expr) : (signed n e).leaves = e.leaves := by
  unfold signed
  split <;> rfl

theorem leaves_join (e : Expr) (l : Link) :
    (Chain.join e l).leaves = e.leaves ++ l.parts.flatMap Part.leaves := by
  simp [Chain.join, Expr.leaves, Link.parts, leaves_nots, leaves_signed, Part.leaves]

theorem Chain.leaves_expr (c : Chain) : c.expr.leaves = c.parts.flatMap Part.leaves := by
  have hfold : ∀ (links : List Link) (e : Expr),
      (links.foldl Chain.join e).leaves = e.leaves ++ (links.flatMap Link.parts).flatMap Part.leaves := by
    intro links
    induction links with
    | nil => intro e; simp
    | cons l links ih => intro e; simp [ih, leaves_join]
  simp [Chain.expr, hfold, Chain.parts, leaves_nots, leaves_signed, Part.leaves]

theorem Shape.leaves {ps : List Part} {root : Option Expr} (h : Shape ps root) :
    (root.map Part.operand).toList.flatMap Part.leaves = ps.flatMap Part.leaves := by
  cases h with
  | @empty n _ => exact (leaves_nots n).symm
  | joined c _ => simpa [Part.leaves] using c.leaves_expr

/-- The leaves under the parts of a section are the variables among its tokens. -/
theorem Content.leaves {d : Nat} {ts : List Token} {ps : List Part} (h : Content d ts ps) :
    ps.flatMap Part.leaves = ts.filterMap Token.index? := by
  induction h with
  | nil => rfl
  | @plain d ts ps t p _ part ih =>
    have hp : p.leaves = t.index?.toList := by
      cases t <;> cases part <;> rfl
    rw [List.flatMap_append, ih, List.filterMap_append]
    cases ht : t.index? <;> simp [hp, ht]
  | @group d d' ts us ps qs root _ _ shape ih ih' =>
    have hgroup : (Token.opening :: (us ++ [.closing])).filterMap Token.index? =
        us.filterMap Token.index? := by
      rw [List.filterMap_cons_none rfl, List.filterMap_append]
      exact List.append_nil _
    rw [List.flatMap_append, ih, shape.leaves, ih', List.filterMap_append, hgroup]

theorem leaves_bodyTokens {text : String} {f : Formula} (h : parse text = .ok f) :
    f.root.leaves = (bodyTokens text.toList).filterMap Token.index? := by
  obtain ⟨-, -, d, ps, -, content, shape⟩ := parse_eq_ok.mp h
  rw [← content.leaves, ← shape.leaves]
  simp [Part.leaves]

/-- The leaves of a compiled tree are the letters of the text in order, each by its number. -/
theorem leaves_root {text : String} {f : Formula} (h : parse text = .ok f) :
    f.root.leaves = (text.toList.filter isVariable).map f.letters.idxOf := by
  rw [leaves_bodyTokens h, bodyTokens, ← (parse_eq_ok.mp h).2.1, List.filterMap_map]
  generalize text.toList = cs
  induction cs with
  | nil => rfl
  | cons c cs ih =>
    cases hg : isGlyph c with
    | false =>
      have hv : isVariable c = false := by
        cases hv : isVariable c with
        | false => rfl
        | true => simp [isGlyph_variable hv] at hg
      simpa [hg, hv] using ih
    | true =>
      have ht := index?_tokenOf f.letters hg
      cases hv : isVariable c <;> simp [hg, hv, ht] <;> simpa using ih

end Formula

end MediaCatalogue
