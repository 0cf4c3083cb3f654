import Mathlib
import MediaCatalogue.Proofs.Formula.Continuation
import MediaCatalogue.Proofs.Text.Lines

/-! Where a fault of a formula is reported: at a token, with one whole section in front of it or with the
beginning of one. What is in front of a reported fault goes on to a formula unless it has a misplaced
group, which is reported itself only once it has been read. -/

namespace MediaCatalogue.Formula

/-- Whether a fault lies in a section: it is not about what stands behind one, nor worded by a caller. -/
def Fault.isInside : Fault → Bool
  | trailingContent | reported _ => false
  | _ => true

theorem Fault.ne_of_isInside {fault : Fault} (h : fault.isInside = true) :
    fault ≠ .trailingContent ∧ ∀ m, fault ≠ .reported m := by
  constructor
  · rintro rfl
    cases h
  · rintro m rfl
    cases h

theorem blame_eq_error {α : Type} {position p : Nat} {fault : Fault} {x : Except Fault α} :
    blame position x = .error (fault, p) ↔ x = .error fault ∧ position = p := by
  cases x <;> simp [blame]

namespace Frame

variable {f : Frame} {fault : Fault}

theorem isInside_of_feed {p : Part} (h : f.feed p = .error fault) : fault.isInside = true := by
  cases p with
  | not => cases h
  | connective c =>
    simp only [feed, connect] at h
    split at h <;> cases h <;> rfl
  | operand e =>
    simp only [feed, operand] at h
    split at h <;> cases h
    rfl

theorem isInside_of_close (h : f.close = .error fault) : fault.isInside = true := by
  unfold close at h
  split at h
  · cases h
    rfl
  · split at h <;> cases h
    rfl

end Frame

namespace Reading

variable {s : Reading} {f : Frame} {outer : List Frame} {position p : Nat} {fault : Fault}
  {t : Token} {ts : List Token}

theorem run_eq_error {b : Blame} (h : s.run position ts = .error b) :
    ∃ front t back r, ts = front ++ t :: back ∧ s.run position front = .ok r ∧
      r.step (position + front.length) t = .error b := by
  induction ts generalizing s position with
  | nil => cases h
  | cons t ts ih =>
    obtain hstep | ⟨r, hr, hrun⟩ := bind_eq_error.mp h
    · exact ⟨[], t, ts, s, rfl, rfl, hstep⟩
    · obtain ⟨front, t', back, r', rfl, hfront, hstep⟩ := ih hrun
      refine ⟨t :: front, t', back, r', rfl, run_cons_eq_ok.mpr ⟨r, hr, hfront⟩, ?_⟩
      rw [List.length_cons, Nat.add_comm front.length, ← Nat.add_assoc]
      exact hstep

/-- A part that does not fit is refused where it stands. -/
theorem step_part_eq_error {q : Part} (ht : t.part? = some q) :
    (inside f outer).step position t = .error (fault, p) ↔ f.feed q = .error fault ∧ position = p := by
  cases t with
  | «variable» i =>
    cases ht
    simp only [step, map_eq_error, blame_eq_error, Frame.feed]
  | connective c =>
    cases ht
    simp only [step, map_eq_error, blame_eq_error, Frame.feed]
  | not =>
    cases ht
    simp [step, Frame.feed]
  | opening => cases ht
  | closing => cases ht

/-- A group does not close, or there is no place for it where it opened. -/
theorem step_closing_eq_error (h : (inside f outer).step position .closing = .error (fault, p)) :
    f.close = .error fault ∧ position = p ∨
      ∃ g fs e, outer = g :: fs ∧ g.operand e = .error fault ∧ f.opened = p := by
  simp only [step, bind_eq_error, blame_eq_error, blame_eq_ok] at h
  obtain h | ⟨root, -, hleave⟩ := h
  · exact .inl h
  · cases outer with
    | nil => cases hleave
    | cons g fs =>
      cases root with
      | none => cases hleave
      | some e =>
        simp only [leave, map_eq_error, blame_eq_error] at hleave
        exact .inr ⟨g, fs, e, rfl, hleave⟩

/-- What stands in front of a fault: one whole section, or the beginning of one. -/
inductive Precedes : List Token → Fault → Prop
  | whole {root : Option Expr} {ts : List Token} (h : Follows (done root) ts) :
      Precedes ts .trailingContent
  | beginning {fs : List Frame} {ts : List Token} {fault : Fault} (h : Opens fs ts)
      (inside : fault.isInside = true) : Precedes ts fault

/-- In front of a group that is open there is the beginning of the sections around it. -/
theorem Opens.around (h : Opens (f :: outer) ts) :
    f.opened < ts.length ∧ Opens outer (ts.take f.opened) := by
  cases h with
  | cons around content state depth =>
    rw [(Frame.stands_of_feedAll state).opened_eq]
    refine ⟨by simp, ?_⟩
    rw [List.take_left]
    exact around

/-- A token is refused at its own place or at that of a group in front of it. -/
theorem Follows.precedes_of_step (h : Follows s ts) (hs : s.step ts.length t = .error (fault, p)) :
    p ≤ ts.length ∧ Precedes (ts.take p) fault := by
  have here : ∀ {fs : List Frame}, Opens fs ts → fault.isInside = true → ts.length = p →
      p ≤ ts.length ∧ Precedes (ts.take p) fault := by
    rintro fs hopens hinside rfl
    rw [List.take_length]
    exact ⟨le_rfl, .beginning hopens hinside⟩
  cases h with
  | start =>
    cases t <;> simp only [Reading.step, reduceCtorEq, Except.error.injEq, Prod.mk.injEq] at hs <;>
      exact here .nil (hs.1 ▸ rfl) hs.2
  | @inside f outer ts h =>
    cases ht : t.part? with
    | some q =>
      obtain ⟨hfeed, hp⟩ := (step_part_eq_error ht).mp hs
      exact here h (Frame.isInside_of_feed hfeed) hp
    | none =>
      cases t with
      | «variable» _ | connective _ | not => cases ht
      | opening =>
        simp only [Reading.step] at hs
        split at hs
        · cases hs
        · cases hs
          exact here h rfl rfl
      | closing =>
        obtain ⟨hclose, hp⟩ | ⟨g, fs, e, rfl, hoperand, rfl⟩ := step_closing_eq_error hs
        · exact here h (Frame.isInside_of_close hclose) hp
        · have hinside := Frame.isInside_of_feed (p := .operand e) hoperand
          exact ⟨h.around.1.le, .beginning h.around.2 hinside⟩
  | done content depth shape =>
    cases hs
    rw [List.take_length]
    exact ⟨le_rfl, .whole (.done content depth shape)⟩

/-- A list that ends too early is to blame at the group that is open, and one without a tree at its
start. -/
theorem Follows.precedes_of_finish (h : Follows s ts) (hs : s.finish = .error (fault, p)) :
    (ts = [] ∧ p = 0 ∨ p < ts.length) ∧ Precedes (ts.take p) fault := by
  cases h with
  | start =>
    cases hs
    exact ⟨.inl ⟨rfl, rfl⟩, .beginning .nil rfl⟩
  | inside h =>
    cases hs
    exact ⟨.inr h.around.1, .beginning h.around.2 rfl⟩
  | @done d ts ps root content depth shape =>
    cases root with
    | none =>
      cases hs
      exact ⟨.inr (Nat.succ_pos _), .beginning .nil rfl⟩
    | some e => cases hs

end Reading

open Reading in
theorem precedes_of_readTokens {tokens : List Token} {fault : Fault} {p : Nat}
    (h : readTokens tokens = .error (fault, p)) :
    (tokens = [] ∧ p = 0 ∨ p < tokens.length) ∧ Precedes (tokens.take p) fault := by
  obtain hrun | ⟨s, hs, hfinish⟩ := bind_eq_error.mp h
  · obtain ⟨front, t, back, s, rfl, hs, hstep⟩ := run_eq_error hrun
    have follows : Follows s front := Follows.run .start hs
    rw [Nat.zero_add] at hstep
    obtain ⟨hp, hprecedes⟩ := follows.precedes_of_step hstep
    refine ⟨.inr ?_, ?_⟩
    · rw [List.length_append, List.length_cons]
      omega
    · rw [List.take_append_of_le_length hp]
      exact hprecedes
  · exact (Follows.run .start hs).precedes_of_finish hfinish

theorem parseTokens_eq_error {tokens : List Token} {source : List Char} {e : Error} :
    parseTokens tokens source = .error e ↔
      ∃ fault p, readTokens tokens = .error (fault, p) ∧ e = .malformed fault source p := by
  unfold parseTokens
  cases hread : readTokens tokens with
  | ok e => simp
  | error b => simp [Prod.ext_iff, eq_comm]

/-! The text of an error -/

theorem toList_quotedGlyph (c : Connective) : (quotedGlyph c).toList = ['\'', c.glyph, '\''] := by
  cases c <;> rfl

theorem newline_notMem_message {fault : Fault} (h : ∀ m, fault ≠ .reported m) :
    '\n' ∉ fault.message.toList := by
  have hglyph : ∀ c : Connective, '\n' ≠ c.glyph := by
    intro c
    cases c <;> decide
  cases fault with
  | reported m => exact absurd rfl (h m)
  | noLeftOperand c => simp [Fault.message, toList_quotedGlyph, hglyph]
  | noOperandBetween c pending => simp [Fault.message, toList_quotedGlyph, hglyph]
  | noRightOperand c => simp [Fault.message, toList_quotedGlyph, hglyph]
  | _ => simp [Fault.message]

theorem newline_notMem_source (text : List Char) : '\n' ∉ (normalize text).source := by
  rw [source_normalize, List.mem_cons, List.mem_append, List.mem_filter, List.mem_singleton]
  rintro (h | ⟨-, h⟩ | h) <;> cases h

/-- The lines of an error whose place is in the text: the third one has a caret in the column in which the
second one has the character to blame. -/
theorem lines_display {fault : Fault} {source : List Char} {p : Nat} (hp : p ≤ source.length)
    (hmessage : '\n' ∉ fault.message.toList) (hsource : '\n' ∉ source) :
    (Error.malformed fault source p).display.toList.splitOn '\n' =
      [("malformed formula: " ++ fault.message).toList, ' ' :: ' ' :: source,
        ' ' :: ' ' :: (List.replicate p ' ' ++ ['^'])] := by
  have hdisplay : (Error.malformed fault source p).display =
      "malformed formula: " ++ fault.message ++ "\n  " ++ String.ofList source ++ "\n  " ++
        "".pushn ' ' (min p source.length) ++ "^" := rfl
  have hindent : "\n  ".toList = ['\n', ' ', ' '] := rfl
  have hcaret : "^".toList = ['^'] := rfl
  have hlines : (Error.malformed fault source p).display.toList =
      ['\n'].intercalate [("malformed formula: " ++ fault.message).toList, ' ' :: ' ' :: source,
        ' ' :: ' ' :: (List.replicate p ' ' ++ ['^'])] := by
    rw [hdisplay, Nat.min_eq_left hp]
    simp only [String.toList_append, String.toList_ofList, toList_pushn, String.toList_empty, hindent,
      hcaret, List.nil_append, List.intercalate_cons_cons, List.intercalate_singleton,
      List.append_assoc, List.cons_append]
  rw [hlines]
  refine List.splitOn_intercalate '\n' ?_ (List.cons_ne_nil _ _)
  simp only [List.forall_mem_cons, List.not_mem_nil, false_implies, implies_true, and_true]
  have hspaces : '\n' ∉ List.replicate p ' ' := fun h => absurd (List.eq_of_mem_replicate h) (by decide)
  refine ⟨?_, ?_, ?_⟩
  · simp [hmessage]
  · simp [hsource]
  · simp [hspaces]

/-! Places -/

/-- What the place `p` of a fault says of the tokens. -/
structure Locates (tokens : List Token) (fault : Fault) (p : Nat) : Prop where
  /-- A token is there, unless there are none at all. -/
  stands : tokens = [] ∧ p = 0 ∨ p < tokens.length
  /-- Only in front of trailing content there is one whole section. -/
  whole : fault = .trailingContent → ∃ (d : Nat) (ts : List Token) (ps : List Part) (root : Option Expr),
    tokens.take p = Token.opening :: (ts ++ [Token.closing]) ∧ d ≤ maxDepth ∧ Content d ts ps ∧
      Shape ps root
  /-- In front of any other fault there is the beginning of a formula, or a misplaced group. -/
  continues_iff : fault ≠ .trailingContent →
    (Continues (tokens.take p) ↔ ¬ Misplaced (tokens.take p))

theorem locates_of_readTokens {tokens : List Token} {fault : Fault} {p : Nat}
    (h : readTokens tokens = .error (fault, p)) :
    Locates tokens fault p ∧ ∀ m, fault ≠ .reported m := by
  obtain ⟨hp, hprecedes⟩ := precedes_of_readTokens h
  generalize hfront : tokens.take p = front at hprecedes
  cases hprecedes with
  | whole follows =>
    refine ⟨⟨hp, fun _ => ?_, fun hne => absurd rfl hne⟩, nofun⟩
    rw [hfront]
    cases follows with
    | done content depth shape => exact ⟨_, _, _, _, rfl, depth, content, shape⟩
  | beginning hopens hinside =>
    obtain ⟨hne, hreported⟩ := Fault.ne_of_isInside hinside
    refine ⟨⟨hp, fun htrailing => absurd htrailing hne, fun _ => ?_⟩, hreported⟩
    rw [hfront]
    exact hopens.continues_iff

/-- A list that is refused is refused at the place of a token, or at 0 if it is empty. If there is content
behind a section, then exactly this section is in front of the place. In front of any other fault the
tokens go on to a formula, except just if they have a variable in a group that stands behind an operand
without a connective between: that fault is reported once the group has been read, so that any fault in
the group comes first. For a text the error has the reduced text, its place is one in there, and the lines
of the error show a caret in the column of the character at this place. -/
theorem faults_are_located :
    (∀ tokens source e, parseTokens tokens source = .error e →
      ∃ fault p, e = .malformed fault source p ∧ Locates tokens fault p) ∧
    ∀ text e, parse text = .error e →
      ∃ fault p, e = .malformed fault (normalize text.toList).source p ∧
        Locates (normalize text.toList).tokens fault p ∧ p < (normalize text.toList).source.length ∧
        e.display.toList.splitOn '\n' =
          [("malformed formula: " ++ fault.message).toList, ' ' :: ' ' :: (normalize text.toList).source,
            ' ' :: ' ' :: (List.replicate p ' ' ++ ['^'])] := by
  constructor
  · intro tokens source e h
    obtain ⟨fault, p, hread, rfl⟩ := parseTokens_eq_error.mp h
    exact ⟨fault, p, rfl, (locates_of_readTokens hread).1⟩
  · intro text e h
    have htokens : parseTokens (normalize text.toList).tokens (normalize text.toList).source =
        .error e := by
      obtain h | ⟨root, -, h⟩ := bind_eq_error.mp h
      · exact h
      · cases h
    obtain ⟨fault, p, hread, rfl⟩ := parseTokens_eq_error.mp htokens
    obtain ⟨hlocates, hreported⟩ := locates_of_readTokens hread
    have hlength : (normalize text.toList).tokens.length = (normalize text.toList).source.length :=
      List.length_map _
    have hp : p < (normalize text.toList).source.length := by
      rw [← hlength]
      obtain ⟨hnil, -⟩ | hp := hlocates.stands
      · rw [tokens_normalize] at hnil
        cases hnil
      · exact hp
    exact ⟨fault, p, rfl, hlocates, hp, lines_display hp.le (newline_notMem_message hreported)
      (newline_notMem_source text.toList)⟩

/-- Two connectives in a row are refused in a group that has no connective in front of it. No connective
is missing in front of them that could still be put in. -/
theorem fault_in_misplaced_group :
    parse "A(B^^C)" =
        .error (.malformed (.noOperandBetween .and .and) ['(', 'A', '(', 'B', '^', '^', 'C', ')', ')'] 5) ∧
      parseTokens (normalize "A(B^^C)".toList).tokens (normalize "A(B^^C)".toList).source =
        .error (.malformed (.noOperandBetween .and .and) (normalize "A(B^^C)".toList).source 5) ∧
      ¬ ∃ more e, ∀ source,
        parseTokens ((normalize "A(B^^C)".toList).tokens.take 5 ++ more) source = .ok e := by
  have hfront : (normalize "A(B^^C)".toList).tokens.take 5 =
      [] ++ Token.opening :: ([Token.variable 0] ++ Token.opening ::
        ([] ++ Token.variable 1 :: [Token.connective .and])) := by
    decide +kernel
  have hoperand : Content 0 [.variable 0] (Chain.parts ⟨0, .var 0, [], 0⟩) := Content.nil.variable 0
  have hends : ¬ Continues ((normalize "A(B^^C)".toList).tokens.take 5) := by
    rw [hfront]
    exact Misplaced.not_continues (.group hoperand rfl)
  exact ⟨by decide +kernel, by decide +kernel, hends⟩

/-- A group that ends in a connective is blamed on its closing parenthesis. In front of it nothing is
misplaced, as the group stands behind a connective. -/
theorem faults_are_located_in_group :
    ∃ e, parse "A ^ (B v ()) ^ C" = .error e ∧
      e.display.toList.splitOn '\n' = ["malformed formula: 'v' has no right operand".toList,
        "  (A^(Bv())^C)".toList, "          ^".toList] ∧
      ¬ Misplaced ((normalize "A ^ (B v ()) ^ C".toList).tokens.take 8) := by
  have herror : parse "A ^ (B v ()) ^ C" =
      .error (.malformed (.noRightOperand .or) "(A^(Bv())^C)".toList 8) := by decide +kernel
  obtain ⟨fault, p, he, -, -, hlines⟩ := faults_are_located.2 _ _ herror
  obtain ⟨fault', p', he', hlocates⟩ := faults_are_located.1 (normalize "A ^ (B v ()) ^ C".toList).tokens
    "(A^(Bv())^C)".toList (.malformed (.noRightOperand .or) "(A^(Bv())^C)".toList 8) (by decide +kernel)
  obtain ⟨rfl, -, rfl⟩ := Error.malformed.inj he
  obtain ⟨rfl, -, rfl⟩ := Error.malformed.inj he'
  refine ⟨_, herror, hlines.trans (by decide +kernel), (hlocates.continues_iff nofun).mp ?_⟩
  exact ⟨[.variable 0, .closing, .closing], _, fun _ => rfl⟩

end MediaCatalogue.Formula
