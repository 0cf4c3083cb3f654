import Mathlib
import MediaCatalogue.Proofs.Query.Joined

/-! The pieces of a query text that are read as its tokens. An empty token stands for quotes that hold
nothing, or for a lone backslash at the end of the text: one that is put behind a separating space is
dropped, but leaves the token that it has begun. -/

namespace MediaCatalogue.Query

open Lexing

/-- What a piece of text is as a token: without its quotes, and without each backslash that is not itself
behind one. -/
def bare : List Char → List Char
  | [] => []
  | ['\\'] => []
  | '\\' :: c :: cs => c :: bare cs
  | '"' :: cs => bare cs
  | c :: cs => c :: bare cs

/-- `Piece quoted cs after`: no space of `cs` separates tokens. The text in front of it ends inside quotes
iff `quoted` says so, and the text behind it begins inside quotes iff `after` does. -/
inductive Piece : Bool → List Char → Bool → Prop where
  | nil {quoted : Bool} : Piece quoted [] quoted
  | escape {quoted after : Bool} {cs : List Char} (c : Char) (rest : Piece quoted cs after) :
      Piece quoted ('\\' :: c :: cs) after
  | quote {quoted after : Bool} {cs : List Char} (rest : Piece (!quoted) cs after) :
      Piece quoted ('"' :: cs) after
  | other {quoted after : Bool} {c : Char} {cs : List Char} (escape : c ≠ '\\') (quote : c ≠ '"')
      (space : c = ' ' → quoted = true) (rest : Piece quoted cs after) : Piece quoted (c :: cs) after

/-- `Pieces text ps`: the separating spaces of `text` leave the pieces `ps`. Only the last piece can be
open inside quotes or end in a lone backslash. -/
inductive Pieces : List Char → List (List Char) → Prop where
  | nil : Pieces [] []
  | space {text : List Char} {ps : List (List Char)} (rest : Pieces text ps) : Pieces (' ' :: text) ps
  | word {p text : List Char} {ps : List (List Char)} (nonempty : p ≠ []) (piece : Piece false p false)
      (rest : Pieces text ps) : Pieces (p ++ ' ' :: text) (p :: ps)
  | last {p : List Char} {after : Bool} (nonempty : p ≠ []) (piece : Piece false p after) : Pieces p [p]
  | lone {p : List Char} {after : Bool} (piece : Piece false p after) :
      Pieces (p ++ ['\\']) [p ++ ['\\']]

/-! Pieces are read as tokens -/

theorem bare_cons {c : Char} (hescape : c ≠ '\\') (hquote : c ≠ '"') (cs : List Char) :
    bare (c :: cs) = c :: bare cs := by
  rw [bare] <;> simp_all

theorem Piece.run {quoted after : Bool} {cs : List Char} (h : Piece quoted cs after) (read : List Char) :
    (Lexing.word read quoted false).run cs = ([], Lexing.word ((bare cs).reverse ++ read) after false) := by
  induction h generalizing read with
  | nil => rfl
  | escape c rest ih => simp [Lexing.run, step, bare, ih]
  | quote rest ih => simp [Lexing.run, step, bare, ih]
  | @other quoted after c cs hescape hquote hspace rest ih =>
    have hstep : (Lexing.word read quoted false).step c = (Lexing.word (c :: read) quoted false, none) := by
      cases quoted <;> unfold step <;> split <;> simp_all
    rw [Lexing.run, hstep, bare_cons hescape hquote]
    simp [ih]

theorem Piece.ne_space {c : Char} {cs : List Char} {after : Bool} (h : Piece false (c :: cs) after) :
    c ≠ ' ' := by
  cases h with
  | escape _ _ => decide
  | quote _ => decide
  | other _ _ space _ => exact fun hc => Bool.false_ne_true (space hc)

theorem Piece.run_gap {after : Bool} {p : List Char} (h : Piece false p after) (nonempty : p ≠ []) :
    gap.run p = ([], Lexing.word (bare p).reverse after false) := by
  obtain ⟨c, cs, rfl⟩ := List.exists_cons_of_ne_nil nonempty
  rw [run_gap_cons h.ne_space, h.run [], List.append_nil]

theorem bare_append_lone {after : Bool} {quoted : Bool} {p : List Char} (h : Piece quoted p after) :
    bare (p ++ ['\\']) = bare p := by
  induction h with
  | nil => rfl
  | escape c rest ih => simp [bare, ih]
  | quote rest ih => simp [bare, ih]
  | other escape quote _ rest ih =>
    rw [List.cons_append, bare_cons escape quote, bare_cons escape quote, ih]

/-- The tokens of a text are its pieces without their quotes and escapes. -/
theorem Pieces.tokensFrom {text : List Char} {ps : List (List Char)} (h : Pieces text ps) :
    gap.tokensFrom text = ps.map bare := by
  induction h with
  | nil => rfl
  | space rest ih => exact ih
  | @word p text ps nonempty piece rest ih =>
    have hspace : ∀ read, (Lexing.word read false false).tokensFrom (' ' :: text) =
        read.reverse :: gap.tokensFrom text := fun _ => rfl
    rw [tokensFrom_append, piece.run_gap nonempty, hspace, ih, List.reverse_reverse]
    rfl
  | last nonempty piece =>
    rw [Lexing.tokensFrom, piece.run_gap nonempty, flush, List.reverse_reverse]
    rfl
  | @lone p after piece =>
    have hlone : ∀ read, (Lexing.word read after false).tokensFrom ['\\'] = [read.reverse] := fun _ => rfl
    rw [List.map_singleton, bare_append_lone piece]
    by_cases hempty : p = []
    · subst hempty
      rfl
    · rw [tokensFrom_append, piece.run_gap hempty, hlone, List.reverse_reverse]
      rfl

/-! Every text has pieces -/

/-- What can stand behind a piece that is as long as possible: nothing, a lone backslash, or a space that
separates. -/
inductive Stop (after : Bool) : List Char → Prop where
  | finish : Stop after []
  | lone : Stop after ['\\']
  | space (text : List Char) (outside : after = false) : Stop after (' ' :: text)

theorem exists_piece (quoted : Bool) (text : List Char) :
    ∃ p rest after, text = p ++ rest ∧ Piece quoted p after ∧ Stop after rest := by
  induction text using bare.induct generalizing quoted with
  | case1 => exact ⟨[], [], quoted, rfl, .nil, .finish⟩
  | case2 => exact ⟨[], _, quoted, rfl, .nil, .lone⟩
  | case3 c cs ih =>
    obtain ⟨p, rest, after, rfl, piece, stop⟩ := ih quoted
    exact ⟨_, rest, after, rfl, .escape c piece, stop⟩
  | case4 cs ih =>
    obtain ⟨p, rest, after, rfl, piece, stop⟩ := ih (!quoted)
    exact ⟨_, rest, after, rfl, .quote piece, stop⟩
  | case5 c cs hlone hescape hquote ih =>
    have hslash : c ≠ '\\' := by
      rintro rfl
      cases cs with
      | nil => exact hlone rfl rfl
      | cons d ds => exact hescape d ds rfl rfl
    by_cases hspace : c = ' ' ∧ quoted = false
    · obtain ⟨rfl, rfl⟩ := hspace
      exact ⟨[], _, false, rfl, .nil, .space cs rfl⟩
    · obtain ⟨p, rest, after, rfl, piece, stop⟩ := ih quoted
      refine ⟨c :: p, rest, after, rfl, .other hslash hquote (fun hc => ?_) piece, stop⟩
      simpa [hc] using hspace

theorem exists_pieces (text : List Char) : ∃ ps, Pieces text ps := by
  induction h : text.length using Nat.strong_induction_on generalizing text with
  | _ n ih =>
    subst h
    obtain ⟨p, rest, after, rfl, piece, stop⟩ := exists_piece false text
    cases stop with
    | finish =>
      rw [List.append_nil]
      by_cases hempty : p = []
      · exact ⟨[], hempty ▸ .nil⟩
      · exact ⟨[p], .last hempty piece⟩
    | lone => exact ⟨_, .lone piece⟩
    | space text outside =>
      subst outside
      have hshorter : text.length < (p ++ ' ' :: text).length := by
        rw [List.length_append, List.length_cons]
        omega
      obtain ⟨ps, hps⟩ := ih _ hshorter text rfl
      by_cases hempty : p = []
      · subst hempty
        exact ⟨ps, .space hps⟩
      · exact ⟨p :: ps, .word hempty piece hps⟩

/-! Empty tokens -/

/-- A piece of a text that is an empty token: it is made of quotes, or ends in a lone backslash. -/
inductive EmptyPiece (text : List Char) : List Char → Prop where
  | quotes (n : ℕ) : EmptyPiece text (List.replicate (n + 1) '"')
  /-- At the end of the text, behind any number of quotes. -/
  | lone (n : ℕ) (last : List.replicate n '"' ++ ['\\'] <:+ text) :
      EmptyPiece text (List.replicate n '"' ++ ['\\'])

theorem piece_quotes (quoted : Bool) (n : ℕ) : ∃ after, Piece quoted (List.replicate n '"') after := by
  induction n generalizing quoted with
  | zero => exact ⟨quoted, .nil⟩
  | succ n ih =>
    obtain ⟨after, piece⟩ := ih (!quoted)
    exact ⟨after, .quote piece⟩

theorem bare_quotes (n : ℕ) : bare (List.replicate n '"') = [] := by
  induction n with
  | zero => rfl
  | succ n ih => exact ih

theorem EmptyPiece.bare {text p : List Char} (h : EmptyPiece text p) : bare p = [] := by
  cases h with
  | quotes n => exact bare_quotes (n + 1)
  | lone n last =>
    obtain ⟨after, piece⟩ := piece_quotes false n
    rw [bare_append_lone piece, bare_quotes]

theorem Piece.bare_eq_nil {quoted after : Bool} {p : List Char} (h : Piece quoted p after)
    (hbare : bare p = []) : ∃ n, p = List.replicate n '"' := by
  induction h with
  | nil => exact ⟨0, rfl⟩
  | escape c rest ih => cases hbare
  | quote rest ih =>
    obtain ⟨n, rfl⟩ := ih hbare
    exact ⟨n + 1, rfl⟩
  | other escape quote _ rest ih =>
    rw [bare_cons escape quote] at hbare
    cases hbare

theorem Piece.emptyPiece {quoted after : Bool} {p : List Char} (h : Piece quoted p after)
    (nonempty : p ≠ []) (hbare : bare p = []) (text : List Char) : EmptyPiece text p := by
  obtain ⟨_ | n, rfl⟩ := h.bare_eq_nil hbare
  · exact absurd rfl nonempty
  · exact .quotes n

theorem EmptyPiece.of_suffix {text more p : List Char} (h : EmptyPiece text p) (hsuffix : text <:+ more) :
    EmptyPiece more p := by
  cases h with
  | quotes n => exact .quotes n
  | lone n last => exact .lone n (last.trans hsuffix)

theorem Pieces.emptyPiece {text : List Char} {ps : List (List Char)} (h : Pieces text ps) {p : List Char}
    (hp : p ∈ ps) (hbare : bare p = []) : EmptyPiece text p := by
  induction h with
  | nil => cases hp
  | space rest ih => exact (ih hp).of_suffix (List.suffix_cons ..)
  | @word q text ps nonempty piece rest ih =>
    obtain rfl | hp := List.mem_cons.mp hp
    · exact piece.emptyPiece nonempty hbare _
    · exact (ih hp).of_suffix ((List.suffix_cons ..).trans (List.suffix_append ..))
  | last nonempty piece =>
    obtain rfl := List.mem_singleton.mp hp
    exact piece.emptyPiece nonempty hbare _
  | @lone q after piece =>
    obtain rfl := List.mem_singleton.mp hp
    rw [bare_append_lone piece] at hbare
    obtain ⟨n, rfl⟩ := piece.bare_eq_nil hbare
    exact .lone n List.suffix_rfl

/-! A backslash at the end -/

/-- The last character of the text is a backslash that waits for the character behind it. -/
def EndsEscaping (text : String) : Prop :=
  ∃ read quoted, (gap.run text.toList).2 = Lexing.word read quoted true

/-- The text is empty, or ends in a space that separates. -/
def EndsBetween (text : String) : Prop := text = "" ∨ ∃ front, text = front ++ " " ∧ EndsSettled front

theorem step_eq_gap {state : Lexing} {c : Char} : (state.step c).1 = gap ↔ c = ' ' ∧ state.Settled := by
  fun_cases step state c <;> simp_all [Lexing.Settled]

theorem endsBetween_iff {text : String} : EndsBetween text ↔ (gap.run text.toList).2 = gap := by
  have hlast : ∀ (front : List Char) (c : Char),
      (gap.run (front ++ [c])).2 = ((gap.run front).2.step c).1 := by
    intro front c
    rw [run_append]
    rfl
  constructor
  · rintro (rfl | ⟨front, rfl, settled⟩)
    · rfl
    · rw [String.toList_append]
      exact (hlast front.toList ' ').trans (step_eq_gap.mpr ⟨rfl, settled⟩)
  · intro h
    rcases List.eq_nil_or_concat' text.toList with hnil | ⟨front, c, hconcat⟩
    · exact .inl (String.toList_eq_nil_iff.mp hnil)
    · rw [hconcat, hlast, step_eq_gap] at h
      obtain ⟨rfl, settled⟩ := h
      refine .inr ⟨String.ofList front, String.toList_inj.mp ?_, ?_⟩
      · rw [hconcat, String.toList_append, String.toList_ofList]
        rfl
      · rw [EndsSettled, String.toList_ofList]
        exact settled

/-- Between tokens the backslash begins one, inside a token it leaves no trace. -/
theorem tokensFrom_backslash {state : Lexing} (h : ¬∃ read quoted, state = Lexing.word read quoted true) :
    state.tokensFrom ['\\'] = if state = gap then [[]] else state.flush := by
  cases state with
  | gap => rfl
  | word read quoted escaped =>
    cases escaped with
    | false => rfl
    | true => exact absurd ⟨read, quoted, rfl⟩ h

theorem tokenize_backslash {text : String} (h : ¬EndsEscaping text) :
    tokenize (text ++ "\\") = if (gap.run text.toList).2 = gap then tokenize text ++ [""] else tokenize text := by
  have hchars : (text ++ "\\").toList = text.toList ++ ['\\'] := String.toList_append
  rw [tokenize_eq, tokenize_eq, hchars, tokensFrom_append, tokensFrom_backslash h, Lexing.tokensFrom]
  split_ifs with hgap
  · rw [hgap, flush, List.append_nil, List.map_append]
    rfl
  · rfl

/-- A lone backslash behind a text is dropped, but behind a space that separates, or on its own, it leaves
an empty token. In any text an empty token is a piece of quotes, or one that the lone backslash at the end
of the text has ended. -/
theorem lone_backslash (text : String) :
    (EndsBetween text → tokenize (text ++ "\\") = tokenize text ++ [""]) ∧
      (¬EndsEscaping text → ¬EndsBetween text → tokenize (text ++ "\\") = tokenize text) ∧
      ∃ ps, Pieces text.toList ps ∧ tokenize text = ps.map (String.ofList ∘ bare) ∧
        ∀ p ∈ ps, bare p = [] ↔ EmptyPiece text.toList p := by
  rw [endsBetween_iff]
  refine ⟨fun hgap => ?_, fun hescaping hgap => ?_, ?_⟩
  · have hescaping : ¬EndsEscaping text := by
      rintro ⟨read, quoted, hword⟩
      rw [hgap] at hword
      cases hword
    rw [tokenize_backslash hescaping, if_pos hgap]
  · rw [tokenize_backslash hescaping, if_neg hgap]
  · obtain ⟨ps, hps⟩ := exists_pieces text.toList
    refine ⟨ps, hps, ?_, fun p hp => ⟨hps.emptyPiece hp, EmptyPiece.bare⟩⟩
    rw [tokenize_eq, hps.tokensFrom, List.map_map]

/-- A space between quotes separates nothing, so the backslash behind it is dropped. -/
theorem lone_backslash_between_quotes :
    ¬EndsEscaping "title = \"Heat " ∧ ¬EndsBetween "title = \"Heat " ∧
      tokenize ("title = \"Heat " ++ "\\") = ["title", "=", "Heat "] := by
  have hstate : (gap.run "title = \"Heat ".toList).2 = Lexing.word [' ', 't', 'a', 'e', 'H'] true false := by
    rfl
  have hescaping : ¬EndsEscaping "title = \"Heat " := by
    rintro ⟨read, quoted, hword⟩
    rw [hstate] at hword
    cases hword
  have hbetween : ¬EndsBetween "title = \"Heat " := by
    rw [endsBetween_iff, hstate]
    exact nofun
  have hdropped := (lone_backslash "title = \"Heat ").2.1 hescaping hbetween
  exact ⟨hescaping, hbetween, hdropped.trans (by decide +kernel)⟩

/-- Behind the space that ends a query the backslash adds a token, without any quotes. -/
theorem lone_backslash_not_dropped :
    ¬(∀ text, ¬EndsEscaping text → tokenize (text ++ "\\") = tokenize text) ∧
      ¬∀ text, "" ∈ tokenize text → '"' ∈ text.toList := by
  have hstate : (gap.run "title = Heat ".toList).2 = gap := by rfl
  have hempty : "" ∈ tokenize "title = Heat \\" := by decide +kernel
  constructor
  · intro h
    have hescaping : ¬EndsEscaping "title = Heat " := by
      rintro ⟨read, quoted, hword⟩
      rw [hstate] at hword
      cases hword
    have hsame : tokenize "title = Heat \\" = tokenize "title = Heat " := h _ hescaping
    rw [hsame] at hempty
    exact absurd hempty (by decide +kernel)
  · intro h
    exact absurd (h _ hempty) (by decide +kernel)

end MediaCatalogue.Query
