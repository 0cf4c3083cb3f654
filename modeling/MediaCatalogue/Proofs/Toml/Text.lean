import Mathlib
import MediaCatalogue.Proofs.Spans
import MediaCatalogue.Toml.Text

/-! A string is read back as it was written, whatever its characters are and whichever style they call
for. In every style a character stands for itself or has an escape, and of the quotes that end the string
no more than two stand in a row before it ends. -/

namespace MediaCatalogue.Toml

/-! Escapes -/

theorem hexValue?_hexDigit (n : Nat) : hexValue? (hexDigit n) = some (n % 16) := by
  have h : ∀ k < 16, hexValue? (Nat.digitChar k).toUpper = some k := by decide
  exact h (n % 16) (Nat.mod_lt n (by decide))

theorem readHex_low {c : Char} (hc : c.toNat < 0x80) (cs : List Char) :
    readHex 4 ('0' :: '0' :: hexDigit (c.toNat / 16) :: hexDigit c.toNat :: cs) = some (c, cs) := by
  have hzero : hexValue? '0' = some 0 := by decide
  have hvalue : 16 * (16 * (16 * (16 * 0 + 0) + 0) + c.toNat / 16 % 16) + c.toNat % 16 = c.toNat := by
    omega
  have hscalar : isScalar c.toNat = true := by
    simp only [isScalar, Bool.or_eq_true, decide_eq_true_eq]
    omega
  simp only [readHex, List.take_succ_cons, List.take_zero, List.mapM_cons, List.mapM_nil, hzero,
    hexValue?_hexDigit, Option.pure_def, Option.bind_eq_bind, Option.bind_some, List.foldl_cons,
    List.foldl_nil, hvalue, hscalar, List.length_cons, List.length_nil, List.drop_succ_cons,
    List.drop_zero, Char.ofNat_toNat]
  rfl

theorem readEscape_letter {letter c : Char} (h : (letter, c) ∈ letterEscapes) (cs : List Char) :
    readEscape (letter :: cs) = some (c, cs) := by
  simp only [letterEscapes, List.mem_cons, Prod.mk.injEq, List.not_mem_nil, or_false] at h
  rcases h with ⟨rfl, rfl⟩ | ⟨rfl, rfl⟩ | ⟨rfl, rfl⟩ | ⟨rfl, rfl⟩ | ⟨rfl, rfl⟩ | ⟨rfl, rfl⟩ |
    ⟨rfl, rfl⟩ | ⟨rfl, rfl⟩ <;> rfl

/-- The escape of a character is a backslash and what is read as that character. -/
theorem escape_eq {c : Char} (hc : c.toNat < 0x80) :
    ∃ code, escape c = '\\' :: code ∧ ∀ cs, readEscape (code ++ cs) = some (c, cs) ∧
      readContinuation (code ++ cs) = none := by
  unfold escape
  split
  · next letter d hfind =>
    have hmem := List.mem_of_find?_eq_some hfind
    have hd : d = c := by
      have := List.find?_some hfind
      simp only [Bool.and_eq_true, beq_iff_eq] at this
      exact this.1
    subst hd
    refine ⟨[letter], rfl, fun cs => ⟨readEscape_letter hmem cs, ?_⟩⟩
    simp only [letterEscapes, List.mem_cons, Prod.mk.injEq, List.not_mem_nil, or_false] at hmem
    rcases hmem with ⟨rfl, rfl⟩ | ⟨rfl, rfl⟩ | ⟨rfl, rfl⟩ | ⟨rfl, rfl⟩ | ⟨rfl, rfl⟩ | ⟨rfl, rfl⟩ |
      ⟨rfl, rfl⟩ | ⟨rfl, rfl⟩ <;> rfl
  · exact ⟨_, rfl, fun cs => ⟨readHex_low hc cs, rfl⟩⟩

/-! Spellings -/

/-- The most quotes in a row that belong to a text. -/
def Style.quotesInRow (s : Style) : Nat := if s.tripled then 2 else 0

structure Style.Keeps (s : Style) (c : Char) : Prop where
  notQuote : c ≠ s.quote.char
  notEscape : s.quote = .basic → c ≠ '\\'
  plain : isPlain c = true ∨ (s.tripled = true ∧ c = '\n')

/-- What can stand for a text between the quotes, behind `run` quotes that belong to it. -/
inductive Spelled (s : Style) : Nat → List Char → List Char → Prop where
  | done {run : Nat} : Spelled s run [] []
  | quote {run : Nat} {text body : List Char} (few : run < s.quotesInRow)
      (rest : Spelled s (run + 1) text body) :
      Spelled s run (s.quote.char :: text) (s.quote.char :: body)
  | kept {run : Nat} {c : Char} {text body : List Char} (keeps : s.Keeps c)
      (rest : Spelled s 0 text body) : Spelled s run (c :: text) (c :: body)
  | escaped {run : Nat} {c : Char} {text body : List Char} (basic : s.quote = .basic)
      (low : c.toNat < 0x80) (rest : Spelled s 0 text body) :
      Spelled s run (c :: text) (escape c ++ body)

/-! Quotes in a row -/

theorem length_takeWhile_quotes {q : Char} (k : Nat) {rest : List Char} (hrest : rest.head? ≠ some q) :
    ((List.replicate k q ++ rest).takeWhile (· == q)).length = k := by
  have hall : ∀ c ∈ List.replicate k q, (c == q) = true := by
    intro c hc
    simpa using List.eq_of_mem_replicate hc
  have hstop : ∀ c ∈ rest.head?, (c == q) = false := by
    intro c hc
    rw [beq_eq_false_iff_ne]
    rintro rfl
    exact hrest hc
  rw [takeWhile_span hall hstop, List.length_replicate]

/-- Of up to five quotes in a row the last three end the string. -/
theorem readLines_closing (q : Quote) (fuel : Nat) {k : Nat} (hk : k ≤ 2) {rest : List Char}
    (hrest : rest.head? ≠ some q.char) :
    readLines q (fuel + 1) (List.replicate (k + 3) q.char ++ rest) =
      some (List.replicate k q.char, rest) := by
  have hlength := length_takeWhile_quotes (k + 3) hrest
  have hdrop : (List.replicate (k + 3) q.char ++ rest).drop (k + 3) = rest :=
    List.drop_left' List.length_replicate
  rw [List.replicate_succ, List.cons_append] at hlength hdrop ⊢
  rw [readLines, hlength, min_eq_right (by omega), if_pos (by omega), hdrop, Nat.add_sub_cancel]

/-- One or two quotes in a row do not end the string. -/
theorem readLines_quote (q : Quote) (fuel : Nat) {k : Nat} (hk : k < 2) {rest : List Char}
    (hrest : rest.head? ≠ some q.char) :
    readLines q (fuel + 1) (q.char :: (List.replicate k q.char ++ rest)) =
      (readLines q fuel (List.replicate k q.char ++ rest)).map fun r => (q.char :: r.1, r.2) := by
  have hlength := length_takeWhile_quotes (k + 1) hrest
  rw [List.replicate_succ, List.cons_append] at hlength
  have hback : (q == .basic && q.char == '\\') = false := by cases q <;> rfl
  have hplain : isPlain q.char = true := by cases q <;> rfl
  rw [readLines, hlength, min_eq_right (by omega), if_neg (by omega), hback, if_neg Bool.false_ne_true,
    hplain, Bool.true_or, if_pos rfl]
  cases readLines q fuel (List.replicate k q.char ++ rest) <;> rfl

/-- A character that is no quote is read as it stands, or by its escape. -/
theorem readLines_kept {s : Style} {c : Char} (hc : s.Keeps c) (fuel : Nat) (rest : List Char) :
    readLines s.quote (fuel + 1) (c :: rest) =
      (readLines s.quote fuel rest).map fun r => (c :: r.1, r.2) := by
  have hlength : ((c :: rest).takeWhile (· == s.quote.char)).length = 0 :=
    length_takeWhile_quotes 0 (fun h => hc.notQuote (Option.some.inj h))
  have hback : (s.quote == .basic && c == '\\') = false := by simpa using hc.notEscape
  have hplain : (isPlain c || (newline? (c :: rest)).isSome) = true := by
    rcases hc.plain with hplain | ⟨-, rfl⟩
    · rw [hplain, Bool.true_or]
    · rfl
  rw [readLines, hlength, if_neg (by decide), hback, if_neg Bool.false_ne_true, if_pos hplain]
  cases readLines s.quote fuel rest <;> rfl

theorem readLines_escape {c : Char} (hc : c.toNat < 0x80) (fuel : Nat) (rest : List Char) :
    readLines .basic (fuel + 1) (escape c ++ rest) =
      (readLines .basic fuel rest).map fun r => (c :: r.1, r.2) := by
  obtain ⟨code, hcode, hread⟩ := escape_eq hc
  obtain ⟨hescape, hjoin⟩ := hread rest
  have hlength : (('\\' :: (code ++ rest)).takeWhile (· == Quote.basic.char)).length = 0 := by
    simp [Quote.char]
  have hback : ((Quote.basic == .basic) && ('\\' == '\\')) = true := rfl
  rw [hcode, List.cons_append, readLines, hlength, if_neg (by decide), if_pos hback, hjoin]
  simp only [hescape, Option.bind_eq_bind, Option.bind_some]
  cases readLines .basic fuel rest <;> rfl

namespace Spelled

variable {s : Style} {run : Nat} {text body : List Char}

theorem length_le (h : Spelled s run text body) : text.length ≤ body.length := by
  induction h with
  | done => exact le_rfl
  | quote few rest ih => exact Nat.succ_le_succ ih
  | kept keeps rest ih => exact Nat.succ_le_succ ih
  | escaped basic low rest ih =>
    obtain ⟨code, hescape, -⟩ := escape_eq low
    rw [hescape, List.length_append, List.length_cons, List.length_cons]
    omega

theorem backslash_ne_quote (q : Quote) : '\\' ≠ q.char := by
  cases q <;> decide

/-- The quotes that come next belong to the text: either they are all that is left of it, or another
character follows. -/
theorem quotes_ahead (h : Spelled s run text body) (hrun : run ≤ s.quotesInRow) :
    ∃ k, run + k ≤ s.quotesInRow ∧
      ((text = List.replicate k s.quote.char ∧ body = List.replicate k s.quote.char) ∨
        ∃ d more, d ≠ s.quote.char ∧ body = List.replicate k s.quote.char ++ d :: more) := by
  induction h with
  | done => exact ⟨0, hrun, .inl ⟨rfl, rfl⟩⟩
  | quote few rest ih =>
    obtain ⟨k, hk, hall | ⟨d, more, hd, hbody⟩⟩ := ih few
    · refine ⟨k + 1, by omega, .inl ⟨?_, ?_⟩⟩
      · rw [hall.1, List.replicate_succ]
      · rw [hall.2, List.replicate_succ]
    · refine ⟨k + 1, by omega, .inr ⟨d, more, hd, ?_⟩⟩
      rw [hbody, List.replicate_succ, List.cons_append]
  | kept keeps rest ih => exact ⟨0, hrun, .inr ⟨_, _, keeps.notQuote, rfl⟩⟩
  | escaped basic low rest ih =>
    obtain ⟨code, hescape, -⟩ := escape_eq low
    exact ⟨0, hrun, .inr ⟨'\\', code ++ _, backslash_ne_quote _, by rw [hescape]; rfl⟩⟩

/-- On one line the first quote ends the string. -/
theorem readLine (hs : s.tripled = false) (h : Spelled s run text body) {fuel : Nat}
    (hfuel : text.length < fuel) (rest : List Char) :
    readLine s.quote fuel (body ++ s.quote.char :: rest) = some (text, rest) := by
  have hmost : s.quotesInRow = 0 := by simp [Style.quotesInRow, hs]
  induction h generalizing fuel with
  | done =>
    obtain ⟨n, rfl⟩ := Nat.exists_eq_succ_of_ne_zero (Nat.ne_zero_of_lt hfuel)
    simp [Toml.readLine]
  | quote few _ _ =>
    rw [hmost] at few
    exact absurd few (Nat.not_lt_zero _)
  | @kept run c text body keeps _ ih =>
    obtain ⟨n, rfl⟩ := Nat.exists_eq_succ_of_ne_zero (Nat.ne_zero_of_lt hfuel)
    have hplain : isPlain c = true := by simpa [hs] using keeps.plain
    have hescape : (s.quote == .basic && c == '\\') = false := by
      simpa using keeps.notEscape
    rw [List.cons_append, Toml.readLine, if_neg (by simpa using keeps.notQuote), hescape,
      if_neg Bool.false_ne_true, if_pos hplain, ih (Nat.lt_of_succ_lt_succ hfuel)]
    rfl
  | @escaped run c text body basic low _ ih =>
    obtain ⟨n, rfl⟩ := Nat.exists_eq_succ_of_ne_zero (Nat.ne_zero_of_lt hfuel)
    obtain ⟨code, hcode, hread⟩ := escape_eq low
    have hback : (s.quote == .basic && '\\' == '\\') = true := by simp [basic]
    rw [hcode, List.cons_append, List.cons_append, List.append_assoc, Toml.readLine,
      if_neg (by simpa using backslash_ne_quote s.quote), if_pos hback, (hread _).1]
    simp only [Option.bind_eq_bind, Option.bind_some, ih (Nat.lt_of_succ_lt_succ hfuel)]
    rfl

/-- Over lines only three quotes in a row end the string, and those in front of them belong to it. -/
theorem readLines (hs : s.tripled = true) (h : Spelled s run text body) (hrun : run ≤ 2) {fuel : Nat}
    (hfuel : text.length < fuel) {rest : List Char} (hrest : rest.head? ≠ some s.quote.char) :
    readLines s.quote fuel (body ++ (List.replicate 3 s.quote.char ++ rest)) = some (text, rest) := by
  have hmost : s.quotesInRow = 2 := by simp [Style.quotesInRow, hs]
  induction h generalizing fuel with
  | done =>
    obtain ⟨n, rfl⟩ := Nat.exists_eq_succ_of_ne_zero (Nat.ne_zero_of_lt hfuel)
    exact readLines_closing s.quote n (Nat.zero_le 2) hrest
  | @quote run text body few hbehind ih =>
    obtain ⟨n, rfl⟩ := Nat.exists_eq_succ_of_ne_zero (Nat.ne_zero_of_lt hfuel)
    rw [hmost] at few
    obtain ⟨k, hk, ⟨htext, hbody⟩ | ⟨d, more, hd, hbody⟩⟩ := hbehind.quotes_ahead (hmost ▸ few)
    · -- nothing but quotes is left, so the string ends right here
      rw [hmost] at hk
      have hclosing := readLines_closing s.quote n (k := k + 1) (by omega) hrest
      rw [htext, hbody, ← List.replicate_succ, ← hclosing, ← List.append_assoc,
        List.replicate_append_replicate]
    · have hnext : (d :: more ++ (List.replicate 3 s.quote.char ++ rest)).head? ≠
          some s.quote.char := fun h => hd (Option.some.inj h)
      have hread := ih few (Nat.lt_of_succ_lt_succ hfuel)
      rw [hmost] at hk
      rw [hbody, List.append_assoc] at hread
      rw [hbody, List.cons_append, List.append_assoc, readLines_quote s.quote n (by omega) hnext, hread]
      rfl
  | @kept run c text body keeps _ ih =>
    obtain ⟨n, rfl⟩ := Nat.exists_eq_succ_of_ne_zero (Nat.ne_zero_of_lt hfuel)
    rw [List.cons_append, readLines_kept keeps, ih (Nat.zero_le 2) (Nat.lt_of_succ_lt_succ hfuel)]
    rfl
  | @escaped run c text body basic low _ ih =>
    obtain ⟨n, rfl⟩ := Nat.exists_eq_succ_of_ne_zero (Nat.ne_zero_of_lt hfuel)
    have hread := ih (Nat.zero_le 2) (Nat.lt_of_succ_lt_succ hfuel)
    rw [basic] at hread ⊢
    rw [List.append_assoc, readLines_escape low, hread]
    rfl

/-- A spelling starts with a line end only if the text does. -/
theorem newline?_eq_none (h : Spelled s run text body) (hlines : '\n' ∉ text) (rest : List Char) :
    newline? (body ++ s.quote.char :: rest) = none := by
  have hquote : ∀ cs, newline? (s.quote.char :: cs) = none := by
    intro cs
    cases s.quote <;> rfl
  cases h with
  | done => exact hquote rest
  | quote few rest => exact hquote _
  | @kept run c text body keeps _ =>
    have hline : c ≠ '\n' := fun h => hlines (h ▸ List.mem_cons_self)
    have hplain : isPlain c = true := keeps.plain.resolve_right fun h => hline h.2
    have hreturn : c ≠ '\r' := by
      rintro rfl
      exact absurd hplain (by decide)
    rw [List.cons_append, newline?]
    · exact fun _ h => hline (List.cons.inj h).1
    · exact fun _ h => hreturn (List.cons.inj h).1
  | escaped basic low _ =>
    obtain ⟨code, hcode, -⟩ := escape_eq low
    rw [hcode]
    rfl

end Spelled

/-! Styles -/

theorem spelled_escapeAll (tripled : Bool) (text : List Char) (run : Nat) :
    Spelled ⟨.basic, tripled⟩ run text
      (escapeAll tripled (Style.mk .basic tripled).quotesInRow run text) := by
  induction text generalizing run with
  | nil => exact .done
  | cons c cs ih =>
    rw [escapeAll]
    split_ifs with hquote hfew hspecial
    · obtain rfl : c = '"' := by simpa using hquote
      exact .quote hfew (ih _)
    · obtain rfl : c = '"' := by simpa using hquote
      exact .escaped rfl (by decide) (ih 0)
    · refine .escaped rfl ?_ (ih 0)
      simp only [Bool.or_eq_true, beq_iff_eq, Bool.and_eq_true, isControl, decide_eq_true_eq] at hspecial
      rcases hspecial with rfl | ⟨hlow | hdelete, -⟩
      · decide
      · omega
      · omega
    · simp only [Bool.or_eq_true, beq_iff_eq, not_or, Bool.and_eq_true, not_and, Bool.not_eq_true',
        Bool.not_eq_false] at hspecial hquote
      refine .kept ⟨hquote, fun _ => hspecial.1, ?_⟩ (ih 0)
      by_cases hcontrol : isControl c = true
      · exact .inr (by simpa using hspecial.2 hcontrol)
      · left
        simp only [isControl, Bool.or_eq_true, decide_eq_true_eq, beq_iff_eq, not_or] at hcontrol
        simp only [isPlain, Bool.or_eq_true, Bool.and_eq_true, decide_eq_true_eq, beq_iff_eq,
          bne_iff_ne, ne_eq]
        exact .inr ⟨by omega, hcontrol.2⟩

theorem le_longestRun (c : Char) (run : Nat) (text : List Char) : run ≤ longestRun c run text := by
  induction text generalizing run with
  | nil => exact le_rfl
  | cons d ds ih =>
    rw [longestRun]
    split_ifs
    · exact le_trans (Nat.le_succ run) (ih (run + 1))
    · exact le_max_left _ _

theorem spelled_literal {tripled : Bool} {text : List Char} {run : Nat}
    (hplain : ∀ c ∈ text, isPlain c = true ∨ (tripled = true ∧ c = '\n'))
    (hruns : longestRun '\'' run text ≤ (Style.mk .literal tripled).quotesInRow) :
    Spelled ⟨.literal, tripled⟩ run text text := by
  induction text generalizing run with
  | nil => exact .done
  | cons c cs ih =>
    rw [longestRun] at hruns
    obtain ⟨hc, hcs⟩ := List.forall_mem_cons.mp hplain
    split_ifs at hruns with hquote
    · obtain rfl : c = '\'' := by simpa using hquote
      have hfew := le_trans (le_longestRun '\'' (run + 1) cs) hruns
      exact .quote hfew (ih hcs hruns)
    · have hrest := le_trans (le_max_right _ _) hruns
      exact .kept ⟨by simpa [Quote.char] using hquote, nofun, hc⟩ (ih hcs hrest)

theorem isPlain_of_not_needsEscape {c : Char} (h : needsEscape c = false) (hline : c ≠ '\n') :
    isPlain c = true := by
  by_cases htab : c = '\t'
  · subst htab
    rfl
  · simp only [needsEscape, isControl, Bool.and_eq_false_iff, Bool.or_eq_false_iff,
      decide_eq_false_iff_not, beq_eq_false_iff_ne, bne_eq_false_iff_eq, htab, hline, or_false] at h
    simp only [isPlain, Bool.or_eq_true, Bool.and_eq_true, decide_eq_true_eq, beq_iff_eq, bne_iff_ne,
      ne_eq]
    exact .inr ⟨by omega, h.2⟩

/-- A literal style is taken only for a text that can be written without escapes and with few quotes. -/
theorem literal_of_styleOf {text : List Char} {tripled : Bool} (h : styleOf text = ⟨.literal, tripled⟩) :
    (∀ c ∈ text, isPlain c = true ∨ (tripled = true ∧ c = '\n')) ∧
      longestRun '\'' 0 text ≤ (Style.mk .literal tripled).quotesInRow := by
  have hplain : ∀ c ∈ text, text.any needsEscape = false → c ≠ '\n' → isPlain c = true := by
    intro c hc hany hline
    exact isPlain_of_not_needsEscape (by simpa using List.any_eq_false.mp hany c hc) hline
  simp only [styleOf] at h
  split_ifs at h with h₁ h₂ h₃ h₄
  · cases h
  · cases h
    simp only [Bool.and_eq_true, Bool.not_eq_true', beq_iff_eq] at h₂
    refine ⟨fun c hc => .inl (hplain c hc h₂.1.1 ?_), h₂.1.2.le⟩
    rintro rfl
    simp [hc] at h₂
  · cases h
  · cases h
    simp only [Bool.and_eq_true, Bool.not_eq_true', decide_eq_true_eq] at h₄
    refine ⟨fun c hc => ?_, h₄.2⟩
    by_cases hline : c = '\n'
    · exact .inr ⟨rfl, hline⟩
    · exact .inl (hplain c hc h₄.1 hline)
  · cases h

def Style.fence (s : Style) : List Char := List.replicate (if s.tripled then 3 else 1) s.quote.char

/-- A line end that is put behind the opening quotes, since one there does not count. -/
def Style.lead (s : Style) (text : List Char) : List Char :=
  if s.tripled && text.contains '\n' then ['\n'] else []

theorem writeChars_eq (text : List Char) :
    ∃ body, Spelled (styleOf text) 0 text body ∧
      writeChars text = (styleOf text).fence ++ (styleOf text).lead text ++ body ++ (styleOf text).fence := by
  rcases hstyle : styleOf text with ⟨quote, tripled⟩
  cases quote with
  | basic => exact ⟨_, spelled_escapeAll tripled text 0, by rw [writeChars, hstyle]; rfl⟩
  | literal =>
    obtain ⟨hplain, hruns⟩ := literal_of_styleOf hstyle
    exact ⟨text, spelled_literal hplain hruns, by rw [writeChars, hstyle]; rfl⟩

/-! Strings -/

theorem readText_one {q : Quote} {cs rest text : List Char}
    (hone : (List.replicate 3 q.char).isPrefixOf (q.char :: cs) = false)
    (h : readLine q ((q.char :: cs).length + 1) cs = some (text, rest)) :
    readText q (q.char :: cs) = some (String.ofList text, rest) := by
  simp only [readText, hone, Bool.false_eq_true, if_false, List.drop_succ_cons, List.drop_zero, h]
  rfl

theorem readText_three {q : Quote} {cs rest text : List Char}
    (h : readLines q ((List.replicate 3 q.char ++ cs).length + 1) (dropNewline cs) =
      some (text, rest)) :
    readText q (List.replicate 3 q.char ++ cs) = some (String.ofList text, rest) := by
  have hthree : (List.replicate 3 q.char).isPrefixOf (List.replicate 3 q.char ++ cs) = true := by
    simp
  have hdrop : (List.replicate 3 q.char ++ cs).drop 3 = cs := rfl
  simp only [readText, hthree, if_true, hdrop, h]
  rfl

/-- A string on one line is not taken for one over lines. -/
theorem Spelled.not_tripled {s : Style} {text body : List Char} (h : Spelled s 0 text body)
    (hs : s.tripled = false) {rest : List Char} (hrest : rest.head? ≠ some s.quote.char) :
    (List.replicate 3 s.quote.char).isPrefixOf (s.quote.char :: (body ++ s.quote.char :: rest)) =
      false := by
  obtain ⟨k, hk, hahead⟩ := h.quotes_ahead (Nat.zero_le _)
  obtain rfl : k = 0 := by simpa [Style.quotesInRow, hs] using hk
  rcases hahead with ⟨-, rfl⟩ | ⟨d, more, hd, rfl⟩
  · cases rest with
    | nil => simp [List.replicate]
    | cons c cs =>
      have hc : s.quote.char ≠ c := fun h => hrest (congrArg some h.symm)
      simp [List.replicate, List.isPrefixOf, hc]
  · simp [List.replicate, List.isPrefixOf, hd.symm]

/-- What is written for a text is read as that text. -/
theorem readText_writeChars (text rest : List Char)
    (hrest : ∀ q : Quote, rest.head? ≠ some q.char) :
    readText (styleOf text).quote (writeChars text ++ rest) = some (String.ofList text, rest) := by
  obtain ⟨body, hspelled, hwritten⟩ := writeChars_eq text
  rw [hwritten]
  generalize styleOf text = s at hspelled
  have hlength := hspelled.length_le
  cases hs : s.tripled with
  | false =>
    have hchars : s.fence ++ s.lead text ++ body ++ s.fence ++ rest =
        s.quote.char :: (body ++ s.quote.char :: rest) := by
      simp [Style.fence, Style.lead, hs]
    rw [hchars]
    refine readText_one (hspelled.not_tripled hs (hrest _)) (hspelled.readLine hs ?_ rest)
    simp only [List.length_cons, List.length_append]
    omega
  | true =>
    have hchars : s.fence ++ s.lead text ++ body ++ s.fence ++ rest =
        List.replicate 3 s.quote.char ++
          (s.lead text ++ (body ++ (List.replicate 3 s.quote.char ++ rest))) := by
      simp [Style.fence, hs]
    have hdrop : dropNewline (s.lead text ++ (body ++ (List.replicate 3 s.quote.char ++ rest))) =
        body ++ (List.replicate 3 s.quote.char ++ rest) := by
      by_cases hlines : '\n' ∈ text
      · simp [Style.lead, hs, hlines, dropNewline, newline?]
      · have hnone := hspelled.newline?_eq_none hlines (List.replicate 2 s.quote.char ++ rest)
        simp only [Style.lead, hs, Bool.true_and, List.contains_iff_mem, hlines, if_false,
          List.nil_append, dropNewline]
        rw [← List.cons_append, ← List.replicate_succ] at hnone
        rw [hnone]
        rfl
    rw [hchars]
    refine readText_three ?_
    rw [hdrop]
    refine hspelled.readLines hs (Nat.zero_le 2) ?_ (hrest _)
    simp only [List.length_append]
    omega

end MediaCatalogue.Toml
