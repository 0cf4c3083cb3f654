import Mathlib
import MediaCatalogue.Proofs.Json.Number
import MediaCatalogue.Proofs.Spans
import MediaCatalogue.Proofs.Toml.Text
import MediaCatalogue.Toml.Reader

/-! What the lines of a plain document say: headers and entries with bare keys, whose values are strings
or natural numbers. -/

namespace MediaCatalogue.Toml

theorem span_append {p : Char → Bool} {front rest : List Char} (hfront : ∀ c ∈ front, p c = true)
    (hrest : ∀ c ∈ rest.head?, p c = false) : (front ++ rest).span p = (front, rest) := by
  rw [List.span_eq_takeWhile_dropWhile, takeWhile_span hfront hrest, dropWhile_span hfront hrest]

/-! Natural numbers -/

open Json (isDigit_of_mem_toDigits toDigits_cons toDigits_head)

theorem ungroup_digits {cs : List Char} (hcs : ∀ c ∈ cs, c.isDigit = true) {afterDigit : Bool}
    (h : afterDigit = true ∨ cs ≠ []) : ungroup Char.isDigit afterDigit cs = some cs := by
  induction cs generalizing afterDigit with
  | nil =>
    obtain rfl := h.resolve_right (by simp)
    rfl
  | cons c cs ih =>
    obtain ⟨hc, hcs⟩ := List.forall_mem_cons.mp hcs
    have hgroup : (c == '_') = false := by
      rw [beq_eq_false_iff_ne]
      rintro rfl
      exact absurd hc (by decide)
    rw [ungroup, hgroup, if_neg Bool.false_ne_true, if_pos hc, ih hcs (.inl rfl)]
    rfl

theorem valueOf_toDigits (n : Nat) : valueOf 10 (Nat.toDigits 10 n) = n := by
  have hvalue : Nat.ofDigitChars 10 (Nat.toDigits 10 n) 0 = n := Nat.ofDigitChars_ten_toDigits
  conv_rhs => rw [← hvalue]
  refine List.foldl_ext _ _ _ fun m c hc => ?_
  rw [digitValue, if_pos (isDigit_of_mem_toDigits c hc)]

theorem integer?_toDigits (n : Nat) : integer? (Nat.toDigits 10 n) = some (n : Int) := by
  rcases Nat.eq_zero_or_pos n with rfl | hn
  · rfl
  obtain ⟨d, ds, hds, hzero⟩ := toDigits_head hn
  have hdigits := isDigit_of_mem_toDigits (n := n)
  have hvalue := valueOf_toDigits n
  rw [hds] at hdigits hvalue ⊢
  have hd := hdigits d List.mem_cons_self
  have hsign : sign (d :: ds) = (1, d :: ds) := by
    rw [sign]
    · rintro cs h
      obtain rfl := (List.cons.inj h).1
      exact absurd hd (by decide)
    · rintro cs h
      obtain rfl := (List.cons.inj h).1
      exact absurd hd (by decide)
  have hdecimal : decimalDigits? (d :: ds) = some (d :: ds) := by
    rw [decimalDigits?]
    · exact ungroup_digits hdigits (.inr (List.cons_ne_nil _ _))
    · exact fun _ _ h => hzero (List.cons.inj h).1
  rw [integer?]
  · simp only [hsign, hdecimal, Option.map_some, hvalue, one_mul]
  · exact fun _ h => hzero (List.cons.inj h).1
  · exact fun _ h => hzero (List.cons.inj h).1
  · exact fun _ h => hzero (List.cons.inj h).1

theorem scalar?_toDigits (n : Nat) : scalar? (Nat.toDigits 10 n) = some (.integer n) := by
  obtain ⟨d, ds, hds, hd⟩ := toDigits_cons n
  have hword : ∀ word : List Char, word.head?.all Char.isDigit = false → Nat.toDigits 10 n ≠ word := by
    rintro word hword rfl
    simp [hds, hd] at hword
  rw [scalar?, if_neg (hword _ (by decide)), if_neg (hword _ (by decide)), integer?_toDigits]

theorem isScalarChar_of_isDigit {c : Char} (hc : c.isDigit = true) : isScalarChar c = true := by
  have hmarks : ∀ mark ∈ " \t\r\n,[]\x7b\x7d#=\"'".toList, mark.isDigit = false := by
    simp
  rw [isScalarChar, Bool.not_eq_true', ← Bool.not_eq_true, List.contains_iff_mem]
  intro hmark
  rw [hmarks c hmark] at hc
  cases hc

theorem readScalar_toDigits (n : Nat) (rest : List Char) :
    readScalar (Nat.toDigits 10 n ++ '\n' :: rest) = some (.integer n, '\n' :: rest) := by
  have hspan : (Nat.toDigits 10 n ++ '\n' :: rest).span isScalarChar =
      (Nat.toDigits 10 n, '\n' :: rest) := by
    refine span_append (fun c hc => isScalarChar_of_isDigit (isDigit_of_mem_toDigits c hc)) ?_
    rintro c ⟨⟩
    decide
  simp only [readScalar, hspan, scalar?_toDigits, Option.bind_eq_bind, Option.bind_some]
  rfl

/-! Values -/

/-- What is written for a value is read as it, up to the end of the line. -/
structure ReadsAs (written : List Char) (v : Toml) : Prop where
  start : ∃ c cs, written = c :: cs ∧ isSpaceOrTab c = false
  read : ∀ fuel depth rest,
    readValue (fuel + 1) depth (written ++ '\n' :: rest) = some (v, '\n' :: rest)

theorem readsAs_toDigits (n : Nat) : ReadsAs (Nat.toDigits 10 n) (.integer n) := by
  obtain ⟨d, ds, hds, hd⟩ := toDigits_cons n
  have hother : ∀ c : Char, c.isDigit = false → (d == c) = false := by
    intro c hc
    rw [beq_eq_false_iff_ne]
    rintro rfl
    rw [hd] at hc
    cases hc
  refine ⟨⟨d, ds, hds, ?_⟩, fun fuel depth rest => ?_⟩
  · rw [isSpaceOrTab, hother ' ' (by decide), hother '\t' (by decide)]
    rfl
  · have hscalar := readScalar_toDigits n rest
    have hquote : quote? d = none := by
      rw [quote?, hother '"' (by decide), hother '\'' (by decide)]
      rfl
    rw [hds, List.cons_append] at hscalar ⊢
    simp only [readValue, hquote, hother '[' (by decide), hother '\x7b' (by decide), Bool.or_self,
      Bool.false_eq_true, if_false, hscalar]

theorem quote?_char (q : Quote) : quote? q.char = some q := by
  cases q <;> rfl

theorem readsAs_writeChars (text : List Char) :
    ReadsAs (writeChars text) (.text (String.ofList text)) := by
  obtain ⟨body, -, hwritten⟩ := writeChars_eq text
  obtain ⟨cs, hcs⟩ : ∃ cs, writeChars text = (styleOf text).quote.char :: cs := by
    cases hs : (styleOf text).tripled <;>
      exact ⟨_, by rw [hwritten]; simp [Style.fence, hs, List.replicate]; rfl⟩
  refine ⟨⟨_, cs, hcs, ?_⟩, fun fuel depth rest => ?_⟩
  · cases (styleOf text).quote <;> rfl
  · have hread := readText_writeChars text ('\n' :: rest) (by intro q; cases q <;> simp [Quote.char])
    rw [hcs, List.cons_append] at hread ⊢
    simp only [readValue, quote?_char, hread]
    rfl

/-! Keys -/

structure BareName (name : String) : Prop where
  named : name.toList ≠ []
  bare : ∀ c ∈ name.toList, isBare c = true

theorem BareName.cons {name : String} (h : BareName name) :
    ∃ c cs, name.toList = c :: cs ∧ isBare c = true := by
  obtain ⟨c, cs, hname⟩ := List.exists_cons_of_ne_nil h.named
  exact ⟨c, cs, hname, h.bare c (hname ▸ List.mem_cons_self)⟩

/-- A bare key is not taken for anything else. -/
theorem ne_of_isBare {c d : Char} (hc : isBare c = true) (hd : isBare d = false) : c ≠ d := by
  rintro rfl
  rw [hc] at hd
  cases hd

theorem readKey_bare {name : String} (h : BareName name) (rest : List Char)
    (hrest : ∀ c ∈ rest.head?, isBare c = false) (hdot : (dropBlanks rest).head? ≠ some '.')
    (fuel : Nat) :
    readKey (fuel + 1) (name.toList ++ rest) = some ([], name, dropBlanks rest) := by
  obtain ⟨c, cs, hname, hc⟩ := h.cons
  have hspan := span_append h.bare hrest
  have hpart : readKeyPart (name.toList ++ rest) = some (name, rest) := by
    have hquote : quote? c = none := by
      have hdouble := ne_of_isBare hc (d := '"') (by decide)
      have hsingle := ne_of_isBare hc (d := '\'') (by decide)
      simp [quote?, hdouble, hsingle]
    rw [hname, List.cons_append] at hspan ⊢
    simp only [readKeyPart, hquote, hspan, List.isEmpty_cons, Bool.false_eq_true, if_false]
    rw [← hname, String.ofList_toList]
  have hblanks : dropBlanks (name.toList ++ rest) = name.toList ++ rest := by
    have hspace := ne_of_isBare hc (d := ' ') (by decide)
    have htab := ne_of_isBare hc (d := '\t') (by decide)
    rw [hname, List.cons_append, dropBlanks, List.dropWhile_cons_of_neg]
    simp [isSpaceOrTab, hspace, htab]
  rw [readKey, hblanks, hpart]
  simp only [Option.bind_eq_bind, Option.bind_some]
  split
  · next more heq => exact absurd (congrArg List.head? heq) hdot
  · rfl

/-! Statements -/

def headerLine (name : String) : List Char := '[' :: (name.toList ++ [']', '\n'])

def entryLine (name : String) (written : List Char) : List Char :=
  name.toList ++ ' ' :: '=' :: ' ' :: (written ++ ['\n'])

theorem readStatement_header {name : String} (h : BareName name) (rest : List Char) :
    readStatement (headerLine name ++ rest) = some (.header [] name, rest) := by
  obtain ⟨c, cs, hname, hc⟩ := h.cons
  have hkey := fun fuel => readKey_bare h (']' :: '\n' :: rest) (by rintro c ⟨⟩; decide)
    (by simp [dropBlanks, isSpaceOrTab]) fuel
  have hline : headerLine name ++ rest = '[' :: (name.toList ++ ']' :: '\n' :: rest) := by
    simp [headerLine]
  rw [hline, readStatement]
  · simp only [hkey, Option.bind_eq_bind, Option.bind_some]
    rfl
  · rintro cs heq
    rw [hname] at heq
    exact ne_of_isBare hc (by decide) (List.cons.inj heq).1

theorem readStatement_entry {name : String} (h : BareName name) {written : List Char} {v : Toml}
    (hv : ReadsAs written v) (rest : List Char) :
    readStatement (entryLine name written ++ rest) = some (.entry [] name v, rest) := by
  obtain ⟨c, cs, hname, hc⟩ := h.cons
  obtain ⟨d, ds, hwritten, hd⟩ := hv.start
  have hkey := fun fuel => readKey_bare h (' ' :: '=' :: ' ' :: (written ++ '\n' :: rest))
    (by rintro c ⟨⟩; decide) (by simp [dropBlanks, isSpaceOrTab]) fuel
  have hline : entryLine name written ++ rest =
      name.toList ++ ' ' :: '=' :: ' ' :: (written ++ '\n' :: rest) := by
    simp [entryLine]
  have hsign : expect? '=' (dropBlanks (' ' :: '=' :: ' ' :: (written ++ '\n' :: rest))) =
      some (' ' :: (written ++ '\n' :: rest)) := rfl
  have hvalue : dropBlanks (' ' :: (written ++ '\n' :: rest)) = written ++ '\n' :: rest := by
    rw [hwritten, List.cons_append, dropBlanks, List.dropWhile_cons_of_pos (by rfl),
      List.dropWhile_cons_of_neg (by rw [hd]; exact Bool.false_ne_true)]
  have hbracket : ∀ cs, name.toList ++ ' ' :: '=' :: ' ' :: (written ++ '\n' :: rest) ≠ '[' :: cs := by
    rintro cs heq
    rw [hname] at heq
    exact ne_of_isBare hc (by decide) (List.cons.inj heq).1
  rw [hline, readStatement]
  · simp only [hkey, Option.bind_eq_bind, Option.bind_some, hsign, hvalue, hv.read]
    rfl
  · exact fun cs => hbracket _
  · exact hbracket

/-! Comments -/

inductive Comment : List Char → Prop where
  | empty : Comment []
  | hash {cs : List Char} (plain : ∀ c ∈ cs, isPlain c = true) : Comment ('#' :: cs)

theorem skipVoid_plain {cs : List Char} (h : ∀ c ∈ cs, isPlain c = true) (rest : List Char) :
    skipVoid true (cs ++ '\n' :: rest) = skipVoid false rest := by
  induction cs with
  | nil => rfl
  | cons c cs ih =>
    obtain ⟨hc, hcs⟩ := List.forall_mem_cons.mp h
    have hne : ∀ d, isPlain d = false → c ≠ d := by
      rintro d hd rfl
      rw [hc] at hd
      cases hd
    have hfeed := hne '\n' (by decide)
    rw [List.cons_append, skipVoid]
    · simpa [hfeed, hc] using ih hcs
    · exact fun _ hreturn _ => hne '\r' (by decide) hreturn

theorem skipVoid_comment {line : List Char} (h : Comment line) (rest : List Char) :
    skipVoid false (line ++ '\n' :: rest) = skipVoid false rest := by
  cases h with
  | empty => rfl
  | hash plain => exact skipVoid_plain plain rest

/-! Documents -/

/-- A text that consists of statements, with space and comments in front of each and at the end. -/
inductive Document : List Statement → List Char → Prop where
  | done {cs : List Char} (hvoid : skipVoid false cs = some []) : Document [] cs
  | step {s : Statement} {ss : List Statement} {cs start rest : List Char}
      (hvoid : skipVoid false cs = some start) (hstart : start ≠ [])
      (hread : readStatement start = some (s, rest)) (htail : Document ss rest) :
      Document (s :: ss) cs

theorem Document.readStatements {ss : List Statement} {cs : List Char} (h : Document ss cs)
    {fuel : Nat} (hfuel : ss.length < fuel) (draft : Draft) :
    Toml.readStatements fuel draft cs = (ss.foldlM Draft.add draft).map (·.entries) := by
  induction h generalizing fuel draft with
  | done hvoid =>
    obtain ⟨fuel, rfl⟩ := Nat.exists_eq_succ_of_ne_zero (Nat.ne_of_gt hfuel)
    simp only [Toml.readStatements, hvoid, Option.bind_eq_bind, Option.bind_some]
    rfl
  | @step s ss cs start rest hvoid hstart hread htail ih =>
    obtain ⟨fuel, rfl⟩ := Nat.exists_eq_succ_of_ne_zero (Nat.ne_of_gt (Nat.zero_lt_of_lt hfuel))
    obtain ⟨c, cs, rfl⟩ := List.exists_cons_of_ne_nil hstart
    simp only [Toml.readStatements, hvoid, Option.bind_eq_bind, Option.bind_some, hread,
      List.foldlM_cons, Option.map_bind]
    exact congrArg _ (funext fun d => ih (Nat.lt_of_succ_lt_succ hfuel) d)

namespace Document

variable {ss : List Statement} {cs : List Char}

theorem nil : Document [] [] := .done rfl

theorem comment {line : List Char} (hline : Comment line) (h : Document ss cs) :
    Document ss (line ++ '\n' :: cs) := by
  have hskip := skipVoid_comment hline cs
  cases h with
  | done hvoid => exact .done (hskip.trans hvoid)
  | step hvoid hstart hread htail => exact .step (hskip.trans hvoid) hstart hread htail

theorem newline (h : Document ss cs) : Document ss ('\n' :: cs) := h.comment .empty

theorem header {name : String} (hname : BareName name) (h : Document ss cs) :
    Document (.header [] name :: ss) (headerLine name ++ cs) := by
  have hvoid : skipVoid false (headerLine name ++ cs) = some (headerLine name ++ cs) := rfl
  exact .step hvoid (by simp [headerLine]) (readStatement_header hname cs) h

theorem entry {name : String} (hname : BareName name) {written : List Char} {v : Toml}
    (hv : ReadsAs written v) (h : Document ss cs) :
    Document (.entry [] name v :: ss) (entryLine name written ++ cs) := by
  obtain ⟨c, rest, hcons, hc⟩ := hname.cons
  have hcomment := ne_of_isBare hc (d := '#') (by decide)
  have hfeed := ne_of_isBare hc (d := '\n') (by decide)
  have hspace := ne_of_isBare hc (d := ' ') (by decide)
  have htab := ne_of_isBare hc (d := '\t') (by decide)
  have hvoid : skipVoid false (entryLine name written ++ cs) = some (entryLine name written ++ cs) := by
    rw [entryLine, hcons, List.cons_append, List.cons_append, skipVoid]
    · simp [hcomment, hfeed, isSpaceOrTab, hspace, htab]
    · exact fun _ hreturn _ => ne_of_isBare hc (by decide) hreturn
  exact .step hvoid (by simp [entryLine]) (readStatement_entry hname hv cs) h

theorem parse {text : String} (h : Document ss text.toList) (hlength : ss.length ≤ text.toList.length)
    (hmark : text.toList.head? ≠ some '\uFEFF') :
    Toml.parse text = (ss.foldlM Draft.add ⟨[], []⟩).map (·.entries) := by
  have hdrop : dropMark text.toList = text.toList := by
    rw [dropMark]
    intro cs hcs
    rw [hcs] at hmark
    exact hmark rfl
  rw [Toml.parse, hdrop]
  exact h.readStatements (Nat.lt_succ_of_le hlength) _

end Document

end MediaCatalogue.Toml
