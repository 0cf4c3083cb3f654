import Mathlib
import MediaCatalogue.Json.Printer
import MediaCatalogue.Json.Reader
import MediaCatalogue.Proofs.Json.Number

/-! The parts of a written array or object, and the space around them: the reader goes from one part to
the next as the style lays them out. -/

namespace MediaCatalogue.Json

def Blank (cs : List Char) : Prop := ∀ c ∈ cs, isSpace c = true

/-- The style puts only space between the parts of a value. -/
structure Style.Spaced (style : Style) : Prop where
  line : ∀ level, Blank (style.lineAt level)
  colon : Blank style.afterColon

theorem spaced_compact : compact.Spaced :=
  ⟨fun _ _ h => absurd h List.not_mem_nil, fun _ h => absurd h List.not_mem_nil⟩

theorem spaced_pretty : pretty.Spaced := by
  constructor
  · intro level c hc
    rcases List.mem_cons.mp hc with rfl | hc
    · rfl
    · rw [(List.mem_replicate.mp hc).2]
      rfl
  · intro c hc
    rw [List.mem_singleton.mp hc]
    rfl

theorem skipSpace_append {blank : List Char} (h : Blank blank) (cs : List Char) :
    skipSpace (blank ++ cs) = skipSpace cs := List.dropWhile_append_of_pos h

theorem skipSpace_cons {c : Char} (h : isSpace c = false) (cs : List Char) :
    skipSpace (c :: cs) = c :: cs := by
  rw [skipSpace, List.dropWhile_cons_of_neg (by simp [h])]

/-- The text starts with a character that is neither space nor a closing bracket. -/
def Opens (cs : List Char) : Prop :=
  ∃ c rest, cs = c :: rest ∧ isSpace c = false ∧ c ≠ ']' ∧ c ≠ '\x7d'

theorem Opens.append {cs : List Char} (h : Opens cs) (rest : List Char) : Opens (cs ++ rest) := by
  obtain ⟨c, cs', rfl, hc⟩ := h
  exact ⟨c, cs' ++ rest, rfl, hc⟩

theorem Opens.skipSpace {cs : List Char} (h : Opens cs) : skipSpace cs = cs := by
  obtain ⟨c, rest, rfl, hc, -⟩ := h
  exact skipSpace_cons hc rest

theorem Opens.length_pos {cs : List Char} (h : Opens cs) : 0 < cs.length := by
  obtain ⟨c, rest, rfl, -⟩ := h
  exact Nat.succ_pos _

theorem opens_writeText (text : String) : Opens (writeText text) :=
  ⟨'"', _, rfl, by decide, by decide, by decide⟩

def startsNumber (c : Char) : Bool := c == '-' || c.isDigit

theorem toString_first (n : Int) : ∃ c cs, (toString n).toList = c :: cs ∧ startsNumber c = true := by
  cases n with
  | ofNat m =>
    obtain ⟨d, ds, hds, hd⟩ := toDigits_cons m
    exact ⟨d, ds, by rw [toList_toString_ofNat, hds], by simp [startsNumber, hd]⟩
  | negSucc m => exact ⟨'-', _, toList_toString_negSucc m, rfl⟩

theorem ne_of_startsNumber {c d : Char} (hc : startsNumber c = true) (hd : startsNumber d = false) :
    c ≠ d := by
  rintro rfl
  rw [hc] at hd
  cases hd

theorem opens_toString (n : Int) : Opens (toString n).toList := by
  obtain ⟨c, cs, hcs, hc⟩ := toString_first n
  have hspace : isSpace c = false := by
    simp only [isSpace, Bool.or_eq_false_iff, beq_eq_false_iff_ne]
    exact ⟨⟨⟨ne_of_startsNumber hc rfl, ne_of_startsNumber hc rfl⟩, ne_of_startsNumber hc rfl⟩,
      ne_of_startsNumber hc rfl⟩
  exact ⟨c, cs, hcs, hspace, ne_of_startsNumber hc rfl, ne_of_startsNumber hc rfl⟩

/-- What stands behind a part: the further parts and the closing bracket. -/
def behindPart (style : Style) (level : Nat) (closing : Char) : List (List Char) → List Char
  | [] => style.lineAt level ++ [closing]
  | part :: parts =>
    ',' :: (style.lineAt (level + 1) ++ (part ++ behindPart style level closing parts))

theorem enclose_cons (style : Style) (level : Nat) (opening closing : Char) (part : List Char)
    (parts : List (List Char)) :
    enclose style level opening closing (part :: parts) =
      opening :: (style.lineAt (level + 1) ++ (part ++ behindPart style level closing parts)) := by
  induction parts generalizing part with
  | nil => simp [enclose, behindPart]
  | cons part' parts ih =>
    have ih := List.cons.inj (ih part')
    rw [behindPart, ← ih.2]
    simp [enclose, List.intercalate_cons_cons]

theorem endsNumber_of_isSpace {c : Char} (h : isSpace c = true) :
    c.isDigit = false ∧ c ≠ '.' ∧ c ≠ 'e' ∧ c ≠ 'E' := by
  simp only [isSpace, Bool.or_eq_true, beq_iff_eq] at h
  rcases h with ((rfl | rfl) | rfl) | rfl <;> decide

theorem endsNumber_behindPart {style : Style} (hs : style.Spaced) (level : Nat) {closing : Char}
    (hc : closing = ']' ∨ closing = '\x7d') (parts : List (List Char)) (rest : List Char) :
    EndsNumber (behindPart style level closing parts ++ rest) := by
  intro c cs h
  cases parts with
  | cons part parts =>
    obtain rfl : ',' = c := (List.cons.inj h).1
    decide
  | nil =>
    cases hline : style.lineAt level with
    | nil =>
      rw [behindPart, hline] at h
      obtain rfl : closing = c := (List.cons.inj h).1
      rcases hc with rfl | rfl <;> decide
    | cons b blank =>
      rw [behindPart, hline] at h
      obtain rfl : b = c := (List.cons.inj h).1
      exact endsNumber_of_isSpace (hs.line level b (hline ▸ List.mem_cons_self))

theorem length_behindPart_pos (style : Style) (level : Nat) (closing : Char)
    (parts : List (List Char)) : 0 < (behindPart style level closing parts).length := by
  cases parts <;> simp [behindPart]

theorem next_closing {blank : List Char} (hb : Blank blank) {closing : Char}
    (hc : isSpace closing = false) (first : Bool) (rest : List Char) :
    next closing first (blank ++ closing :: rest) = .closed rest := by
  rw [next, skipSpace_append hb, skipSpace_cons hc]
  simp

theorem next_first {blank cs : List Char} (hb : Blank blank) (h : Opens cs) {closing : Char}
    (hc : closing = ']' ∨ closing = '\x7d') : next closing true (blank ++ cs) = .more cs := by
  obtain ⟨c, rest, rfl, hspace, hsquare, hcurly⟩ := h
  have hne : (c == closing) = false := by
    rw [beq_eq_false_iff_ne]
    rcases hc with rfl | rfl <;> assumption
  rw [next, skipSpace_append hb, skipSpace_cons hspace]
  simp only [hne, Bool.false_eq_true, if_false, if_true]

theorem next_comma {blank cs : List Char} (hb : Blank blank) (h : Opens cs) {closing : Char}
    (hc : closing = ']' ∨ closing = '\x7d') : next closing false (',' :: (blank ++ cs)) = .more cs := by
  obtain ⟨c, rest, rfl, hspace, hsquare, hcurly⟩ := h
  have hne : (c == closing) = false := by
    rw [beq_eq_false_iff_ne]
    rcases hc with rfl | rfl <;> assumption
  have hcomma : (',' == closing) = false := by rcases hc with rfl | rfl <;> rfl
  rw [next, skipSpace_cons (by decide)]
  simp only [hcomma, Bool.false_eq_true, if_false, skipSpace_append hb, skipSpace_cons hspace, hne,
    beq_self_eq_true, if_true]

end MediaCatalogue.Json
