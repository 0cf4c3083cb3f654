import MediaCatalogue.Proofs.Json.Layout
import MediaCatalogue.Proofs.Json.Text

/-! A value is read back as it was written, in any style that puts only space between its parts. The
induction is on the value, for any text behind it that cannot go on with a number. -/

namespace MediaCatalogue.Json

mutual

/-- Nothing is missing from a value, and its numbers are integers of 64 bits. -/
def Whole : Json → Prop
  | .integer n => Exact n
  | .decimal _ => False
  | .broken _ => False
  | .array items ending => WholeItems items ∧ ending = none
  | .object entries ending => WholeEntries entries ∧ ending = none
  | _ => True

def WholeItems : List Json → Prop
  | [] => True
  | j :: js => j.Whole ∧ WholeItems js

def WholeEntries : List (String × Json) → Prop
  | [] => True
  | (_, j) :: js => j.Whole ∧ WholeEntries js

end

mutual

def levels : Json → Nat
  | .array items _ => levelsItems items + 1
  | .object entries _ => levelsEntries entries + 1
  | _ => 0

def levelsItems : List Json → Nat
  | [] => 0
  | j :: js => max j.levels (levelsItems js)

def levelsEntries : List (String × Json) → Nat
  | [] => 0
  | (_, j) :: js => max j.levels (levelsEntries js)

end

theorem opens_write (style : Style) (level : Nat) {j : Json} (h : j.Whole) :
    Opens (j.write style level) := by
  cases j with
  | null => exact ⟨'n', _, rfl, by decide, by decide, by decide⟩
  | bool b => cases b <;> exact ⟨_, _, rfl, by decide, by decide, by decide⟩
  | integer n => exact opens_toString n
  | decimal text => exact absurd h id
  | string text => exact opens_writeText text
  | array items ending =>
    rw [write]
    cases writeItems style (level + 1) items <;> exact ⟨'[', _, rfl, by decide, by decide, by decide⟩
  | object entries ending =>
    rw [write]
    cases writeEntries style (level + 1) entries <;>
      exact ⟨'\x7b', _, rfl, by decide, by decide, by decide⟩
  | broken fault => exact absurd h id

theorem readValue_append {blank : List Char} (hb : Blank blank) (fuel depth : Nat) (cs : List Char) :
    readValue fuel depth (blank ++ cs) = readValue fuel depth cs := by
  cases fuel with
  | zero => rfl
  | succ fuel =>
    unfold readValue
    rw [skipSpace_append hb]

/-- The text of a value that is neither an array nor an object. -/
theorem readValue_scalar {cs rest : List Char} {j : Json} (ho : Opens cs)
    (hscalar : ∀ c t, cs = c :: t → c ≠ '[' ∧ c ≠ '\x7b')
    (h : readScalar (cs ++ rest) = .ok (j, rest)) (fuel depth : Nat) :
    readValue (fuel + 1) depth (cs ++ rest) = (j, some rest) := by
  unfold readValue
  rw [(ho.append rest).skipSpace]
  obtain ⟨c, t, rfl, -⟩ := ho
  obtain ⟨hsquare, hcurly⟩ := hscalar c t rfl
  split
  · next heq => exact absurd (List.cons.inj heq).1 hsquare
  · next heq => exact absurd (List.cons.inj heq).1 hcurly
  · next heq => exact absurd (List.cons.inj heq).1 hsquare
  · next heq => exact absurd (List.cons.inj heq).1 hcurly
  · rw [h, settle]

theorem readScalar_string (text : String) (rest : List Char) :
    readScalar (writeText text ++ rest) = .ok (.string text, rest) := by
  have hread := readText_written text rest
  rw [writeText, List.cons_append, List.append_assoc, List.singleton_append, readScalar]
  simp only [beq_self_eq_true, if_true, hread, bind, Except.bind, pure, Except.pure]

theorem readScalar_integer {n : Int} (hn : Exact n) {rest : List Char} (hrest : EndsNumber rest) :
    readScalar ((toString n).toList ++ rest) = .ok (.integer n, rest) := by
  have hread := readNumber_toString hn hrest
  obtain ⟨c, cs, hcs, hc⟩ := toString_first n
  rw [hcs, List.cons_append] at hread ⊢
  have hsign : (c == '-' || c.isDigit) = true := hc
  rw [readScalar, if_neg (by simpa using ne_of_startsNumber hc rfl), if_pos hsign, hread]

theorem readValue_bracket (fuel depth : Nat) (cs : List Char) :
    readValue (fuel + 1) (depth + 1) ('[' :: cs) =
      (.array (readItems fuel depth true cs).1 (readItems fuel depth true cs).2.1,
        (readItems fuel depth true cs).2.2) := rfl

theorem readValue_brace (fuel depth : Nat) (cs : List Char) :
    readValue (fuel + 1) (depth + 1) ('\x7b' :: cs) =
      (.object (readEntries fuel depth true cs).1 (readEntries fuel depth true cs).2.1,
        (readEntries fuel depth true cs).2.2) := rfl

/-- One item is read, and then the further ones. -/
theorem readItems_more {fuel depth : Nat} {first : Bool} {text cs behind rest : List Char} {j : Json}
    {js : List Json} (hnext : next ']' first text = .more cs)
    (hvalue : readValue fuel depth cs = (j, some behind))
    (hbehind : readItems fuel depth false behind = (js, none, some rest)) :
    readItems (fuel + 1) depth first text = (j :: js, none, some rest) := by
  rw [readItems, hnext]
  simp only [hvalue, hbehind]

theorem readEntries_more {style : Style} (hs : style.Spaced) {fuel depth : Nat} {first : Bool}
    {text cs behind rest : List Char} {key : String} {j : Json} {js : List (String × Json)}
    (hnext : next '\x7d' first text = .more (writeText key ++ ':' :: (style.afterColon ++ cs)))
    (hvalue : readValue fuel depth cs = (j, some behind))
    (hbehind : readEntries fuel depth false behind = (js, none, some rest)) :
    readEntries (fuel + 1) depth first text = ((key, j) :: js, none, some rest) := by
  have hkey : readKey (writeText key ++ ':' :: (style.afterColon ++ cs)) =
      .ok (key, ':' :: (style.afterColon ++ cs)) := by
    rw [writeText, List.cons_append, List.append_assoc]
    exact readText_written key _
  have hcolon : readColon (':' :: (style.afterColon ++ cs)) = .ok (style.afterColon ++ cs) := rfl
  rw [readEntries, hnext]
  simp only [hkey, hcolon, readValue_append hs.colon, hvalue, hbehind]

mutual

/-- The fuel is enough for the text: every step down takes a character, and so does every item. -/
theorem readValue_write {style : Style} (hs : style.Spaced) :
    ∀ (j : Json) {level depth fuel : Nat} {rest : List Char}, j.Whole → j.levels ≤ depth →
      2 * (j.write style level).length ≤ fuel → EndsNumber rest →
      readValue fuel depth (j.write style level ++ rest) = (j, some rest)
  | .null, level, depth, fuel, rest, hj, _, hf, _ => by
    obtain ⟨n, rfl⟩ : ∃ n, fuel = n + 1 := ⟨fuel - 1, by simp [write] at hf; omega⟩
    exact readValue_scalar (opens_write style level hj) (by rintro c t ⟨rfl, -⟩; decide) rfl n depth
  | .bool b, level, depth, fuel, rest, hj, _, hf, _ => by
    have hpos := (opens_write style level hj).length_pos
    obtain ⟨n, rfl⟩ : ∃ n, fuel = n + 1 := ⟨fuel - 1, by omega⟩
    cases b <;>
      exact readValue_scalar (opens_write style level hj) (by rintro c t ⟨rfl, -⟩; decide) rfl n depth
  | .integer n, level, depth, fuel, rest, hj, _, hf, hr => by
    have hpos := (opens_toString n).length_pos
    obtain ⟨c, cs, hcs, hc⟩ := toString_first n
    obtain ⟨k, rfl⟩ : ∃ k, fuel = k + 1 := ⟨fuel - 1, by rw [write] at hf; omega⟩
    refine readValue_scalar (opens_toString n) ?_ (readScalar_integer hj hr) k depth
    intro c' t h
    obtain rfl : c = c' := (List.cons.inj (hcs.symm.trans h)).1
    exact ⟨ne_of_startsNumber hc rfl, ne_of_startsNumber hc rfl⟩
  | .decimal _, _, _, _, _, hj, _, _, _ => absurd hj id
  | .string text, level, depth, fuel, rest, hj, _, hf, _ => by
    obtain ⟨n, rfl⟩ : ∃ n, fuel = n + 1 := ⟨fuel - 1, by simp [write, writeText] at hf; omega⟩
    exact readValue_scalar (opens_writeText text) (by rintro c t ⟨rfl, -⟩; decide)
      (readScalar_string text rest) n depth
  | .array items ending, level, depth, fuel, rest, hj, hd, hf, _ => by
    obtain ⟨hitems, rfl⟩ := hj
    obtain ⟨d, rfl⟩ : ∃ d, depth = d + 1 := ⟨depth - 1, by simp only [levels] at hd; omega⟩
    cases items with
    | nil =>
      obtain ⟨n, rfl⟩ : ∃ n, fuel = n + 2 :=
        ⟨fuel - 2, by simp [write, writeItems, enclose] at hf; omega⟩
      rfl
    | cons j js =>
      obtain ⟨hj, hjs⟩ := hitems
      have hopens := opens_write style (level + 1) hj
      have hpos := hopens.length_pos
      have hbehind := length_behindPart_pos style level ']' (writeItems style (level + 1) js)
      simp only [write, writeItems, enclose_cons, List.length_cons, List.length_append] at hf
      simp only [levels, levelsItems] at hd
      obtain ⟨n, rfl⟩ : ∃ n, fuel = n + 2 := ⟨fuel - 2, by omega⟩
      rw [write, writeItems, enclose_cons, List.cons_append, List.append_assoc, List.append_assoc,
        readValue_bracket, readItems_more (next_first (hs.line _) (hopens.append _) (.inl rfl))
          (readValue_write hs j hj (by omega) (by omega) (endsNumber_behindPart hs _ (.inl rfl) _ _))
          (readItems_behindPart hs js hjs (by omega) (by omega))]
  | .object entries ending, level, depth, fuel, rest, hj, hd, hf, _ => by
    obtain ⟨hentries, rfl⟩ := hj
    obtain ⟨d, rfl⟩ : ∃ d, depth = d + 1 := ⟨depth - 1, by simp only [levels] at hd; omega⟩
    cases entries with
    | nil =>
      obtain ⟨n, rfl⟩ : ∃ n, fuel = n + 2 :=
        ⟨fuel - 2, by simp [write, writeEntries, enclose] at hf; omega⟩
      rfl
    | cons entry js =>
      obtain ⟨key, j⟩ := entry
      obtain ⟨hj, hjs⟩ := hentries
      have hopens := opens_writeText key
      have hpos := (opens_write style (level + 1) hj).length_pos
      have hbehind := length_behindPart_pos style level '\x7d' (writeEntries style (level + 1) js)
      simp only [write, writeEntries, enclose_cons, List.length_cons, List.length_append] at hf
      simp only [levels, levelsEntries] at hd
      obtain ⟨n, rfl⟩ : ∃ n, fuel = n + 2 := ⟨fuel - 2, by omega⟩
      rw [write, writeEntries, enclose_cons, List.cons_append, List.append_assoc, List.append_assoc,
        List.append_assoc, List.cons_append, List.append_assoc,
        readValue_brace, readEntries_more hs (next_first (hs.line _) (hopens.append _) (.inr rfl))
          (readValue_write hs j hj (by omega) (by omega) (endsNumber_behindPart hs _ (.inr rfl) _ _))
          (readEntries_behindPart hs js hjs (by omega) (by omega))]
  | .broken _, _, _, _, _, hj, _, _, _ => absurd hj id

theorem readItems_behindPart {style : Style} (hs : style.Spaced) :
    ∀ (js : List Json) {level depth fuel : Nat} {rest : List Char}, WholeItems js →
      levelsItems js ≤ depth →
      2 * (behindPart style level ']' (writeItems style (level + 1) js)).length ≤ fuel →
      readItems fuel depth false
          (behindPart style level ']' (writeItems style (level + 1) js) ++ rest) = (js, none, some rest)
  | [], level, depth, fuel, rest, _, _, hf => by
    obtain ⟨n, rfl⟩ : ∃ n, fuel = n + 1 := ⟨fuel - 1, by simp [writeItems, behindPart] at hf; omega⟩
    rw [writeItems, behindPart, List.append_assoc, List.singleton_append, readItems,
      next_closing (hs.line level) (by decide)]
  | j :: js, level, depth, fuel, rest, hj, hd, hf => by
    obtain ⟨hj, hjs⟩ := hj
    have hopens := opens_write style (level + 1) hj
    have hpos := hopens.length_pos
    have hbehind := length_behindPart_pos style level ']' (writeItems style (level + 1) js)
    simp only [writeItems, behindPart, List.length_cons, List.length_append] at hf
    simp only [levelsItems] at hd
    obtain ⟨n, rfl⟩ : ∃ n, fuel = n + 1 := ⟨fuel - 1, by omega⟩
    rw [writeItems, behindPart, List.cons_append, List.append_assoc, List.append_assoc]
    exact readItems_more (next_comma (hs.line _) (hopens.append _) (.inl rfl))
      (readValue_write hs j hj (by omega) (by omega) (endsNumber_behindPart hs _ (.inl rfl) _ _))
      (readItems_behindPart hs js hjs (by omega) (by omega))

theorem readEntries_behindPart {style : Style} (hs : style.Spaced) :
    ∀ (js : List (String × Json)) {level depth fuel : Nat} {rest : List Char}, WholeEntries js →
      levelsEntries js ≤ depth →
      2 * (behindPart style level '\x7d' (writeEntries style (level + 1) js)).length ≤ fuel →
      readEntries fuel depth false
          (behindPart style level '\x7d' (writeEntries style (level + 1) js) ++ rest) =
        (js, none, some rest)
  | [], level, depth, fuel, rest, _, _, hf => by
    obtain ⟨n, rfl⟩ : ∃ n, fuel = n + 1 := ⟨fuel - 1, by simp [writeEntries, behindPart] at hf; omega⟩
    rw [writeEntries, behindPart, List.append_assoc, List.singleton_append, readEntries,
      next_closing (hs.line level) (by decide)]
  | (key, j) :: js, level, depth, fuel, rest, hj, hd, hf => by
    obtain ⟨hj, hjs⟩ := hj
    have hopens := opens_writeText key
    have hpos := (opens_write style (level + 1) hj).length_pos
    have hbehind := length_behindPart_pos style level '\x7d' (writeEntries style (level + 1) js)
    simp only [writeEntries, behindPart, List.length_cons, List.length_append] at hf
    simp only [levelsEntries] at hd
    obtain ⟨n, rfl⟩ : ∃ n, fuel = n + 1 := ⟨fuel - 1, by omega⟩
    rw [writeEntries, behindPart, List.cons_append, List.append_assoc, List.append_assoc,
      List.append_assoc, List.cons_append, List.append_assoc]
    exact readEntries_more hs (next_comma (hs.line _) (hopens.append _) (.inr rfl))
      (readValue_write hs j hj (by omega) (by omega) (endsNumber_behindPart hs _ (.inr rfl) _ _))
      (readEntries_behindPart hs js hjs (by omega) (by omega))

end

/-- What is decoded is the value that was written; space may stand behind it. -/
theorem decode_print {α : Type} (decoder : Json → Except Fault α) {style : Style} (hs : style.Spaced)
    {j : Json} (hj : j.Whole) (hlevels : j.levels ≤ maxDepth) {blank : String} (hb : Blank blank.toList) :
    decode decoder (j.print style ++ blank) = decoder j := by
  have htext : (j.print style ++ blank).toList = j.write style 0 ++ blank.toList := by
    rw [String.toList_append, print, String.toList_ofList]
  have hends : EndsNumber blank.toList := by
    intro c cs h
    exact endsNumber_of_isSpace (hb c (h ▸ List.mem_cons_self))
  have hspace : skipSpace blank.toList = [] := List.dropWhile_eq_nil_iff.mpr hb
  have hfuel : 2 * (j.write style 0).length ≤ fuelFor (j.write style 0 ++ blank.toList) := by
    rw [fuelFor, List.length_append]
    omega
  simp only [decode, htext, readValue_write hs j hj hlevels hfuel hends, Option.map_some, hspace]
  cases decoder j <;> rfl

end MediaCatalogue.Json
