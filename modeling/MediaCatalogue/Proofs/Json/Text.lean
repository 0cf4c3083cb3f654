import Mathlib
import MediaCatalogue.Json.Text

/-! A string is read back as it was written, whatever its characters. -/

namespace MediaCatalogue.Json

theorem hexValue?_hexDigit (n : Nat) : hexValue? (hexDigit n) = some (n % 16) := by
  have h : ∀ k < 16, hexValue? (Nat.digitChar k) = some k := by decide
  exact h (n % 16) (Nat.mod_lt n (by decide))

theorem length_le_bytes (cs : List Char) : cs.length ≤ bytes cs := by
  induction cs with
  | nil => exact Nat.le_refl 0
  | cons c cs ih =>
    have := c.utf8Size_pos
    change cs.length + 1 ≤ c.utf8Size + bytes cs
    omega

/-- The escape of a control character. -/
theorem readUnits_control {c : Char} (hc : c.toNat < 0x20) (cs : List Char) :
    readUnits ('0' :: '0' :: hexDigit (c.toNat / 16) :: hexDigit c.toNat :: cs) = .ok (c, cs) := by
  have hbytes : 4 ≤ bytes ['0', '0', hexDigit (c.toNat / 16), hexDigit c.toNat] :=
    length_le_bytes ['0', '0', hexDigit (c.toNat / 16), hexDigit c.toNat]
  have htake : ('0' :: '0' :: hexDigit (c.toNat / 16) :: hexDigit c.toNat :: cs).take 4 =
      ['0', '0', hexDigit (c.toNat / 16), hexDigit c.toNat] := rfl
  have hzero : hexValue? '0' = some 0 := by decide
  have hvalue : ((0 * 16 + 0) * 16 + c.toNat / 16 % 16) * 16 + c.toNat % 16 = c.toNat := by omega
  have hunit : readUnit ('0' :: '0' :: hexDigit (c.toNat / 16) :: hexDigit c.toNat :: cs) =
      .ok (c.toNat, cs) := by
    unfold readUnit
    rw [htake, if_neg (Nat.not_lt.mpr hbytes)]
    simp only [List.mapM_cons, List.mapM_nil, hzero, hexValue?_hexDigit, Option.pure_def,
      Option.bind_eq_bind, Option.bind_some, hvalue, List.drop_succ_cons, List.drop_zero]
  have htrailing : isTrailing c.toNat = false := by
    simp only [isTrailing, Bool.and_eq_false_iff, decide_eq_false_iff_not]
    omega
  have hleading : isLeading c.toNat = false := by
    simp only [isLeading, Bool.and_eq_false_iff, decide_eq_false_iff_not]
    omega
  unfold readUnits
  simp only [hunit, bind, Except.bind, htrailing, hleading, Bool.false_eq_true, if_false, pure,
    Except.pure, Char.ofNat_toNat]

theorem readEscape_letter {c letter : Char} (h : (c, letter) ∈ letterEscapes) (cs : List Char) :
    readEscape (letter :: cs) = .ok (c, cs) := by
  simp only [letterEscapes, List.mem_cons, Prod.mk.injEq, List.not_mem_nil, or_false] at h
  rcases h with ⟨rfl, rfl⟩ | ⟨rfl, rfl⟩ | ⟨rfl, rfl⟩ | ⟨rfl, rfl⟩ | ⟨rfl, rfl⟩ | ⟨rfl, rfl⟩ | ⟨rfl, rfl⟩ <;> rfl

/-- What is written for a character is read as that character. -/
theorem readChars_escapeChar {fuel : Nat} {cs text rest : List Char} (c : Char)
    (h : readChars fuel cs = .ok (text, rest)) :
    readChars (fuel + 1) (escapeChar c ++ cs) = .ok (c :: text, rest) := by
  unfold escapeChar
  split
  · next a letter hfind =>
    have hmem := List.mem_of_find?_eq_some hfind
    obtain rfl : a = c := by simpa using List.find?_some hfind
    simp only [List.cons_append, List.nil_append, readChars, readEscape_letter hmem, h, bind,
      Except.bind, pure, Except.pure]
  · next hfind =>
    split_ifs with hcontrol
    · have hescape : readEscape ('u' :: '0' :: '0' :: hexDigit (c.toNat / 16) :: hexDigit c.toNat :: cs) =
          .ok (c, cs) := readUnits_control hcontrol cs
      simp only [List.cons_append, List.nil_append, readChars, hescape, h, bind, Except.bind, pure,
        Except.pure]
    · -- neither a quote nor a backslash
      rw [List.find?_eq_none] at hfind
      have hquote : c ≠ '"' := fun he => hfind ('"', '"') (by decide) (by simp [he])
      have hslash : c ≠ '\\' := fun he => hfind ('\\', '\\') (by decide) (by simp [he])
      rw [List.singleton_append, readChars]
      · simp only [hcontrol, if_false, h, bind, Except.bind, pure, Except.pure]
      · exact hquote
      · exact hslash

theorem readChars_flatMap (cs rest : List Char) {fuel : Nat} (hfuel : cs.length < fuel) :
    readChars fuel (cs.flatMap escapeChar ++ '"' :: rest) = .ok (cs, rest) := by
  induction cs generalizing fuel with
  | nil =>
    obtain ⟨n, rfl⟩ := Nat.exists_eq_succ_of_ne_zero (Nat.ne_zero_of_lt hfuel)
    rfl
  | cons c cs ih =>
    obtain ⟨n, rfl⟩ := Nat.exists_eq_succ_of_ne_zero (Nat.ne_zero_of_lt hfuel)
    rw [List.flatMap_cons, List.append_assoc]
    exact readChars_escapeChar c (ih (by simpa using hfuel))

theorem length_escapeChar_pos (c : Char) : 0 < (escapeChar c).length := by
  unfold escapeChar
  split
  · exact Nat.succ_pos _
  · split_ifs <;> exact Nat.succ_pos _

theorem length_le_flatMap_escapeChar (cs : List Char) : cs.length ≤ (cs.flatMap escapeChar).length := by
  induction cs with
  | nil => exact Nat.le_refl 0
  | cons c cs ih =>
    have := length_escapeChar_pos c
    rw [List.flatMap_cons, List.length_append, List.length_cons]
    omega

/-- From behind the opening quote, a string is read as it was written. -/
theorem readText_written (text : String) (rest : List Char) :
    readText (text.toList.flatMap escapeChar ++ '"' :: rest) = .ok (text, rest) := by
  have hfuel : text.toList.length < (text.toList.flatMap escapeChar ++ '"' :: rest).length + 1 := by
    have := length_le_flatMap_escapeChar text.toList
    rw [List.length_append]
    omega
  simp only [readText, readChars_flatMap text.toList rest hfuel, bind, Except.bind, pure, Except.pure,
    String.ofList_toList]

end MediaCatalogue.Json
