import Mathlib
import MediaCatalogue.Proofs.Json.Number
import MediaCatalogue.Proofs.Query.Minutes
import MediaCatalogue.Query.Condition

/-! Comparisons of operands are comparisons of the integers that their texts denote, white space around them
left out, and hold of no other operands. Numbers are read back as they are printed, and hours and minutes
come to the same number in each of their notations. -/

namespace MediaCatalogue.Query

theorem decimalValue_toDigits (n : ℕ) : decimalValue (Nat.toDigits 10 n) = n := by
  have h := ofDigitChars_eq (Nat.toDigits 10 n) 0
  rwa [Nat.ofDigitChars_ten_toDigits, Nat.mul_zero, Nat.zero_add, eq_comm] at h

theorem digits_toDigits (n : ℕ) : Digits (Nat.toDigits 10 n) :=
  ⟨Nat.toDigits_ne_nil, Json.isDigit_of_mem_toDigits⟩

theorem numeral_toDigits (n : ℕ) : Numeral (Nat.toDigits 10 n) n := by
  have h := Numeral.unsigned (digits_toDigits n)
  rwa [decimalValue_toDigits] at h

/-- A number is read back as it is printed. -/
theorem integer_toString {n : ℤ} (hfits : Fits n) : Integer (toString n).toList n := by
  refine ⟨?_, hfits⟩
  cases n with
  | ofNat m =>
    rw [Json.toList_toString_ofNat]
    exact numeral_toDigits m
  | negSucc m =>
    have h := Numeral.minus (digits_toDigits (m + 1))
    rwa [decimalValue_toDigits, ← Json.toList_toString_negSucc] at h

theorem Numeral.exists_isDigit {cs : List Char} {n : ℤ} (h : Numeral cs n) : ∃ d ∈ cs, d.isDigit = true := by
  obtain ⟨ds, hdigits, hds⟩ : ∃ ds, Digits ds ∧ ds ⊆ cs := by
    cases h with
    | unsigned digits => exact ⟨_, digits, List.Subset.refl _⟩
    | plus digits => exact ⟨_, digits, List.subset_cons_self _ _⟩
    | minus digits => exact ⟨_, digits, List.subset_cons_self _ _⟩
  obtain ⟨d, hd⟩ := List.exists_mem_of_ne_nil ds hdigits.1
  exact ⟨d, hds hd, hdigits.2 d hd⟩

theorem Numeral.isBlank_eq_false {cs : List Char} {n : ℤ} (h : Numeral cs n) :
    ∀ c ∈ cs, isBlank c = false := by
  intro c hc
  rcases h.chars c hc with hdigit | rfl | rfl
  · exact isBlank_digit hdigit
  · decide
  · decide

theorem Denotes.exists_isDigit {cs : List Char} {v : ℤ} (h : Denotes cs v) :
    ∃ d ∈ cs, d.isDigit = true := by
  cases h with
  | integer whole => exact whole.numeral.exists_isDigit
  | clock text _ before _ _ _ _ =>
    obtain ⟨d, hd, hdigit⟩ := before.numeral.exists_isDigit
    exact ⟨d, text ▸ List.mem_append_left _ hd, hdigit⟩
  | groups some text _ sound _ _ =>
    obtain ⟨g, hg⟩ := List.exists_mem_of_ne_nil _ some
    obtain ⟨d, hd, hdigit⟩ := (sound g hg).integer.numeral.exists_isDigit
    exact ⟨d, text ▸ List.mem_flatMap.mpr ⟨g, hg, List.mem_append_left _ hd⟩, hdigit⟩

theorem Denotes.isBlank_eq_false {cs : List Char} {v : ℤ} (h : Denotes cs v) :
    ∀ c ∈ cs, isBlank c = false := by
  intro c hc
  cases h with
  | integer whole => exact whole.numeral.isBlank_eq_false c hc
  | clock text _ before behind _ _ _ =>
    rw [text, List.mem_append, List.mem_cons] at hc
    rcases hc with hc | rfl | hc
    · exact before.numeral.isBlank_eq_false c hc
    · decide
    · exact behind.numeral.isBlank_eq_false c hc
  | groups _ text _ sound _ _ =>
    obtain ⟨g, hg, hc⟩ := List.mem_flatMap.mp (text ▸ hc)
    rcases List.mem_append.mp hc with hc | hc
    · exact (sound g hg).integer.numeral.isBlank_eq_false c hc
    · obtain rfl := List.mem_singleton.mp hc
      cases g.unit <;> decide

def notations (h k : ℕ) : List String :=
  [toString (60 * h + k), toString h ++ ":" ++ toString k, toString h ++ "h" ++ toString k ++ "m"]

theorem integer_toString_nat {n : ℕ} (hfits : Fits n) : Integer (toString n).toList n := by
  have htext : (toString n).toList = Nat.toDigits 10 n := Nat.toList_repr
  rw [htext]
  exact ⟨numeral_toDigits n, hfits⟩

section

variable {h k : ℕ}

/-- Natural numbers that fit together fit one by one. -/
theorem fits_parts (hfits : Fits (60 * h + k)) : Fits h ∧ Fits k ∧ Fits (60 * h) := by
  unfold Fits at *
  omega

theorem denotes_clock (hfits : Fits (60 * h + k)) :
    Denotes (toString h ++ ":" ++ toString k).toList (60 * h + k) := by
  obtain ⟨hh, hk, hhours⟩ := fits_parts hfits
  have hbefore := integer_toString_nat hh
  refine .clock ?_ (hbefore.numeral.not_mem (by decide)) hbefore (integer_toString_nat hk) hhours hfits rfl
  rw [String.append_assoc, String.toList_append, String.toList_append]
  rfl

theorem colon_notMem_groups {gs : List Group} (h : ∀ g ∈ gs, g.Sound) : ':' ∉ gs.flatMap Group.chars := by
  intro hmem
  obtain ⟨g, hg, hc⟩ := List.mem_flatMap.mp hmem
  rcases List.mem_append.mp hc with hc | hc
  · exact (h g hg).integer.numeral.not_mem (by decide) hc
  · have hletter : ':' = g.unit.letter := List.mem_singleton.mp hc
    cases hu : g.unit <;> rw [hu] at hletter <;> exact absurd hletter (by decide)

theorem denotes_groups (hfits : Fits (60 * h + k)) :
    Denotes (toString h ++ "h" ++ toString k ++ "m").toList (60 * h + k) := by
  obtain ⟨hh, hk, hhours⟩ := fits_parts hfits
  let hours : Group := ⟨(toString h).toList, h, .hour⟩
  let minutes : Group := ⟨(toString k).toList, k, .minute⟩
  have hhoursMinutes : hours.minutes = 60 * h := Int.mul_comm _ _
  have hminutesMinutes : minutes.minutes = k := Int.mul_one _
  have htext : (toString h ++ "h" ++ toString k ++ "m").toList = [hours, minutes].flatMap Group.chars := by
    simp [hours, minutes, Group.chars, TimeUnit.letter]
  have hsound : ∀ g ∈ [hours, minutes], g.Sound := by
    intro g hg
    simp only [List.mem_cons, List.not_mem_nil, or_false] at hg
    rcases hg with rfl | rfl
    · exact ⟨integer_toString_nat hh, hhoursMinutes ▸ hhours⟩
    · exact ⟨integer_toString_nat hk, hminutesMinutes ▸ hk⟩
  have htotal : Group.total [hours, minutes] = 60 * h + k := by
    simp [Group.total, hhoursMinutes, hminutesMinutes]
  refine .groups (List.cons_ne_nil _ _) htext (htext ▸ colon_notMem_groups hsound) hsound ?_ htotal.symm
  intro front hfront
  rcases List.prefix_cons_iff.mp hfront with rfl | ⟨later, rfl, hlater⟩
  · decide
  · rcases List.prefix_cons_iff.mp hlater with rfl | ⟨more, rfl, hmore⟩
    · simpa [Group.total, hhoursMinutes] using hhours
    · obtain rfl := List.prefix_nil.mp hmore
      exact htotal ▸ hfits

theorem denotes_of_mem_notations (hfits : Fits (60 * h + k)) {text : String} (ht : text ∈ notations h k) :
    Denotes text.toList (60 * h + k) := by
  simp only [notations, List.mem_cons, List.not_mem_nil, or_false] at ht
  rcases ht with rfl | rfl | rfl
  · exact .integer (integer_toString_nat (n := 60 * h + k) hfits)
  · exact denotes_clock hfits
  · exact denotes_groups hfits

end

def Blank (s : String) : Prop := ∀ c ∈ s.toList, isBlank c = true

instance (s : String) : Decidable (Blank s) :=
  decidable_of_iff (s.toList.all isBlank = true) List.all_eq_true

theorem trim_eq_of_blank {before after text : List Char} (hbefore : ∀ c ∈ before, isBlank c = true)
    (hafter : ∀ c ∈ after, isBlank c = true) (htext : ∀ c ∈ text, isBlank c = false) :
    trim (before ++ text ++ after) = text := by
  have hself : text.reverse.dropWhile isBlank = text.reverse := by
    refine List.dropWhile_eq_self_iff.mpr fun hpos => ?_
    exact Bool.eq_false_iff.mp (htext _ (List.mem_reverse.mp (List.getElem_mem hpos)))
  have htail : dropTrailing isBlank (text ++ after) = text := by
    rw [dropTrailing, List.reverse_append, List.dropWhile_append_of_pos (by simpa using hafter), hself,
      List.reverse_reverse]
  rw [trim, List.append_assoc, List.dropWhile_append_of_pos hbefore]
  cases text with
  | nil =>
    rw [List.nil_append, List.dropWhile_eq_nil_iff.mpr hafter]
    rfl
  | cons c text =>
    rw [List.cons_append, List.dropWhile_cons_of_neg (by simp [htext c])]
    exact htail

theorem Denotes.trim_padded {before after text : List Char} {v : ℤ} (h : Denotes text v)
    (hbefore : ∀ c ∈ before, isBlank c = true) (hafter : ∀ c ∈ after, isBlank c = true) :
    Denotes (trim (before ++ text ++ after)) v := by
  rwa [trim_eq_of_blank hbefore hafter h.isBlank_eq_false]

/-- An operand stands for a number: its text, without the white space around it, denotes it. -/
def StandsFor (record : Record) (operand : String) (v : ℤ) : Prop :=
  ∃ text, resolve record operand = some text ∧ Denotes (trim text.toList) v

/-- The four comparisons of two operands come to those of two integers. -/
structure Compares (record : Record) (left right : String) (l r : ℤ) : Prop where
  greater : Condition.test ⟨left, .greater, right⟩ record = true ↔ l > r
  less : Condition.test ⟨left, .less, right⟩ record = true ↔ l < r
  greaterOrEqual : Condition.test ⟨left, .greaterOrEqual, right⟩ record = true ↔ l ≥ r
  lessOrEqual : Condition.test ⟨left, .lessOrEqual, right⟩ record = true ↔ l ≤ r

namespace Operator

def mirrored : Operator → Operator
  | greater => less
  | less => greater
  | greaterOrEqual => lessOrEqual
  | lessOrEqual => greaterOrEqual
  | o => o

theorem comparison?_mirrored {o : Operator} {accept : ℤ → ℤ → Bool} (h : o.comparison? = some accept) :
    o.mirrored.comparison? = some fun a b => accept b a := by
  cases o <;> cases h <;> rfl

theorem test_eq_compareMinutes {o : Operator} {accept : ℤ → ℤ → Bool} (h : o.comparison? = some accept)
    (left right : String) : o.test left right = compareMinutes accept left right := by
  have hplain : o.testPlain left right = compareMinutes accept left right := by
    rw [testPlain, h]
  have hanchoring : o.anchoring? = none := by cases o <;> cases h <;> rfl
  rw [test, verdict, hanchoring, ← hplain]
  exact Verdict.toBool_ofBool _

end Operator

section

variable {record : Record} {left right : String} {l r : ℤ} {o : Operator} {accept : ℤ → ℤ → Bool}

theorem test_of_standsFor (ho : o.comparison? = some accept) (hl : StandsFor record left l)
    (hr : StandsFor record right r) : Condition.test ⟨left, o, right⟩ record = accept l r := by
  obtain ⟨leftText, hleft, hl⟩ := hl
  obtain ⟨rightText, hright, hr⟩ := hr
  simp only [Condition.test, hleft, hright, Operator.test_eq_compareMinutes ho, Operator.compareMinutes,
    minutesOf_eq_some.mpr hl, minutesOf_eq_some.mpr hr]

/-- A comparison that holds has a number on either side. -/
theorem standsFor_of_test (ho : o.comparison? = some accept)
    (h : Condition.test ⟨left, o, right⟩ record = true) :
    (∃ l, StandsFor record left l) ∧ ∃ r, StandsFor record right r := by
  cases hleft : resolve record left with
  | none => simp [Condition.test, hleft] at h
  | some leftText =>
    cases hright : resolve record right with
    | none => simp [Condition.test, hleft, hright] at h
    | some rightText =>
      simp only [Condition.test, hleft, hright, Operator.test_eq_compareMinutes ho,
        Operator.compareMinutes] at h
      cases hl : minutesOf (trim leftText.toList) with
      | none => simp [hl] at h
      | some l =>
        cases hr : minutesOf (trim rightText.toList) with
        | none => simp [hl, hr] at h
        | some r =>
          exact ⟨⟨l, leftText, hleft, minutesOf_eq_some.mp hl⟩, r, rightText, hright, minutesOf_eq_some.mp hr⟩

theorem test_eq_false (ho : o.comparison? = some accept)
    (h : (¬ ∃ l, StandsFor record left l) ∨ ¬ ∃ r, StandsFor record right r) :
    Condition.test ⟨left, o, right⟩ record = false := by
  rw [Bool.eq_false_iff]
  intro htest
  obtain ⟨hl, hr⟩ := standsFor_of_test ho htest
  exact h.elim (fun h => h hl) fun h => h hr

theorem compares_of_standsFor (hl : StandsFor record left l) (hr : StandsFor record right r) :
    Compares record left right l r where
  greater := by rw [test_of_standsFor rfl hl hr, decide_eq_true_iff]
  less := by rw [test_of_standsFor rfl hl hr, decide_eq_true_iff]
  greaterOrEqual := by rw [test_of_standsFor rfl hl hr, decide_eq_true_iff]
  lessOrEqual := by rw [test_of_standsFor rfl hl hr, decide_eq_true_iff]

/-- Either a comparison of numbers holds, or its opposite. -/
theorem Compares.opposites (h : Compares record left right l r) :
    Condition.test ⟨left, .less, right⟩ record = !Condition.test ⟨left, .greaterOrEqual, right⟩ record ∧
    Condition.test ⟨left, .greater, right⟩ record =
      !Condition.test ⟨left, .lessOrEqual, right⟩ record := by
  constructor
  · rw [Bool.eq_iff_iff, Bool.not_eq_true', ← Bool.not_eq_true, h.less, h.greaterOrEqual, not_le]
  · rw [Bool.eq_iff_iff, Bool.not_eq_true', ← Bool.not_eq_true, h.greater, h.lessOrEqual, not_le]

theorem test_mirrored (ho : o.isNumeric = true) :
    Condition.test ⟨right, o.mirrored, left⟩ record = Condition.test ⟨left, o, right⟩ record := by
  obtain ⟨accept, ho⟩ := Option.isSome_iff_exists.mp ho
  have hmirrored := Operator.comparison?_mirrored ho
  by_cases hnumbers : (∃ l, StandsFor record left l) ∧ ∃ r, StandsFor record right r
  · obtain ⟨⟨l, hl⟩, r, hr⟩ := hnumbers
    rw [test_of_standsFor hmirrored hr hl, test_of_standsFor ho hl hr]
  · rw [not_and_or] at hnumbers
    rw [test_eq_false hmirrored hnumbers.symm, test_eq_false ho hnumbers]

end

end MediaCatalogue.Query
