import Mathlib
import MediaCatalogue.Proofs.Spans
import MediaCatalogue.Query.Minutes

/-! Which texts stand for minutes, and for how many: an integer, hours and minutes around a colon, or groups
of a number and its unit, as long as every number on the way to the result fits in 64 bits. Reading in words
of 64 bits and with cuts at byte offsets gives the same: nothing wraps, and no cut falls inside a character. -/

namespace MediaCatalogue.Query

/-! Integers -/

def Fits (n : ℤ) : Prop := -2 ^ 63 ≤ n ∧ n < 2 ^ 63

instance (n : ℤ) : Decidable (Fits n) := inferInstanceAs (Decidable (_ ∧ _))

def Digits (ds : List Char) : Prop := ds ≠ [] ∧ ∀ d ∈ ds, d.isDigit = true

/-- The number that decimal digits stand for, the first of them being the highest. -/
def decimalValue (ds : List Char) : ℕ :=
  Nat.ofDigits 10 (ds.reverse.map fun d => d.toNat - '0'.toNat)

inductive Numeral : List Char → ℤ → Prop where
  | unsigned {ds : List Char} (digits : Digits ds) : Numeral ds (decimalValue ds)
  | plus {ds : List Char} (digits : Digits ds) : Numeral ('+' :: ds) (decimalValue ds)
  | minus {ds : List Char} (digits : Digits ds) : Numeral ('-' :: ds) (-decimalValue ds)

/-- A text stands for an integer of 64 bits. -/
structure Integer (cs : List Char) (n : ℤ) : Prop where
  numeral : Numeral cs n
  fits : Fits n

theorem inRange_iff {n : ℤ} : inRange n = true ↔ Fits n := by
  have hmin : Int64.minValue.toInt = -2 ^ 63 := by decide
  have hmax : Int64.maxValue.toInt = 2 ^ 63 - 1 := by decide
  simp only [inRange, hmin, hmax, Bool.and_eq_true, decide_eq_true_eq, Fits]
  omega

theorem ranged?_eq_some {n v : ℤ} : ranged? n = some v ↔ n = v ∧ Fits v := by
  unfold ranged?
  split_ifs with h
  · rw [Option.some.injEq]
    refine ⟨?_, And.left⟩
    rintro rfl
    exact ⟨rfl, inRange_iff.mp h⟩
  · simp only [false_iff]
    rintro ⟨rfl, hfits⟩
    exact h (inRange_iff.mpr hfits)

theorem ofDigitChars_eq (ds : List Char) (n : ℕ) :
    Nat.ofDigitChars 10 ds n = 10 ^ ds.length * n + decimalValue ds := by
  induction ds generalizing n with
  | nil => simp [Nat.ofDigitChars, decimalValue]
  | cons d ds ih =>
    rw [Nat.ofDigitChars_cons, ih, decimalValue, decimalValue, List.map_reverse, List.map_reverse,
      List.map_cons, Nat.ofDigits_reverse_cons, List.length_map, List.length_cons]
    ring

theorem digits?_eq_some {cs : List Char} {n : ℕ} :
    digits? cs = some n ↔ Digits cs ∧ decimalValue cs = n := by
  have hvalue : cs.foldl (fun n c => 10 * n + (c.toNat - '0'.toNat)) 0 = decimalValue cs := by
    have h := ofDigitChars_eq cs 0
    rwa [Nat.mul_zero, Nat.zero_add] at h
  unfold digits?
  rw [hvalue]
  split_ifs with h
  · have hdigits : Digits cs := by simpa [Digits] using h
    simp [hdigits]
  · have hdigits : ¬ Digits cs := by simpa [Digits] using h
    simp [hdigits]

theorem Numeral.chars {cs : List Char} {n : ℤ} (h : Numeral cs n) :
    ∀ c ∈ cs, c.isDigit = true ∨ c = '+' ∨ c = '-' := by
  intro c hc
  cases h with
  | unsigned digits => exact .inl (digits.2 c hc)
  | plus digits =>
    rcases List.mem_cons.mp hc with rfl | hc
    · exact .inr (.inl rfl)
    · exact .inl (digits.2 c hc)
  | minus digits =>
    rcases List.mem_cons.mp hc with rfl | hc
    · exact .inr (.inr rfl)
    · exact .inl (digits.2 c hc)

theorem Numeral.not_mem {cs : List Char} {n : ℤ} (h : Numeral cs n) {c : Char}
    (hc : c.isDigit = false ∧ c ≠ '+' ∧ c ≠ '-') : c ∉ cs := by
  intro hmem
  rcases h.chars c hmem with hdigit | hplus | hminus
  · rw [hc.1] at hdigit
    cases hdigit
  · exact hc.2.1 hplus
  · exact hc.2.2 hminus

theorem integer?_eq_some {cs : List Char} {v : ℤ} : integer? cs = some v ↔ Integer cs v := by
  have hsigned : ∀ (ds : List Char) (f : ℕ → ℤ), ((digits? ds).bind fun n => ranged? (f n)) = some v ↔
      Digits ds ∧ f (decimalValue ds) = v ∧ Fits v := by
    intro ds f
    simp only [Option.bind_eq_some_iff, digits?_eq_some, ranged?_eq_some]
    constructor
    · rintro ⟨n, ⟨hdigits, rfl⟩, hv⟩
      exact ⟨hdigits, hv⟩
    · rintro ⟨hdigits, hv⟩
      exact ⟨_, ⟨hdigits, rfl⟩, hv⟩
  unfold integer?
  split
  · next ds =>
    rw [hsigned]
    constructor
    · rintro ⟨hdigits, rfl, hfits⟩
      exact ⟨.plus hdigits, hfits⟩
    · rintro ⟨hnumeral, hfits⟩
      cases hnumeral with
      | unsigned digits => exact absurd (digits.2 '+' List.mem_cons_self) (by decide)
      | plus digits => exact ⟨digits, rfl, hfits⟩
  · next ds =>
    rw [hsigned]
    constructor
    · rintro ⟨hdigits, rfl, hfits⟩
      exact ⟨.minus hdigits, hfits⟩
    · rintro ⟨hnumeral, hfits⟩
      cases hnumeral with
      | unsigned digits => exact absurd (digits.2 '-' List.mem_cons_self) (by decide)
      | minus digits => exact ⟨digits, rfl, hfits⟩
  · next hplus hminus =>
    rw [hsigned]
    constructor
    · rintro ⟨hdigits, rfl, hfits⟩
      exact ⟨.unsigned hdigits, hfits⟩
    · rintro ⟨hnumeral, hfits⟩
      cases hnumeral with
      | unsigned digits => exact ⟨digits, rfl, hfits⟩
      | plus digits => exact absurd rfl (hplus _)
      | minus digits => exact absurd rfl (hminus _)

/-! Groups -/

inductive TimeUnit where
  | hour
  | minute

namespace TimeUnit

def letter : TimeUnit → Char
  | hour => 'h'
  | minute => 'm'

def minutes : TimeUnit → ℤ
  | hour => 60
  | minute => 1

end TimeUnit

structure Group where
  numeral : List Char
  count : ℤ
  unit : TimeUnit

namespace Group

def chars (g : Group) : List Char := g.numeral ++ [g.unit.letter]

def minutes (g : Group) : ℤ := g.count * g.unit.minutes

/-- The number is one of 64 bits, and so is what it is in minutes. -/
structure Sound (g : Group) : Prop where
  integer : Integer g.numeral g.count
  fits : Fits g.minutes

def total (gs : List Group) : ℤ := (gs.map minutes).sum

theorem total_cons (g : Group) (gs : List Group) : total (g :: gs) = g.minutes + total gs := by
  simp [total]

end Group

/-- A text denotes minutes in one of three notations, if every number on the way fits. -/
inductive Denotes (cs : List Char) (v : ℤ) : Prop where
  | integer (whole : Integer cs v)
  | clock {hours minutes : List Char} {h m : ℤ} (text : cs = hours ++ ':' :: minutes)
      (first : ':' ∉ hours) (before : Integer hours h) (behind : Integer minutes m)
      (fits : Fits (60 * h)) (fitsSum : Fits (60 * h + m)) (value : v = 60 * h + m)
  | groups {gs : List Group} (some : gs ≠ []) (text : cs = gs.flatMap Group.chars)
      (noColon : ':' ∉ cs) (sound : ∀ g ∈ gs, g.Sound)
      (sums : ∀ front, front <+: gs → Fits (Group.total front)) (value : v = Group.total gs)

theorem TimeUnit.exists_of_isUnit {c : Char} (h : isUnit c = true) :
    ∃ u : TimeUnit, c = u.letter ∧ unitFactor c = u.minutes := by
  have hc : c = 'h' ∨ c = 'm' := by simpa [isUnit] using h
  rcases hc with rfl | rfl
  · exact ⟨.hour, rfl, rfl⟩
  · exact ⟨.minute, rfl, rfl⟩

theorem TimeUnit.isUnit_letter (u : TimeUnit) : isUnit u.letter = true := by
  cases u <;> rfl

theorem TimeUnit.letter_inj {u w : TimeUnit} (h : u.letter = w.letter) : u = w := by
  cases u <;> cases w <;> first | rfl | exact absurd h (by decide)

theorem Numeral.not_isUnit {cs : List Char} {n : ℤ} (h : Numeral cs n) :
    ∀ c ∈ cs, (!isUnit c) = true := by
  intro c hc
  rw [Bool.not_eq_true']
  by_contra hunit
  obtain ⟨u, rfl, -⟩ := TimeUnit.exists_of_isUnit (Bool.eq_true_of_not_eq_false hunit)
  cases u <;> exact h.not_mem (by decide) hc

/-- The sums of groups from the left are those without the first group, with its minutes added. -/
theorem fits_sums_cons {total : ℤ} {g : Group} {gs : List Group} (htotal : Fits total) :
    (∀ front, front <+: g :: gs → Fits (total + Group.total front)) ↔
      ∀ front, front <+: gs → Fits (total + g.minutes + Group.total front) := by
  constructor
  · intro h front hfront
    have := h (g :: front) (List.cons_prefix_cons.mpr ⟨rfl, hfront⟩)
    rwa [Group.total_cons, ← Int.add_assoc] at this
  · intro h front hfront
    rcases List.prefix_cons_iff.mp hfront with rfl | ⟨t, rfl, ht⟩
    · simpa [Group.total] using htotal
    · rw [Group.total_cons, ← Int.add_assoc]
      exact h t ht

/-- Reading groups one character after the other, where `read` is what has been read of the number. -/
theorem addUnits_eq_some {cs read : List Char} {total v : ℤ} (hread : ∀ c ∈ read, (!isUnit c) = true)
    (htotal : Fits total) :
    addUnits total read cs = some v ↔ ∃ gs : List Group, read.reverse ++ cs = gs.flatMap Group.chars ∧
      (∀ g ∈ gs, g.Sound) ∧ (∀ front, front <+: gs → Fits (total + Group.total front)) ∧
      v = total + Group.total gs := by
  induction cs generalizing total read with
  | nil =>
    rw [addUnits, List.append_nil]
    constructor
    · intro h
      split_ifs at h with hempty
      obtain rfl : read = [] := by simpa using hempty
      refine ⟨[], rfl, by simp, fun front hfront => ?_, by simpa [Group.total] using h.symm⟩
      obtain rfl := List.prefix_nil.mp hfront
      simpa [Group.total] using htotal
    · rintro ⟨gs, htext, -, -, rfl⟩
      cases gs with
      | nil =>
        obtain rfl : read = [] := by simpa using htext
        simp [Group.total]
      | cons g gs =>
        -- the letter of the first unit would have been read
        have hmem : g.unit.letter ∈ read.reverse := by
          rw [htext]
          simp [Group.chars]
        have hunit := hread _ (List.mem_reverse.mp hmem)
        rw [g.unit.isUnit_letter] at hunit
        cases hunit
  | cons c cs ih =>
    rw [addUnits]
    split_ifs with hunit
    · obtain ⟨u, rfl, hfactor⟩ := TimeUnit.exists_of_isUnit hunit
      have hread : ∀ c ∈ read.reverse, (!isUnit c) = true := fun c hc => hread c (List.mem_reverse.mp hc)
      simp only [Option.bind_eq_bind, Option.bind_eq_some_iff, integer?_eq_some, ranged?_eq_some, hfactor]
      constructor
      · rintro ⟨n, hn, p, ⟨rfl, hp⟩, sum, ⟨rfl, hsum⟩, h⟩
        obtain ⟨gs, htext, hsound, hsums, rfl⟩ := (ih (by simp) hsum).mp h
        refine ⟨⟨read.reverse, n, u⟩ :: gs, ?_, ?_, (fits_sums_cons htotal).mpr hsums, ?_⟩
        · rw [List.flatMap_cons, ← htext]
          simp [Group.chars]
        · intro g hg
          rcases List.mem_cons.mp hg with rfl | hg
          · exact ⟨hn, hp⟩
          · exact hsound g hg
        · rw [Group.total_cons, ← Int.add_assoc]
          rfl
      · rintro ⟨gs, htext, hsound, hsums, rfl⟩
        cases gs with
        | nil => simp at htext
        | cons g gs =>
          have hg := hsound g List.mem_cons_self
          rw [List.flatMap_cons, Group.chars, List.append_assoc, List.singleton_append] at htext
          obtain ⟨hnumeral, hbehind⟩ := span_inj hread hg.integer.numeral.not_isUnit
            (by simp [u.isUnit_letter]) (by simp [g.unit.isUnit_letter]) htext
          obtain ⟨hletter, hrest⟩ := List.cons.inj hbehind
          obtain rfl := TimeUnit.letter_inj hletter
          have hrest' := (fits_sums_cons htotal).mp hsums
          have hsum : Fits (total + g.minutes) := by
            simpa [Group.total] using hrest' [] List.nil_prefix
          refine ⟨g.count, hnumeral ▸ hg.integer, _, ⟨rfl, hg.fits⟩, _, ⟨rfl, hsum⟩, ?_⟩
          refine (ih (by simp) hsum).mpr ⟨gs, hrest, fun g' hg' => hsound g' (List.mem_cons_of_mem _ hg'),
            hrest', ?_⟩
          rw [Group.total_cons, ← Int.add_assoc]
    · have hmore : ∀ d ∈ c :: read, (!isUnit d) = true := by
        intro d hd
        rcases List.mem_cons.mp hd with rfl | hd
        · simpa using hunit
        · exact hread d hd
      rw [ih hmore htotal]
      simp

theorem clock?_eq_some {hours minutes : List Char} {v : ℤ} :
    clock? hours minutes = some v ↔ ∃ h m, Integer hours h ∧ Integer minutes m ∧ Fits (60 * h) ∧
      Fits (60 * h + m) ∧ v = 60 * h + m := by
  simp only [clock?, Option.bind_eq_bind, Option.bind_eq_some_iff, integer?_eq_some, ranged?_eq_some]
  constructor
  · rintro ⟨h, hh, m, hm, p, ⟨rfl, hp⟩, rfl, hsum⟩
    rw [Int.mul_comm] at hp hsum ⊢
    exact ⟨h, m, hh, hm, hp, hsum, rfl⟩
  · rintro ⟨h, m, hh, hm, hp, hsum, rfl⟩
    exact ⟨h, hh, m, hm, _, ⟨Int.mul_comm _ _, hp⟩, rfl, hsum⟩

theorem units?_eq_some {cs : List Char} {v : ℤ} : units? cs = some v ↔ ∃ gs : List Group, gs ≠ [] ∧
    cs = gs.flatMap Group.chars ∧ (∀ g ∈ gs, g.Sound) ∧
    (∀ front, front <+: gs → Fits (Group.total front)) ∧ v = Group.total gs := by
  have hzero : Fits 0 := by decide
  unfold units?
  split_ifs with hempty
  · obtain rfl : cs = [] := by simpa using hempty
    simp only [false_iff]
    rintro ⟨gs, hne, htext, -⟩
    obtain ⟨g, gs, rfl⟩ := List.exists_cons_of_ne_nil hne
    simp [Group.chars] at htext
  · rw [addUnits_eq_some (by simp) hzero]
    simp only [List.reverse_nil, List.nil_append, Int.zero_add]
    constructor
    · rintro ⟨gs, rfl, h⟩
      refine ⟨gs, ?_, rfl, h⟩
      rintro rfl
      exact hempty rfl
    · rintro ⟨gs, -, h⟩
      exact ⟨gs, h⟩

/-- The letter of the first unit is in the text of groups. -/
theorem exists_letter_mem {gs : List Group} (h : gs ≠ []) :
    ∃ u : TimeUnit, u.letter ∈ gs.flatMap Group.chars := by
  obtain ⟨g, gs, rfl⟩ := List.exists_cons_of_ne_nil h
  exact ⟨g.unit, by simp [Group.chars]⟩

theorem minutesOf_eq_some {cs : List Char} {v : ℤ} : minutesOf cs = some v ↔ Denotes cs v := by
  unfold minutesOf
  cases hinteger : integer? cs with
  | some n =>
    have hn := integer?_eq_some.mp hinteger
    constructor
    · intro h
      exact .integer (Option.some.inj h ▸ hn)
    · intro h
      cases h with
      | integer whole => exact hinteger.symm.trans (integer?_eq_some.mpr whole)
      | clock text _ _ _ _ _ _ =>
        have hcolon : ':' ∉ cs := hn.numeral.not_mem (by decide)
        simp [text] at hcolon
      | groups some text _ _ _ _ =>
        obtain ⟨u, hu⟩ := exists_letter_mem some
        have hunit := hn.numeral.not_isUnit _ (text ▸ hu)
        simp [u.isUnit_letter] at hunit
  | none =>
    have hno : ¬ Integer cs v := fun h => by simp [integer?_eq_some.mpr h] at hinteger
    by_cases hcolon : ':' ∈ cs
    · obtain ⟨hours, minutes, rfl, hfirst⟩ := List.eq_append_cons_of_mem hcolon
      simp only [takeWhile_mark hfirst, dropWhile_mark hfirst, clock?_eq_some]
      constructor
      · rintro ⟨h, m, hh, hm, hp, hsum, rfl⟩
        exact .clock rfl hfirst hh hm hp hsum rfl
      · intro h
        cases h with
        | integer whole => exact absurd whole hno
        | @clock hours' minutes' h m text first before behind fits fitsSum value =>
          obtain ⟨rfl, hbehind⟩ := span_inj (bne_mark hfirst) (bne_mark first) (by simp) (by simp) text
          obtain rfl := List.cons.inj hbehind |>.2
          exact ⟨h, m, before, behind, fits, fitsSum, value⟩
        | groups _ _ noColon _ _ _ => exact absurd hcolon noColon
    · have hdrop : cs.dropWhile (· != ':') = [] :=
        List.dropWhile_eq_nil_iff.mpr (bne_mark hcolon)
      simp only [hdrop, units?_eq_some]
      constructor
      · rintro ⟨gs, hne, rfl, hsound, hsums, rfl⟩
        exact .groups hne rfl hcolon hsound hsums rfl
      · intro h
        cases h with
        | integer whole => exact absurd whole hno
        | clock text _ _ _ _ _ _ => simp [text] at hcolon
        | groups some text _ sound sums value => exact ⟨_, some, text, sound, sums, value⟩

theorem Denotes.fits {cs : List Char} {v : ℤ} (h : Denotes cs v) : Fits v := by
  cases h with
  | integer whole => exact whole.fits
  | clock _ _ _ _ _ fitsSum value => exact value ▸ fitsSum
  | groups _ _ _ _ sums value => exact value ▸ sums _ (List.prefix_refl _)

/-! Reading in words, with cuts at byte offsets -/

def byteLength (cs : List Char) : ℕ := (cs.map Char.utf8Size).sum

/-- Cuts a text behind so many bytes. There is no cut inside a character or behind the end. -/
def cutAt? : ℕ → List Char → Option (List Char × List Char)
  | 0, cs => some ([], cs)
  | _ + 1, [] => none
  | n + 1, c :: cs =>
    if c.utf8Size ≤ n + 1 then (cutAt? (n + 1 - c.utf8Size) cs).map fun parts => (c :: parts.1, parts.2)
    else none

/-- The byte offset of the first letter that is a unit. -/
def unitOffset? (cs : List Char) : Option ℕ :=
  if cs.any isUnit then some (byteLength (cs.takeWhile (!isUnit ·))) else none

/-- What reading comes to where a cut can fail. -/
inductive Reading where
  | minutes (n : Int64)
  | nothing
  /-- A cut fell inside a character or behind the end. -/
  | torn
  deriving DecidableEq

/-- A result of reading that has not met a cut. -/
def Reading.ofOption (n : Option Int64) : Reading := n.elim nothing minutes

def checkedAdd (a b : Int64) : Option Int64 :=
  if a.toBitVec.saddOverflow b.toBitVec then none else some (a + b)

def checkedMul (a b : Int64) : Option Int64 :=
  if a.toBitVec.smulOverflow b.toBitVec then none else some (a * b)

def word? (cs : List Char) : Option Int64 := (integer? cs).map Int64.ofInt

/-- Adds the group of a number to a total; the unit is the first character behind the number. -/
def addGroup (total : Int64) (number behind : List Char) : Option Int64 :=
  if number.isEmpty then none
  else do
    let count ← word? number
    checkedAdd total (← checkedMul count (if behind.head? = some 'h' then 60 else 1))

theorem cutAt?_eq_some {n : ℕ} {cs front rest : List Char} (h : cutAt? n cs = some (front, rest)) :
    cs = front ++ rest ∧ byteLength front = n := by
  induction cs generalizing n front with
  | nil =>
    cases n with
    | zero =>
      cases h
      exact ⟨rfl, rfl⟩
    | succ n => cases h
  | cons c cs ih =>
    cases n with
    | zero =>
      cases h
      exact ⟨rfl, rfl⟩
    | succ n =>
      rw [cutAt?] at h
      split_ifs at h with hle
      obtain ⟨⟨front', rest'⟩, hcut, hparts⟩ := Option.map_eq_some_iff.mp h
      obtain ⟨rfl, rfl⟩ := Prod.mk.inj hparts
      obtain ⟨rfl, hlength⟩ := ih hcut
      refine ⟨rfl, ?_⟩
      rw [byteLength] at hlength ⊢
      rw [List.map_cons, List.sum_cons, hlength]
      omega

theorem ne_nil_of_byteLength {cs : List Char} (h : byteLength cs = 1) : cs ≠ [] := by
  rintro rfl
  cases h

theorem cutAt?_byteLength (front rest : List Char) :
    cutAt? (byteLength front) (front ++ rest) = some (front, rest) := by
  induction front with
  | nil => cases rest <;> rfl
  | cons c front ih =>
    have hpos := c.utf8Size_pos
    obtain ⟨k, hk⟩ : ∃ k, byteLength (c :: front) = k + 1 :=
      ⟨byteLength (c :: front) - 1, by simp only [byteLength, List.map_cons, List.sum_cons]; omega⟩
    have hsum : k + 1 = c.utf8Size + byteLength front := by rw [← hk, byteLength]; rfl
    rw [hk, List.cons_append, cutAt?, if_pos (by omega), hsum, Nat.add_sub_cancel_left, ih]
    rfl

/-- Reads groups from a total on. In every pass a number is cut off in front of its unit, and then the
unit, which is one byte. -/
def unitsInWords (total : Int64) (rest : List Char) : Reading :=
  if rest.isEmpty then .minutes total
  else
    match unitOffset? rest with
    | none => .nothing
    | some offset =>
      match _hnumber : cutAt? offset rest with
      | none => .torn
      | some (number, behind) =>
        match addGroup total number behind with
        | none => .nothing
        | some total =>
          match _hunit : cutAt? 1 behind with
          | none => .torn
          | some (_, behind) => unitsInWords total behind
termination_by rest.length
decreasing_by
  obtain ⟨rfl, -⟩ := cutAt?_eq_some _hnumber
  obtain ⟨rfl, hone⟩ := cutAt?_eq_some _hunit
  have hpos := List.length_pos_of_ne_nil (ne_nil_of_byteLength hone)
  simp only [List.length_append]
  omega

def clockInWords (hours minutes : List Char) : Reading := .ofOption do
  let h ← word? hours
  let m ← word? minutes
  checkedAdd (← checkedMul h 60) m

def minutesInWords (text : String) : Reading :=
  match word? text.toList with
  | some n => .minutes n
  | none =>
    match text.toList.dropWhile (· != ':') with
    | ':' :: minutes => clockInWords (text.toList.takeWhile (· != ':')) minutes
    | _ => if text.toList.isEmpty then .nothing else unitsInWords 0 text.toList

/-! Words that come to exact numbers -/

theorem toInt_ofInt {n : ℤ} (h : Fits n) : (Int64.ofInt n).toInt = n := Int64.toInt_ofInt_of_le h.1 h.2

/-- The test for overflow of a word is that the exact number is not in range. -/
theorem overflows_eq (n : ℤ) : (decide (n ≥ 2 ^ (64 - 1)) || decide (n < -2 ^ (64 - 1))) = !inRange n := by
  rw [Bool.eq_iff_iff, Bool.not_eq_true', ← Bool.not_eq_true, inRange_iff, Bool.or_eq_true,
    decide_eq_true_eq, decide_eq_true_eq, Fits]
  omega

theorem checkedAdd_ofInt {a b : ℤ} (ha : Fits a) (hb : Fits b) :
    checkedAdd (.ofInt a) (.ofInt b) = (ranged? (a + b)).map .ofInt := by
  have hoverflow : (Int64.ofInt a).toBitVec.saddOverflow (Int64.ofInt b).toBitVec = !inRange (a + b) := by
    rw [← overflows_eq, BitVec.saddOverflow, Int64.toInt_toBitVec, Int64.toInt_toBitVec, toInt_ofInt ha,
      toInt_ofInt hb]
  rw [checkedAdd, hoverflow, ranged?, ← Int64.ofInt_add]
  cases inRange (a + b) <;> rfl

theorem checkedMul_ofInt {a b : ℤ} (ha : Fits a) (hb : Fits b) :
    checkedMul (.ofInt a) (.ofInt b) = (ranged? (a * b)).map .ofInt := by
  have hoverflow : (Int64.ofInt a).toBitVec.smulOverflow (Int64.ofInt b).toBitVec = !inRange (a * b) := by
    rw [← overflows_eq, BitVec.smulOverflow, Int64.toInt_toBitVec, Int64.toInt_toBitVec, toInt_ofInt ha,
      toInt_ofInt hb]
  rw [checkedMul, hoverflow, ranged?, ← Int64.ofInt_mul]
  cases inRange (a * b) <;> rfl

theorem fits_toInt (n : Int64) : Fits n.toInt := ⟨n.le_toInt, n.toInt_lt⟩

theorem TimeUnit.word_minutes (u : TimeUnit) (behind : List Char) :
    (if (u.letter :: behind).head? = some 'h' then (60 : Int64) else 1) = .ofInt u.minutes := by
  cases u <;> rfl

theorem TimeUnit.fits_minutes (u : TimeUnit) : Fits u.minutes := by
  cases u <;> decide

theorem addGroup_eq (total : Int64) (number behind : List Char) (u : TimeUnit) :
    addGroup total number (u.letter :: behind) = ((integer? number).bind fun n =>
      (ranged? (n * u.minutes)).bind fun p => ranged? (total.toInt + p)).map .ofInt := by
  unfold addGroup
  rw [u.word_minutes, word?]
  cases hn : integer? number with
  | none => simp
  | some n =>
    have hnonempty : ¬ number.isEmpty = true := by
      rintro hempty
      obtain rfl := List.isEmpty_iff.mp hempty
      cases hn
    rw [if_neg hnonempty]
    have hfits := (integer?_eq_some.mp hn).fits
    simp only [Option.map_some, Option.bind_eq_bind, Option.bind_some,
      checkedMul_ofInt hfits u.fits_minutes]
    cases hp : ranged? (n * u.minutes) with
    | none => rfl
    | some p =>
      have htotal := checkedAdd_ofInt (fits_toInt total) (ranged?_eq_some.mp hp).2
      rwa [Int64.ofInt_toInt] at htotal

/-! Cuts that fall between characters -/

theorem unitOffset?_eq_none {cs : List Char} (h : unitOffset? cs = none) :
    ∀ c ∈ cs, (!isUnit c) = true := by
  unfold unitOffset? at h
  split_ifs at h with hany
  simpa using hany

theorem unitOffset?_eq_some {cs : List Char} {offset : ℕ} (h : unitOffset? cs = some offset) :
    ∃ number u behind, cs = number ++ TimeUnit.letter u :: behind ∧ (∀ c ∈ number, (!isUnit c) = true) ∧
      offset = byteLength number := by
  unfold unitOffset? at h
  split_ifs at h with hany
  cases hdrop : cs.dropWhile (!isUnit ·) with
  | nil =>
    rw [List.dropWhile_eq_nil_iff] at hdrop
    obtain ⟨c, hc, hunit⟩ := List.any_eq_true.mp hany
    have := hdrop c hc
    simp [hunit] at this
  | cons c behind =>
    have hunit : isUnit c = true := by simpa using eq_false_of_dropWhile hdrop
    obtain ⟨u, rfl, -⟩ := TimeUnit.exists_of_isUnit hunit
    refine ⟨cs.takeWhile (!isUnit ·), u, behind, ?_, fun d hd => ?_, (Option.some.inj h).symm⟩
    · rw [← hdrop, List.takeWhile_append_dropWhile]
    · simpa using List.mem_takeWhile_imp hd

/-- The letter of a unit is one byte. -/
theorem cutAt?_letter (u : TimeUnit) (behind : List Char) :
    cutAt? 1 (u.letter :: behind) = some ([u.letter], behind) := by
  have hone : byteLength [u.letter] = 1 := by cases u <;> rfl
  have hcut := cutAt?_byteLength [u.letter] behind
  rwa [hone] at hcut

theorem addUnits_append (total : ℤ) {number : List Char} (h : ∀ c ∈ number, (!isUnit c) = true)
    (read cs : List Char) :
    addUnits total read (number ++ cs) = addUnits total (number.reverse ++ read) cs := by
  induction number generalizing read with
  | nil => rfl
  | cons c number ih =>
    have hc : ¬ isUnit c = true := by simpa using h c List.mem_cons_self
    rw [List.cons_append, addUnits, if_neg hc, ih fun d hd => h d (List.mem_cons_of_mem c hd)]
    simp

theorem addUnits_group (total : ℤ) {number : List Char} (h : ∀ c ∈ number, (!isUnit c) = true)
    (u : TimeUnit) (behind : List Char) :
    addUnits total [] (number ++ u.letter :: behind) = ((integer? number).bind fun n =>
      (ranged? (n * u.minutes)).bind fun p => ranged? (total + p)).bind fun sum =>
        addUnits sum [] behind := by
  have hfactor : unitFactor u.letter = u.minutes := by cases u <;> rfl
  rw [addUnits_append total h, List.append_nil, addUnits, if_pos u.isUnit_letter, List.reverse_reverse,
    hfactor]
  simp only [Option.bind_eq_bind, Option.bind_assoc]

theorem unitsInWords_eq (total : Int64) (rest : List Char) :
    unitsInWords total rest = .ofOption ((addUnits total.toInt [] rest).map .ofInt) := by
  fun_induction unitsInWords total rest with
  | case1 total rest hempty =>
    obtain rfl : rest = [] := by simpa using hempty
    simp [addUnits, Reading.ofOption, Int64.ofInt_toInt]
  | case2 total rest hempty hoffset =>
    -- what is left has no unit, so it is no group
    have happend := addUnits_append total.toInt (unitOffset?_eq_none hoffset) [] []
    rw [List.append_nil, List.append_nil] at happend
    rw [happend, addUnits, if_neg (by simpa using hempty)]
    rfl
  | case3 total rest hempty offset hoffset hcut =>
    obtain ⟨number, u, behind, rfl, hnumber, rfl⟩ := unitOffset?_eq_some hoffset
    rw [cutAt?_byteLength] at hcut
    cases hcut
  | case4 total rest hempty offset hoffset number behind hcut hadd =>
    obtain ⟨number', u, behind', rfl, hnumber, rfl⟩ := unitOffset?_eq_some hoffset
    rw [cutAt?_byteLength] at hcut
    cases hcut
    rw [addGroup_eq, Option.map_eq_none_iff] at hadd
    rw [addUnits_group total.toInt hnumber, hadd]
    rfl
  | case5 total rest hempty offset hoffset number behind hcut total' hadd hunit =>
    obtain ⟨number', u, behind', rfl, hnumber, rfl⟩ := unitOffset?_eq_some hoffset
    rw [cutAt?_byteLength] at hcut
    cases hcut
    rw [cutAt?_letter] at hunit
    cases hunit
  | case6 total rest hempty offset hoffset number behind hcut total' hadd unit rest' hunit ih =>
    obtain ⟨number', u, behind', rfl, hnumber, rfl⟩ := unitOffset?_eq_some hoffset
    rw [cutAt?_byteLength] at hcut
    cases hcut
    rw [cutAt?_letter] at hunit
    cases hunit
    rw [addGroup_eq] at hadd
    obtain ⟨sum, hsum, rfl⟩ := Option.map_eq_some_iff.mp hadd
    obtain ⟨n, -, p, -, hfits⟩ : ∃ n, integer? number = some n ∧ ∃ p, ranged? (n * u.minutes) = some p ∧
        ranged? (total.toInt + p) = some sum := by
      simpa only [Option.bind_eq_some_iff] using hsum
    rw [addUnits_group total.toInt hnumber, hsum, Option.bind_some, ih,
      toInt_ofInt (ranged?_eq_some.mp hfits).2]

theorem clockInWords_eq (hours minutes : List Char) :
    clockInWords hours minutes = .ofOption ((clock? hours minutes).map .ofInt) := by
  unfold clockInWords clock? word?
  cases hh : integer? hours with
  | none => rfl
  | some h =>
    cases hm : integer? minutes with
    | none => rfl
    | some m =>
      have hfactor : Fits 60 := by decide
      simp only [Option.map_some, Option.bind_eq_bind, Option.bind_some]
      rw [show (60 : Int64) = .ofInt 60 from rfl, checkedMul_ofInt (integer?_eq_some.mp hh).fits hfactor]
      cases hp : ranged? (h * 60) with
      | none => rfl
      | some p =>
        rw [Option.map_some, Option.bind_some, Option.bind_some,
          checkedAdd_ofInt (ranged?_eq_some.mp hp).2 (integer?_eq_some.mp hm).fits]

theorem minutesInWords_eq (text : String) :
    minutesInWords text = .ofOption ((minutes? text).map .ofInt) := by
  unfold minutesInWords minutes? minutesOf word?
  cases hinteger : integer? text.toList with
  | some n => rfl
  | none =>
    rw [Option.map_none]
    cases hdrop : text.toList.dropWhile (· != ':') with
    | nil =>
      dsimp only
      rw [units?]
      split_ifs
      · rfl
      · exact unitsInWords_eq 0 _
    | cons c minutes =>
      obtain rfl : c = ':' := by simpa using eq_false_of_dropWhile hdrop
      exact clockInWords_eq _ _

/-- What is read of a text is what the notations let it stand for. Words of 64 bits and cuts at byte
offsets come to the same: no word wraps, and every cut falls between characters. -/
theorem minutes?_eq_some_iff_denotes (text : String) :
    (∀ v, minutes? text = some v ↔ Denotes text.toList v) ∧
    (minutes? text = none ↔ ∀ v, ¬ Denotes text.toList v) ∧
    (∀ v, minutes? text = some v ↔ ∃ n : Int64, minutesInWords text = .minutes n ∧ n.toInt = v) ∧
    (minutes? text = none ↔ minutesInWords text = .nothing) := by
  have hdenotes : ∀ v, minutes? text = some v ↔ Denotes text.toList v := fun v => minutesOf_eq_some
  refine ⟨hdenotes, ?_, ?_⟩
  · rw [Option.eq_none_iff_forall_ne_some]
    exact forall_congr' fun v => not_congr (hdenotes v)
  · rw [minutesInWords_eq]
    cases hread : minutes? text with
    | none => simp [Reading.ofOption]
    | some w =>
      have hw : (Int64.ofInt w).toInt = w := toInt_ofInt ((hdenotes w).mp hread).fits
      simp [Reading.ofOption, hw]

/-- A sum on the way does not fit, though the whole sum would. -/
example : minutes? "9223372036854775807m1m-1m" = none := by cbv

end MediaCatalogue.Query
