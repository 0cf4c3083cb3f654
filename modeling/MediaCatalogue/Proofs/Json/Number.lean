import Mathlib
import MediaCatalogue.Json.Number
import MediaCatalogue.Proofs.Spans

/-! An integer of 64 bits is read back as it was written. -/

namespace MediaCatalogue.Json

/-- The integers that are not read as decimals. -/
def Exact (n : Int) : Prop := -(1 <<< 63) ≤ n ∧ n ≤ largestWord

theorem exact_of_bounds {n : Int} (hlow : -2 ^ 63 ≤ n) (hhigh : n < 2 ^ 64) : Exact n := by
  have hleast : -(1 <<< 63 : Int) = -2 ^ 63 := by decide
  have hgreatest : (largestWord : Int) = 2 ^ 64 - 1 := by decide
  constructor
  · rw [hleast]
    exact hlow
  · rw [hgreatest]
    exact Int.le_sub_one_of_lt hhigh

/-- Behind such text a number has ended. -/
def EndsNumber (rest : List Char) : Prop :=
  ∀ c cs, rest = c :: cs → c.isDigit = false ∧ c ≠ '.' ∧ c ≠ 'e' ∧ c ≠ 'E'

theorem spanDigits_append {ds rest : List Char} (hds : ∀ d ∈ ds, d.isDigit = true)
    (hrest : EndsNumber rest) : spanDigits (ds ++ rest) = (ds, rest) := by
  have hhead : ∀ c ∈ rest.head?, c.isDigit = false := by
    intro c hc
    obtain ⟨cs, rfl⟩ := List.head?_eq_some_iff.mp hc
    exact (hrest c cs rfl).1
  rw [spanDigits, takeWhile_span hds hhead, dropWhile_span hds hhead]

theorem isDigit_of_mem_toDigits {n : Nat} : ∀ d ∈ Nat.toDigits 10 n, d.isDigit = true :=
  fun _ hd => Nat.isDigit_of_mem_toDigits (by decide) (by decide) hd

theorem toDigits_cons (n : Nat) : ∃ d ds, Nat.toDigits 10 n = d :: ds ∧ d.isDigit = true := by
  cases hds : Nat.toDigits 10 n with
  | nil => exact absurd hds Nat.toDigits_ne_nil
  | cons d ds => exact ⟨d, ds, rfl, isDigit_of_mem_toDigits d (hds ▸ List.mem_cons_self)⟩

theorem toList_toString_ofNat (m : Nat) : (toString (Int.ofNat m)).toList = Nat.toDigits 10 m :=
  Nat.toList_repr

theorem toList_toString_negSucc (m : Nat) :
    (toString (Int.negSucc m)).toList = '-' :: Nat.toDigits 10 (m + 1) := by
  rw [← Nat.toList_repr]
  exact String.toList_append

theorem toDigits_head {n : Nat} (hn : 0 < n) : ∃ d ds, Nat.toDigits 10 n = d :: ds ∧ d ≠ '0' := by
  induction n using Nat.strongRecOn with
  | ind n ih =>
    rw [Nat.toDigits_eq_if (by decide)]
    split_ifs with hlt
    · refine ⟨n.digitChar, [], rfl, ?_⟩
      have : ∀ k < 10, 0 < k → k.digitChar ≠ '0' := by decide
      exact this n hlt hn
    · obtain ⟨d, ds, hds, hd⟩ := ih (n / 10) (by omega) (by omega)
      exact ⟨d, _, by rw [hds]; rfl, hd⟩

theorem le_ofDigitChars (ds : List Char) (n : Nat) : n ≤ Nat.ofDigitChars 10 ds n := by
  induction ds generalizing n with
  | nil => exact Nat.le_refl n
  | cons d ds ih =>
    have := ih (10 * n + (d.toNat - '0'.toNat))
    rw [Nat.ofDigitChars, List.foldl_cons]
    exact Nat.le_trans (by omega) this

theorem absorb_eq {ds : List Char} {n : Nat} (h : Nat.ofDigitChars 10 ds n ≤ largestWord) :
    absorb n ds = (Nat.ofDigitChars 10 ds n, 0) := by
  induction ds generalizing n with
  | nil => rfl
  | cons d ds ih =>
    have h : Nat.ofDigitChars 10 ds (10 * n + digitValue d) ≤ largestWord := h
    have hle := le_ofDigitChars ds (10 * n + digitValue d)
    rw [absorb, if_pos (hle.trans h), ih h]
    rfl

theorem wholeDigits_toDigits (n : Nat) {rest : List Char} (hrest : EndsNumber rest) :
    wholeDigits (Nat.toDigits 10 n ++ rest) = .ok (Nat.toDigits 10 n, rest) := by
  have hsome : someDigits (Nat.toDigits 10 n ++ rest) = .ok (Nat.toDigits 10 n, rest) := by
    rw [someDigits, spanDigits_append isDigit_of_mem_toDigits hrest]
    split
    · next h => exact absurd (Prod.mk.inj h).1 Nat.toDigits_ne_nil
    · next h => exact absurd (Prod.mk.inj h).1 Nat.toDigits_ne_nil
    · rfl
  rcases Nat.eq_zero_or_pos n with rfl | hn
  · cases rest with
    | nil => rfl
    | cons c cs =>
      have hc := (hrest c cs rfl).1
      simp [Nat.toDigits_zero, wholeDigits, hc]
  · obtain ⟨d, ds, hds, hd⟩ := toDigits_head hn
    rw [← hsome, hds, List.cons_append, wholeDigits]
    intro c cs h
    exact hd (List.cons.inj h).1

theorem readFraction_none {rest : List Char} (hrest : EndsNumber rest) :
    readFraction rest = .ok ([], rest) := by
  cases rest with
  | nil => rfl
  | cons c cs =>
    have hc := (hrest c cs rfl).2.1
    rw [readFraction]
    intro cs' h
    exact hc (List.cons.inj h).1

theorem readExponent_none {rest : List Char} (hrest : EndsNumber rest) :
    readExponent rest = .ok (none, rest) := by
  cases rest with
  | nil => rfl
  | cons c cs =>
    obtain ⟨-, -, he, hE⟩ := hrest c cs rfl
    simp [readExponent, he, hE]

def numeralOf (n : Int) : Numeral := ⟨n < 0, Nat.toDigits 10 n.natAbs, [], none⟩

theorem readNumeral_toString (n : Int) {rest : List Char} (hrest : EndsNumber rest) :
    readNumeral ((toString n).toList ++ rest) = .ok (numeralOf n, rest) := by
  cases n with
  | ofNat m =>
    obtain ⟨d, ds, hds, hd⟩ := toDigits_cons m
    have hsign : (Int.ofNat m < 0) = False := by simp
    unfold readNumeral
    split
    next heq =>
      split at heq
      · next h =>
        -- a digit is no sign
        rw [toList_toString_ofNat, hds, List.cons_append, List.cons.injEq] at h
        rw [h.1] at hd
        exact absurd hd (by decide)
      · cases heq
        simp only [toList_toString_ofNat, wholeDigits_toDigits m hrest, readFraction_none hrest,
          readExponent_none hrest, bind, Except.bind, pure, Except.pure, numeralOf, hsign, decide_false]
        rfl
  | negSucc m =>
    have hsign : (Int.negSucc m < 0) = True := by simp
    simp only [readNumeral, toList_toString_negSucc, List.cons_append, wholeDigits_toDigits (m + 1) hrest,
      readFraction_none hrest, readExponent_none hrest, bind, Except.bind, pure, Except.pure, numeralOf,
      hsign, decide_true]
    rfl

theorem integer?_numeralOf {n : Int} (hn : Exact n) : (numeralOf n).integer? = some n := by
  obtain ⟨hlow, hhigh⟩ := hn
  have habsorb : absorb 0 (Nat.toDigits 10 n.natAbs) = (n.natAbs, 0) := by
    have hvalue : Nat.ofDigitChars 10 (Nat.toDigits 10 n.natAbs) 0 = n.natAbs :=
      Nat.ofDigitChars_ten_toDigits
    rw [absorb_eq, hvalue]
    rw [hvalue]
    have : (1 <<< 63 : Int) ≤ largestWord := by decide
    omega
  simp only [Numeral.integer?, numeralOf, habsorb]
  by_cases hneg : n < 0
  · have hfits : ¬ (n.natAbs = 0 ∨ 1 <<< 63 < n.natAbs) := by
      have : (1 <<< 63 : Int) = ((1 <<< 63 : Nat) : Int) := by decide
      omega
    simp only [hneg, decide_true, Bool.not_true, Bool.false_eq_true, if_false, hfits]
    congr 1
    omega
  · simp only [hneg, decide_false, Bool.not_false, if_true]
    congr 1
    omega

theorem readNumber_toString {n : Int} (hn : Exact n) {rest : List Char} (hrest : EndsNumber rest) :
    readNumber ((toString n).toList ++ rest) = .ok (.integer n, rest) := by
  simp only [readNumber, readNumeral_toString n hrest, integer?_numeralOf hn, bind, Except.bind, pure,
    Except.pure]

end MediaCatalogue.Json
