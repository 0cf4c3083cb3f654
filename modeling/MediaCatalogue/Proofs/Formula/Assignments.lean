import Mathlib
import MediaCatalogue.Formula.TruthTable

/-! The enumeration of assignments. Its row counter is a word of 64 bits that never wraps, and row by row it
gives the bits of the numbers below a power of two, so that every list of truth values of the right length
comes once. -/

namespace MediaCatalogue.Formula

/-- The truth values of `width` variables in row `i`: the variable `k` has the bit `k` of `i`. -/
def bitsOf (width i : ℕ) : List Bool := (List.range width).map i.testBit

@[simp] theorem length_bitsOf (width i : ℕ) : (bitsOf width i).length = width := by simp [bitsOf]

theorem getElem?_bitsOf {width k : ℕ} (h : k < width) (i : ℕ) :
    (bitsOf width i)[k]? = some (i.testBit k) := by simp [bitsOf, h]

theorem bitsOf_inj {width i j : ℕ} (hi : i < 2 ^ width) (hj : j < 2 ^ width)
    (h : bitsOf width i = bitsOf width j) : i = j := by
  apply Nat.eq_of_testBit_eq
  intro k
  by_cases hk : k < width
  · have hbit := congrArg (·[k]?) h
    simpa only [getElem?_bitsOf hk, Option.some.injEq] using hbit
  · have hpow : 2 ^ width ≤ 2 ^ k := Nat.pow_le_pow_right two_pos (Nat.not_lt.mp hk)
    rw [Nat.testBit_lt_two_pow (hi.trans_le hpow), Nat.testBit_lt_two_pow (hj.trans_le hpow)]

theorem exists_bitsOf (values : List Bool) : ∃ i < 2 ^ values.length, bitsOf values.length i = values := by
  refine ⟨Nat.ofBits fun k : Fin values.length => values[k], Nat.ofBits_lt_two_pow _, ?_⟩
  refine List.ext_getElem (length_bitsOf ..) fun k _ hk => ?_
  simp [bitsOf, hk]

/-- All lists of `width` truth values in the order of their rows. -/
def vectors (width : ℕ) : List (List Bool) := (List.range (2 ^ width)).map (bitsOf width)

@[simp] theorem length_vectors (width : ℕ) : (vectors width).length = 2 ^ width := by simp [vectors]

theorem getElem?_vectors {width i : ℕ} (h : i < 2 ^ width) :
    (vectors width)[i]? = some (bitsOf width i) := by simp [vectors, h]

theorem nodup_vectors (width : ℕ) : (vectors width).Nodup := by
  refine List.nodup_range.map_on fun i hi j hj => ?_
  exact bitsOf_inj (List.mem_range.mp hi) (List.mem_range.mp hj)

theorem count_vectors (values : List Bool) : (vectors values.length).count values = 1 := by
  obtain ⟨i, hi, hvalues⟩ := exists_bitsOf values
  refine List.count_eq_one_of_mem (nodup_vectors _) ?_
  exact List.mem_map.mpr ⟨i, List.mem_range.mpr hi, hvalues⟩

namespace Assignments

/-- There are two to the number of variables many rows, and the next one is at most behind the last. -/
structure Sound (a : Assignments) : Prop where
  narrow : a.width ≤ maxWidth
  rows : a.rows.toNat = 2 ^ a.width
  next : a.next.toNat ≤ 2 ^ a.width

theorem toNat_toUInt64 {n : ℕ} (h : n ≤ 2 ^ maxWidth) : n.toUInt64.toNat = n := by
  rw [Nat.toUInt64_eq, UInt64.toNat_ofNat', Nat.mod_eq_of_lt]
  exact h.trans_lt (by decide)

theorem toNat_toUInt64_of_narrow {n : ℕ} (h : n ≤ maxWidth) : n.toUInt64.toNat % 64 = n := by
  have hlt : n < 64 := Nat.lt_succ_of_le h
  rw [toNat_toUInt64 (h.trans Nat.lt_two_pow_self.le), Nat.mod_eq_of_lt hlt]

theorem sound_ofWidth (width : ℕ) : (ofWidth width).Sound := by
  have hnarrow : min width maxWidth ≤ maxWidth := min_le_right ..
  have hlt : min width maxWidth < 64 := Nat.lt_succ_of_le hnarrow
  refine ⟨hnarrow, ?_, Nat.zero_le _⟩
  change (1 <<< (min width maxWidth).toUInt64 : UInt64).toNat = 2 ^ min width maxWidth
  rw [UInt64.toNat_shiftLeft, toNat_toUInt64_of_narrow hnarrow, UInt64.toNat_one, Nat.one_shiftLeft,
    Nat.mod_eq_of_lt (Nat.pow_lt_pow_right one_lt_two hlt)]

theorem row_eq {a : Assignments} (h : a.width ≤ maxWidth) (i : UInt64) :
    a.row i = bitsOf a.width i.toNat := by
  refine List.map_congr_left fun k hk => ?_
  have hk : k ≤ maxWidth := (List.mem_range.mp hk).le.trans h
  have hbit : ((i >>> k.toUInt64) &&& 1).toNat = i.toNat / 2 ^ k % 2 := by
    rw [UInt64.toNat_and, UInt64.toNat_shiftRight, toNat_toUInt64_of_narrow hk, UInt64.toNat_one,
      Nat.and_one_is_mod, Nat.shiftRight_eq_div_pow]
  rw [Nat.testBit_eq_decide_div_mod_eq, Bool.eq_iff_iff, beq_iff_eq, ← UInt64.toNat_inj, hbit,
    decide_eq_true_iff, UInt64.toNat_one]

section
variable {a : Assignments} (h : a.Sound)
include h

theorem Sound.rows_le : 2 ^ a.width ≤ 2 ^ maxWidth := Nat.pow_le_pow_right two_pos h.narrow

/-- The rows that are left are counted without a borrow. -/
theorem Sound.remaining : a.remaining = 2 ^ a.width - a.next.toNat := by
  rw [Assignments.remaining, UInt64.toNat_sub_of_le _ _ ?_, h.rows]
  rw [UInt64.le_iff_toNat_le, h.rows]
  exact h.next

theorem Sound.toNat_next_add {n : ℕ} (hn : a.next.toNat + n ≤ 2 ^ a.width) :
    (a.next + n.toUInt64).toNat = a.next.toNat + n := by
  have hpow := h.rows_le
  have hlast : 2 ^ maxWidth < 2 ^ 64 := by decide
  rw [UInt64.toNat_add, toNat_toUInt64 (by omega), Nat.mod_eq_of_lt (by omega)]

theorem Sound.toList : a.toList = (vectors a.width).drop a.next.toNat := by
  have hnext := h.next
  refine List.ext_getElem? fun i => ?_
  rw [Assignments.toList, h.remaining, List.getElem?_drop]
  by_cases hi : a.next.toNat + i < 2 ^ a.width
  · rw [getElem?_vectors hi, List.getElem?_map, List.getElem?_range (by omega), Option.map_some,
      row_eq h.narrow, h.toNat_next_add hi.le]
  · rw [List.getElem?_eq_none (by simp; omega), List.getElem?_eq_none (by simp; omega)]

/-- A step yields the row that comes next and moves the counter on by one, without a carry. -/
theorem Sound.next?_eq_some (hnext : a.next.toNat < 2 ^ a.width) :
    ∃ b, a.next? = some (bitsOf a.width a.next.toNat, b) ∧ b.Sound ∧ b.width = a.width ∧
      b.next.toNat = a.next.toNat + 1 := by
  have hlt : a.next < a.rows := by rwa [UInt64.lt_iff_toNat_lt, h.rows]
  have hone : (a.next + 1).toNat = a.next.toNat + 1 := h.toNat_next_add hnext
  refine ⟨{ a with next := a.next + 1 }, ?_, ⟨h.narrow, h.rows, hone.trans_le hnext⟩, rfl, hone⟩
  rw [next?, if_pos hlt, row_eq h.narrow]

theorem Sound.next?_eq_none (hnext : ¬a.next.toNat < 2 ^ a.width) : a.next? = none := by
  rw [next?, if_neg]
  rwa [UInt64.lt_iff_toNat_lt, h.rows]

theorem Sound.take (n : ℕ) :
    (a.take n).1 = a.toList.take n ∧ (a.take n).2.Sound ∧ (a.take n).2.width = a.width ∧
      (a.take n).2.next.toNat = min (a.next.toNat + n) (2 ^ a.width) := by
  have hbound := h.next
  induction n generalizing a with
  | zero => exact ⟨rfl, h, rfl, (min_eq_left h.next).symm⟩
  | succ n ih =>
    rw [h.toList, Assignments.take]
    by_cases hnext : a.next.toNat < 2 ^ a.width
    · obtain ⟨b, hstep, hb, hwidth, hcount⟩ := h.next?_eq_some hnext
      obtain ⟨hrows, hsound, hwidth', hcount'⟩ := ih hb hb.next
      have hdrop : (vectors a.width).drop a.next.toNat =
          bitsOf a.width a.next.toNat :: (vectors a.width).drop (a.next.toNat + 1) := by
        rw [List.drop_eq_getElem?_toList_append, getElem?_vectors hnext]
        rfl
      simp only [hstep]
      refine ⟨?_, hsound, hwidth'.trans hwidth, ?_⟩
      · rw [hrows, hb.toList, hwidth, hcount, hdrop, List.take_succ_cons]
      · rw [hcount', hwidth, hcount]
        omega
    · rw [h.next?_eq_none hnext]
      have hlast : a.next.toNat = min (a.next.toNat + (n + 1)) (2 ^ a.width) := by omega
      refine ⟨?_, h, rfl, hlast⟩
      rw [List.drop_eq_nil_of_le (by simp; omega), List.take_nil]

end

/-- Neither the number of rows, nor the number of those that are left, nor the next step of the counter is
changed by the width of a word. -/
structure Exact (a : Assignments) : Prop where
  rows : a.rows.toNat = 2 ^ a.width
  left : a.next ≤ a.rows
  step : a.next < a.rows → (a.next + 1).toNat = a.next.toNat + 1

theorem Sound.exact {a : Assignments} (h : a.Sound) : a.Exact where
  rows := h.rows
  left := by
    rw [UInt64.le_iff_toNat_le, h.rows]
    exact h.next
  step hnext := by
    rw [UInt64.lt_iff_toNat_lt, h.rows] at hnext
    exact h.toNat_next_add hnext

/-- The enumeration holds every list of `width` truth values once, in the order of their rows, and can be
asked for them one by one. -/
structure Enumerates (a : Assignments) (width : ℕ) : Prop where
  length : a.toList.length = 2 ^ width
  row : ∀ i < 2 ^ width, ∃ values, a.toList[i]? = some values ∧ values.length = width ∧
    ∀ k < width, values[k]? = some (i.testBit k)
  once : ∀ values : List Bool, values.length = width → a.toList.count values = 1
  yields : ∀ n, (a.take n).1 = a.toList.take n
  counter : ∀ n, (a.take n).2.next.toNat = min n (2 ^ width)
  left : ∀ n, (a.take n).2.remaining = 2 ^ width - min n (2 ^ width)
  exact : ∀ n, (a.take n).2.Exact

theorem enumerates_ofWidth (width : ℕ) : (ofWidth width).Enumerates (min width maxWidth) := by
  have h := sound_ofWidth width
  have hlist : (ofWidth width).toList = vectors (min width maxWidth) := h.toList.trans List.drop_zero
  have hcounter : ∀ n, ((ofWidth width).take n).2.next.toNat = min n (2 ^ min width maxWidth) := by
    intro n
    have hnext := (h.take n).2.2.2
    rwa [show (ofWidth width).next.toNat = 0 from rfl, Nat.zero_add] at hnext
  refine ⟨?_, fun i hi => ?_, fun values hvalues => ?_, fun n => (h.take n).1, hcounter, fun n => ?_,
    fun n => (h.take n).2.1.exact⟩
  · rw [hlist, length_vectors]
  · exact ⟨bitsOf _ i, hlist ▸ getElem?_vectors hi, length_bitsOf .., fun k hk => getElem?_bitsOf hk i⟩
  · rw [hlist, ← hvalues, count_vectors]
  · obtain ⟨-, hsound, hwidth, -⟩ := h.take n
    rw [hsound.remaining, hwidth, hcounter]
    rfl

theorem Enumerates.mem_iff {a : Assignments} {width : ℕ} (h : a.Enumerates width) {values : List Bool} :
    values ∈ a.toList ↔ values.length = width := by
  constructor
  · intro hmem
    obtain ⟨i, hi⟩ := List.mem_iff_getElem?.mp hmem
    obtain ⟨hlt, -⟩ := List.getElem?_eq_some_iff.mp hi
    obtain ⟨row, hrow, hwidth, -⟩ := h.row i (h.length ▸ hlt)
    obtain rfl := Option.some.inj (hrow.symm.trans hi)
    exact hwidth
  · intro hwidth
    exact List.count_pos_iff.mp (h.once values hwidth ▸ Nat.one_pos)

end Assignments

end MediaCatalogue.Formula
