import Mathlib
import MediaCatalogue.Pattern.Matcher

/-! What compiled patterns match, told of single pairs of positions. The sets of positions that a search
computes are those that matches lead to, from all starts at once. -/

namespace MediaCatalogue.Pattern

/-- A number of steps of a relation one after the other. -/
inductive Steps (R : Nat → Nat → Prop) : Nat → Nat → Nat → Prop where
  | zero (i : Nat) : Steps R 0 i i
  | succ {k i j l : Nat} (first : R i j) (rest : Steps R k j l) : Steps R (k + 1) i l

def charBefore (text : List Char) : Nat → Option Char
  | 0 => none
  | i + 1 => text[i]?

/-- A node matches what is between two positions of a text. -/
def Node.Matches (text : List Char) : Node → Nat → Nat → Prop
  | .empty, i, j => i = j
  | .one s, i, j => j = i + 1 ∧ ∃ c, text[i]? = some c ∧ s.contains c = true
  | .look l, i, j => i = j ∧ l.holds (charBefore text i) text[i]? = true
  | .sequence l r, i, j => ∃ k, l.Matches text i k ∧ r.Matches text k j
  | .alternation l r, i, j => l.Matches text i j ∨ r.Matches text i j
  | .repetition least most body, i, j =>
    ∃ k, least ≤ k ∧ (∀ m, most = some m → k ≤ max least m) ∧ Steps (body.Matches text) k i j

/-! Steps -/

section
variable {R : Nat → Nat → Prop} {N : Nat}

theorem steps_zero {i j : Nat} : Steps R 0 i j ↔ i = j := by
  constructor
  · rintro ⟨⟩
    rfl
  · rintro rfl
    exact .zero i

theorem steps_succ {k i j : Nat} : Steps R (k + 1) i j ↔ ∃ l, R i l ∧ Steps R k l j := by
  constructor
  · rintro (_ | ⟨first, rest⟩)
    exact ⟨_, first, rest⟩
  · rintro ⟨l, first, rest⟩
    exact .succ first rest

theorem steps_add {k l i j : Nat} : Steps R (k + l) i j ↔ ∃ m, Steps R k i m ∧ Steps R l m j := by
  induction k generalizing i with
  | zero => simp [steps_zero]
  | succ k ih =>
    rw [Nat.succ_add, steps_succ]
    simp only [ih, steps_succ]
    constructor
    · rintro ⟨m, first, n, rest, last⟩
      exact ⟨n, ⟨m, first, rest⟩, last⟩
    · rintro ⟨n, ⟨m, first, rest⟩, last⟩
      exact ⟨m, first, n, rest, last⟩

/-! Sets of positions -/

/-- A set holds no position behind `N`. -/
def Within (N s : Nat) : Prop := ∀ i, s.testBit i = true → i ≤ N

/-- A function on the sets within `N` leads from each position where a relation leads. -/
structure Advances (N : Nat) (f : Nat → Nat) (R : Nat → Nat → Prop) : Prop where
  testBit {s : Nat} (hs : Within N s) (j : Nat) :
    (f s).testBit j = true ↔ ∃ i, s.testBit i = true ∧ R i j
  within {i j : Nat} (hi : i ≤ N) (h : R i j) : j ≤ N

variable {f : Nat → Nat} {s : Nat}

theorem Advances.image (h : Advances N f R) (hs : Within N s) : Within N (f s) := by
  intro j hj
  obtain ⟨i, hi, hij⟩ := (h.testBit hs j).mp hj
  exact h.within (hs i hi) hij

theorem Advances.steps_within (h : Advances N f R) {k i j : Nat} (hi : i ≤ N) (hij : Steps R k i j) :
    j ≤ N := by
  induction hij with
  | zero i => exact hi
  | succ first rest ih => exact ih (h.within hi first)

theorem Within.or {t : Nat} (hs : Within N s) (ht : Within N t) : Within N (s ||| t) := by
  intro i hi
  rw [Nat.testBit_or, Bool.or_eq_true] at hi
  exact hi.elim (hs i) (ht i)

theorem testBit_iterate (h : Advances N f R) (hs : Within N s) (k j : Nat) :
    (iterate f k s).testBit j = true ↔ ∃ i, s.testBit i = true ∧ Steps R k i j := by
  induction k generalizing s with
  | zero => simp [iterate, steps_zero]
  | succ k ih =>
    rw [iterate]
    split_ifs with hzero
    · simp [hzero]
    · simp only [ih (h.image hs), h.testBit hs, steps_succ]
      constructor
      · rintro ⟨m, ⟨i, hi, him⟩, hmj⟩
        exact ⟨i, hi, m, him, hmj⟩
      · rintro ⟨i, hi, m, him, hmj⟩
        exact ⟨m, ⟨i, hi, him⟩, hmj⟩

/-- A set is closed if nothing new can be reached from it. -/
theorem Advances.steps_of_closed (h : Advances N f R) (hs : Within N s) (hclosed : s ||| f s = s)
    {k i j : Nat} (hi : s.testBit i = true) (hij : Steps R k i j) : s.testBit j = true := by
  induction hij with
  | zero i => exact hi
  | @succ _ i j _ first rest ih =>
    refine ih ?_
    rw [← hclosed, Nat.testBit_or, Bool.or_eq_true]
    exact .inr ((h.testBit hs j).mpr ⟨i, hi, first⟩)

theorem testBit_closure (h : Advances N f R) (hs : Within N s) (n j : Nat) :
    (closure f n s).testBit j = true ↔ ∃ k ≤ n, ∃ i, s.testBit i = true ∧ Steps R k i j := by
  induction n generalizing s with
  | zero => simp [closure, steps_zero]
  | succ n ih =>
    rw [closure]
    split_ifs with hclosed
    · constructor
      · intro hj
        exact ⟨0, Nat.zero_le _, j, hj, .zero j⟩
      · rintro ⟨k, -, i, hi, hij⟩
        exact h.steps_of_closed hs hclosed hi hij
    · rw [ih (hs.or (h.image hs))]
      simp only [Nat.testBit_or, Bool.or_eq_true, h.testBit hs]
      constructor
      · rintro ⟨k, hk, m, hm | ⟨i, hi, him⟩, hmj⟩
        · exact ⟨k, Nat.le_succ_of_le hk, m, hm, hmj⟩
        · exact ⟨k + 1, Nat.succ_le_succ hk, i, hi, .succ him hmj⟩
      · rintro ⟨k, hk, i, hi, hij⟩
        cases hij with
        | zero => exact ⟨0, Nat.zero_le _, _, .inl hi, .zero _⟩
        | @succ k _ m _ first rest =>
          exact ⟨k, Nat.le_of_succ_le_succ hk, m, .inr ⟨i, hi, first⟩, rest⟩

def positions (N s : Nat) : Finset Nat := (Finset.range (N + 1)).filter fun i => s.testBit i = true

theorem card_positions_le (N s : Nat) : (positions N s).card ≤ N + 1 := by
  simpa [positions] using Finset.card_filter_le (Finset.range (N + 1)) fun i => s.testBit i = true

theorem card_positions_lt {t : Nat} (hst : Within N (s ||| t)) (hne : s ||| t ≠ s) :
    (positions N s).card < (positions N (s ||| t)).card := by
  refine Finset.card_lt_card (Finset.ssubset_iff_subset_ne.mpr ⟨?_, ?_⟩)
  · intro i hi
    simp only [positions, Finset.mem_filter, Nat.testBit_or, Bool.or_eq_true] at hi ⊢
    exact ⟨hi.1, .inl hi.2⟩
  · intro heq
    refine hne (Nat.eq_of_testBit_eq fun i => ?_)
    rw [Bool.eq_iff_iff]
    constructor
    · intro hi
      have hmem : i ∈ positions N (s ||| t) :=
        Finset.mem_filter.mpr ⟨Finset.mem_range_succ_iff.mpr (hst i hi), hi⟩
      rw [← heq] at hmem
      exact (Finset.mem_filter.mp hmem).2
    · intro hi
      rw [Nat.testBit_or, hi, Bool.true_or]

/-- Each round finds something new or is the last one, so there are no more rounds than positions. -/
theorem closure_closed (h : Advances N f R) (hs : Within N s) {n : Nat}
    (hn : N + 1 < n + (positions N s).card) : closure f n s ||| f (closure f n s) = closure f n s := by
  induction n generalizing s with
  | zero => exact absurd (card_positions_le N s) (by omega)
  | succ n ih =>
    rw [closure]
    split_ifs with hclosed
    · exact hclosed
    · have hgrown := hs.or (h.image hs)
      have hcard := card_positions_lt hgrown hclosed
      exact ih hgrown (by omega)

theorem testBit_closure_all (h : Advances N f R) (hs : Within N s) (j : Nat) :
    (closure f (N + 1) s).testBit j = true ↔ ∃ k i, s.testBit i = true ∧ Steps R k i j := by
  constructor
  · intro hj
    obtain ⟨k, -, hk⟩ := (testBit_closure h hs (N + 1) j).mp hj
    exact ⟨k, hk⟩
  · rintro ⟨k, i, hi, hij⟩
    have hpositive : 0 < (positions N s).card := by
      refine Finset.card_pos.mpr ⟨i, Finset.mem_filter.mpr ⟨?_, hi⟩⟩
      exact Finset.mem_range_succ_iff.mpr (hs i hi)
    have hwithin : Within N (closure f (N + 1) s) := by
      intro m hm
      obtain ⟨_, -, l, hl, hlm⟩ := (testBit_closure h hs (N + 1) m).mp hm
      exact h.steps_within (hs l hl) hlm
    have hstart : (closure f (N + 1) s).testBit i = true :=
      (testBit_closure h hs (N + 1) i).mpr ⟨0, Nat.zero_le _, i, hi, .zero i⟩
    exact h.steps_of_closed hwithin (closure_closed h hs (by omega)) hstart hij

end

/-! Single characters and the gaps between them -/

theorem testBit_charMask (p : Char → Bool) (text : List Char) (i : Nat) :
    (charMask p text).testBit i = text[i]?.any p := by
  induction text generalizing i with
  | nil => simp [charMask]
  | cons c cs ih =>
    cases i with
    | zero => cases hp : p c <;> simp [charMask, hp, Nat.testBit_zero]
    | succ i =>
      rw [charMask, Nat.testBit_succ, List.getElem?_cons_succ, ← ih]
      congr 1
      split <;> omega

theorem testBit_gapMask (p : Option Char → Option Char → Bool) (before : Option Char)
    (text : List Char) (i : Nat) :
    (gapMask p before text).testBit i =
      (decide (i ≤ text.length) && p (if i = 0 then before else charBefore text i) text[i]?) := by
  induction text generalizing i before with
  | nil =>
    cases i with
    | zero => cases hp : p before none <;> simp [gapMask, hp]
    | succ i =>
      rw [gapMask, Nat.testBit_succ]
      split <;> simp
  | cons c cs ih =>
    cases i with
    | zero => cases hp : p before (some c) <;> simp [gapMask, hp, Nat.testBit_zero]
    | succ i =>
      rw [gapMask, Nat.testBit_succ, List.getElem?_cons_succ]
      have hhalf : ((if p before (some c) = true then 1 else 0) + 2 * gapMask p (some c) cs) / 2 =
          gapMask p (some c) cs := by split <;> omega
      rw [hhalf, ih]
      cases i with
      | zero => simp [charBefore]
      | succ i => simp [charBefore]

/-! Searching -/

/-- The search leads from each position to the ends of the matches that start there. -/
theorem Node.advances (text : List Char) (n : Node) :
    Advances text.length (n.reach text ·) (n.Matches text) := by
  induction n with
  | empty =>
    refine ⟨fun _ j => ?_, fun hi h => h ▸ hi⟩
    simp [reach, Matches]
  | one s =>
    refine ⟨fun _ j => ?_, ?_⟩
    · simp only [reach, Matches]
      rw [Nat.testBit_shiftLeft]
      cases j with
      | zero => simp
      | succ j => simp [testBit_charMask, Option.any_eq_true]
    · rintro i j hi ⟨rfl, c, hc, -⟩
      obtain ⟨hlt, -⟩ := List.getElem?_eq_some_iff.mp hc
      exact hlt
  | look l =>
    refine ⟨fun hs j => ?_, fun hi h => h.1 ▸ hi⟩
    have hbefore : (if j = 0 then none else charBefore text j) = charBefore text j := by
      cases j <;> rfl
    simp only [reach, Matches, Nat.testBit_and, testBit_gapMask, hbefore, Bool.and_eq_true,
      decide_eq_true_eq]
    constructor
    · rintro ⟨hj, -, hholds⟩
      exact ⟨j, hj, rfl, hholds⟩
    · rintro ⟨i, hi, rfl, hholds⟩
      exact ⟨hi, hs i hi, hholds⟩
  | sequence l r ihl ihr =>
    refine ⟨fun hs j => ?_, ?_⟩
    · simp only [reach, Matches, ihr.testBit (ihl.image hs), ihl.testBit hs]
      constructor
      · rintro ⟨k, ⟨i, hi, hik⟩, hkj⟩
        exact ⟨i, hi, k, hik, hkj⟩
      · rintro ⟨i, hi, k, hik, hkj⟩
        exact ⟨k, ⟨i, hi, hik⟩, hkj⟩
    · rintro i j hi ⟨k, hik, hkj⟩
      exact ihr.within (ihl.within hi hik) hkj
  | alternation l r ihl ihr =>
    refine ⟨fun hs j => ?_, fun hi h => h.elim (ihl.within hi) (ihr.within hi)⟩
    simp only [reach, Matches, Nat.testBit_or, Bool.or_eq_true, ihl.testBit hs, ihr.testBit hs]
    simp only [and_or_left, exists_or]
  | repetition least most body ih =>
    constructor
    · intro s hs j
      have hstart : Within text.length (iterate (body.reach text ·) least s) := by
        intro m hm
        obtain ⟨i, hi, him⟩ := (testBit_iterate ih hs least m).mp hm
        exact ih.steps_within (hs i hi) him
      cases most with
      | none =>
        simp only [reach, Matches, testBit_closure_all ih hstart, testBit_iterate ih hs]
        constructor
        · rintro ⟨k, m, ⟨i, hi, him⟩, hmj⟩
          exact ⟨i, hi, least + k, Nat.le_add_right _ _, nofun, steps_add.mpr ⟨m, him, hmj⟩⟩
        · rintro ⟨i, hi, k, hk, -, hij⟩
          obtain ⟨l, rfl⟩ := Nat.exists_eq_add_of_le hk
          obtain ⟨m, him, hmj⟩ := steps_add.mp hij
          exact ⟨l, m, ⟨i, hi, him⟩, hmj⟩
      | some most =>
        simp only [reach, Matches, testBit_closure ih hstart, testBit_iterate ih hs,
          Option.some.injEq, forall_eq']
        constructor
        · rintro ⟨k, hk, m, ⟨i, hi, him⟩, hmj⟩
          exact ⟨i, hi, least + k, Nat.le_add_right _ _, by omega, steps_add.mpr ⟨m, him, hmj⟩⟩
        · rintro ⟨i, hi, k, hk, hmost, hij⟩
          obtain ⟨l, rfl⟩ := Nat.exists_eq_add_of_le hk
          obtain ⟨m, him, hmj⟩ := steps_add.mp hij
          exact ⟨l, by omega, m, ⟨i, hi, him⟩, hmj⟩
    · rintro i j hi ⟨k, -, -, hij⟩
      exact ih.steps_within hi hij

theorem testBit_all (N i : Nat) : (1 <<< (N + 1) - 1).testBit i = true ↔ i ≤ N := by
  rw [Nat.one_shiftLeft, Nat.testBit_two_pow_sub_one, decide_eq_true_eq, Nat.lt_succ_iff]

theorem Node.occursIn_iff (text : List Char) (n : Node) :
    n.occursIn text = true ↔ ∃ i j, i ≤ text.length ∧ n.Matches text i j := by
  have hall : Within text.length (1 <<< (text.length + 1) - 1) := fun i => (testBit_all _ i).mp
  have hbits : n.reach text (1 <<< (text.length + 1) - 1) ≠ 0 ↔
      ∃ j, (n.reach text (1 <<< (text.length + 1) - 1)).testBit j = true := by
    constructor
    · exact Nat.exists_testBit_of_ne_zero
    · rintro ⟨j, hj⟩ hzero
      rw [hzero, Nat.zero_testBit] at hj
      cases hj
  rw [occursIn, bne_iff_ne, hbits, exists_congr fun j => (n.advances text).testBit hall j, exists_comm]
  simp only [testBit_all, exists_and_left]

theorem Node.spans_iff (text : List Char) (n : Node) :
    n.spans text = true ↔ n.Matches text 0 text.length := by
  have hone : Within text.length 1 := by
    intro i hi
    rw [Nat.testBit_one_eq_true_iff_self_eq_zero] at hi
    exact hi ▸ Nat.zero_le _
  rw [spans, (n.advances text).testBit hone]
  simp [Nat.testBit_one_eq_true_iff_self_eq_zero]

end MediaCatalogue.Pattern
