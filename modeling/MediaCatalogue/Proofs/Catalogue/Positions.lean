import Mathlib
import MediaCatalogue.Catalogue.Basic

/-! The records at some positions of a catalogue, and the rest. Removing goes from the last position to
the first, so a position that is still to come means the record that it was found for. -/

namespace MediaCatalogue.Catalogue

/-- The records at positions, in the order of the catalogue. -/
def recordsAt (ms : List Media) (positions : List Nat) : List Media :=
  (ms.zipIdx.filter fun x => x.2 ∈ positions).map (·.1)

/-- The records at all other positions. -/
def recordsOutside (ms : List Media) (positions : List Nat) : List Media :=
  (ms.zipIdx.filter fun x => x.2 ∉ positions).map (·.1)

/-- No record is lost, and none is in both parts. -/
theorem recordsAt_append_recordsOutside_perm (ms : List Media) (positions : List Nat) :
    (recordsAt ms positions ++ recordsOutside ms positions).Perm ms := by
  have hperm := (List.filter_append_perm (fun x : Media × Nat => decide (x.2 ∈ positions))
    ms.zipIdx).map Prod.fst
  rw [List.map_append, List.zipIdx_map_fst] at hperm
  simpa [recordsAt, recordsOutside] using hperm

/-- The members of a part of a list without repetitions. -/
theorem filter_mem_eq_of_sublist {α : Type} [BEq α] [LawfulBEq α] {part all : List α}
    (h : part.Sublist all) (hall : all.Nodup) : all.filter (· ∈ part) = part := by
  induction h with
  | slnil => rfl
  | @cons part all a hsub ih =>
    obtain ⟨ha, hall⟩ := List.nodup_cons.mp hall
    have hpart : a ∉ part := fun hmem => ha (hsub.subset hmem)
    rw [List.filter_cons_of_neg (by simpa using hpart), ih hall]
  | @cons_cons part all a hsub ih =>
    obtain ⟨ha, hall⟩ := List.nodup_cons.mp hall
    have hrest : all.filter (· ∈ a :: part) = all.filter (· ∈ part) := by
      apply List.filter_congr
      intro b hb
      have hne : b ≠ a := fun hba => ha (hba ▸ hb)
      simp [hne]
    rw [List.filter_cons_of_pos (by simp), hrest, ih hall]

theorem nodup_zipIdx (ms : List Media) : ms.zipIdx.Nodup := by
  apply List.Nodup.of_map Prod.snd
  rw [List.zipIdx_map_snd]
  exact List.nodup_range'

/-- Pairs are found again by their positions alone. -/
theorem zipIdx_filter_mem {ms : List Media} {pairs : List (Media × Nat)}
    (h : pairs.Sublist ms.zipIdx) : (ms.zipIdx.filter fun x => x.2 ∈ pairs.map (·.2)) = pairs := by
  have hmem : ∀ x ∈ ms.zipIdx, x.2 ∈ pairs.map (·.2) ↔ x ∈ pairs := by
    rintro ⟨m, i⟩ hx
    rw [List.mem_map]
    constructor
    · rintro ⟨⟨m', j⟩, hpair, rfl⟩
      -- one position has one record
      have hm := List.mk_mem_zipIdx_iff_getElem?.mp hx
      have hm' := List.mk_mem_zipIdx_iff_getElem?.mp (h.subset hpair)
      obtain rfl := Option.some.inj (hm.symm.trans hm')
      exact hpair
    · exact fun hpair => ⟨(m, i), hpair, rfl⟩
  rw [List.filter_congr fun x hx => decide_eq_decide.mpr (hmem x hx)]
  exact filter_mem_eq_of_sublist h (nodup_zipIdx ms)

theorem zipIdx_filter_eq {ms : List Media} {m : Media} {i : Nat} (h : ms[i]? = some m) :
    ms.zipIdx.filter (fun x => x.2 = i) = [(m, i)] := by
  have hmem : (m, i) ∈ ms.zipIdx := List.mk_mem_zipIdx_iff_getElem?.mpr h
  have hone := zipIdx_filter_mem (List.singleton_sublist.mpr hmem)
  simpa only [List.map_cons, List.map_nil, List.mem_singleton] using hone

/-- The records at the positions of some pairs are those of the pairs. -/
theorem recordsAt_map_snd {ms : List Media} {pairs : List (Media × Nat)} (h : pairs.Sublist ms.zipIdx) :
    recordsAt ms (pairs.map (·.2)) = pairs.map (·.1) := by
  rw [recordsAt, zipIdx_filter_mem h]

theorem recordsAt_singleton {ms : List Media} {m : Media} {i : Nat} (h : ms[i]? = some m) :
    recordsAt ms [i] = [m] := by
  simp only [recordsAt, List.mem_singleton, zipIdx_filter_eq h, List.map_cons, List.map_nil]

/-- Looking records up one by one finds those at the positions. -/
theorem filterMap_getElem? {ms : List Media} {S : List Nat} (h : S.Sublist (List.range ms.length)) :
    S.filterMap (ms[·]?) = recordsAt ms S := by
  have hrange : ms.zipIdx.map Prod.snd = List.range ms.length := by
    rw [List.zipIdx_map_snd, List.range_eq_range']
  have hS : S = (ms.zipIdx.filter fun x => x.2 ∈ S).map Prod.snd := by
    conv_lhs => rw [← filter_mem_eq_of_sublist h List.nodup_range, ← hrange, List.filter_map]
    rfl
  conv_lhs => rw [hS]
  rw [List.filterMap_map, recordsAt, ← List.filterMap_eq_map]
  apply List.filterMap_congr
  intro x hx
  exact List.mem_zipIdx_iff_getElem?.mp (List.mem_filter.mp hx).1

theorem recordsAt_sublist (ms : List Media) (positions : List Nat) :
    (recordsAt ms positions).Sublist ms := by
  have hsub := (List.filter_sublist (p := fun x : Media × Nat => x.2 ∈ positions)
    (l := ms.zipIdx)).map Prod.fst
  rwa [List.zipIdx_map_fst] at hsub

theorem outside_behind {n : Nat} {S : List Nat} (h : ∀ i ∈ S, i < n) (ms : List Media) :
    ((ms.zipIdx n).filter fun x => x.2 ∉ S).map (·.1) = ms := by
  rw [List.filter_eq_self.mpr, List.zipIdx_map_fst]
  rintro ⟨m, i⟩ hx
  have hni := List.le_snd_of_mem_zipIdx hx
  simp only [decide_eq_true_eq]
  intro hi
  exact absurd (h i hi) (Nat.not_lt.mpr hni)

/-- To take out a record behind all positions is to add its position to them. -/
theorem recordsOutside_eraseIdx {ms : List Media} {S : List Nat} {i : Nat} (hi : i < ms.length)
    (hS : ∀ j ∈ S, j < i) : recordsOutside (ms.eraseIdx i) S = recordsOutside ms (S ++ [i]) := by
  obtain ⟨front, m, back, rfl, rfl⟩ : ∃ front m back, ms = front ++ m :: back ∧ front.length = i :=
    ⟨ms.take i, ms[i], ms.drop (i + 1), by simp, by simpa using Nat.le_of_lt hi⟩
  have herase : (front ++ m :: back).eraseIdx front.length = front ++ back := by
    rw [List.eraseIdx_append_of_length_le le_rfl]
    simp
  have hfront : front.zipIdx.filter (fun x => x.2 ∉ S ++ [front.length]) =
      front.zipIdx.filter (fun x => x.2 ∉ S) := by
    apply List.filter_congr
    rintro ⟨x, j⟩ hx
    obtain ⟨-, hj, -⟩ := List.mem_zipIdx hx
    have hne : j ≠ front.length := by omega
    simp [hne]
  have hback : ∀ j ∈ S ++ [front.length], j < front.length + 1 := by
    intro j hj
    obtain hj | hj := List.mem_append.mp hj
    · exact Nat.lt_succ_of_lt (hS j hj)
    · exact Nat.lt_succ_of_le (List.mem_singleton.mp hj).le
  rw [herase, recordsOutside, recordsOutside, List.zipIdx_append, List.zipIdx_append,
    List.filter_append, List.filter_append, List.map_append, List.map_append, hfront, Nat.zero_add,
    outside_behind hS, List.zipIdx_cons, List.filter_cons_of_neg (by simp), outside_behind hback]

theorem removeEach_cons (c : Catalogue) (i : Nat) (is : List Nat) :
    c.removeEach (i :: is) =
      (c.items[i]?.toList ++ (removeEach ⟨c.items.eraseIdx i⟩ is).1,
        (removeEach ⟨c.items.eraseIdx i⟩ is).2) := rfl

/-- A position in front of the last one is still there after the last one has been removed. -/
theorem filterMap_getElem?_eraseIdx {ms : List Media} {S : List Nat} {i : Nat} (hS : ∀ j ∈ S, j < i) :
    S.filterMap ((ms.eraseIdx i)[·]?) = S.filterMap (ms[·]?) :=
  List.filterMap_congr fun j hj => List.getElem?_eraseIdx_of_lt (hS j hj)

/-- Removing from the last position on takes out the records that were at the positions before, in
reverse order, and leaves all others. -/
theorem removeEach_reverse {c : Catalogue} {S : List Nat}
    (h : S.Sublist (List.range c.items.length)) :
    c.removeEach S.reverse = ((recordsAt c.items S).reverse, ⟨recordsOutside c.items S⟩) := by
  have hsorted : S.Pairwise (· < ·) := List.pairwise_lt_range.sublist h
  have hbound : ∀ i ∈ S, i < c.items.length := fun i hi => List.mem_range.mp (h.subset hi)
  rw [← filterMap_getElem? h]
  clear h
  induction S using List.reverseRecOn generalizing c with
  | nil =>
    rw [recordsOutside, outside_behind (by simp)]
    rfl
  | append_singleton S i ih =>
    obtain ⟨hsorted, -, hlast⟩ := List.pairwise_append.mp hsorted
    have hS : ∀ j ∈ S, j < i := fun j hj => hlast j hj i (List.mem_singleton_self i)
    have hi : i < c.items.length := hbound i (by simp)
    have hrest : ∀ j ∈ S, j < (c.items.eraseIdx i).length := by
      intro j hj
      have := hS j hj
      rw [List.length_eraseIdx_of_lt hi]
      omega
    rw [List.reverse_append, List.reverse_singleton, List.singleton_append, removeEach_cons,
      ih hsorted hrest, recordsOutside_eraseIdx hi hS, filterMap_getElem?_eraseIdx hS,
      List.filterMap_append, List.reverse_append]
    simp [hi]

def meets (criteria : Query.Criteria) (wanted : Option MediaType) (m : Media) : Bool :=
  isOfType wanted m && criteria.accepts m.record

def matchingPairs (c : Catalogue) (criteria : Query.Criteria) (wanted : Option MediaType) :
    List (Media × Nat) := c.items.zipIdx.filter fun x => meets criteria wanted x.1

theorem filter_filter_zipIdx (c : Catalogue) (criteria : Query.Criteria) (wanted : Option MediaType) :
    ((c.items.zipIdx.filter fun (m, _) => isOfType wanted m).filter fun (m, _) =>
      criteria.accepts m.record) = c.matchingPairs criteria wanted := by
  rw [List.filter_filter, matchingPairs]
  apply List.filter_congr
  rintro ⟨m, i⟩ -
  exact Bool.and_comm _ _

theorem matchingIndices_eq (c : Catalogue) (criteria : Query.Criteria) (wanted : Option MediaType) :
    c.matchingIndices criteria wanted = (c.matchingPairs criteria wanted).map (·.2) := by
  rw [matchingIndices, filter_filter_zipIdx]

theorem mem_matchingIndices {c : Catalogue} {criteria : Query.Criteria} {wanted : Option MediaType}
    {i : Nat} : i ∈ c.matchingIndices criteria wanted ↔
      ∃ m, c.items[i]? = some m ∧ meets criteria wanted m = true := by
  rw [matchingIndices_eq, List.mem_map]
  constructor
  · rintro ⟨⟨m, j⟩, hx, rfl⟩
    obtain ⟨hx, hm⟩ := List.mem_filter.mp hx
    exact ⟨m, List.mk_mem_zipIdx_iff_getElem?.mp hx, hm⟩
  · rintro ⟨m, hi, hm⟩
    exact ⟨(m, i), List.mem_filter.mpr ⟨List.mk_mem_zipIdx_iff_getElem?.mpr hi, hm⟩, rfl⟩

theorem matchingIndices_sublist (c : Catalogue) (criteria : Query.Criteria)
    (wanted : Option MediaType) :
    (c.matchingIndices criteria wanted).Sublist (List.range c.items.length) := by
  have hall := (List.filter_sublist (p := fun x : Media × Nat => meets criteria wanted x.1)
    (l := c.items.zipIdx)).map Prod.snd
  rwa [← matchingPairs, ← matchingIndices_eq, List.zipIdx_map_snd, ← List.range_eq_range'] at hall

/-- What is left of the matches is what matches of the rest. -/
theorem recordsAt_filter_notMem (c : Catalogue) (criteria : Query.Criteria)
    (wanted : Option MediaType) (S : List Nat) :
    recordsAt c.items ((c.matchingIndices criteria wanted).filter (· ∉ S)) =
      (recordsOutside c.items S).filter (meets criteria wanted) := by
  rw [recordsAt, recordsOutside, List.filter_map, List.filter_filter]
  congr 1
  apply List.filter_congr
  rintro ⟨m, i⟩ hx
  have hm := List.mk_mem_zipIdx_iff_getElem?.mp hx
  simp [mem_matchingIndices, hm]

theorem matchingPairs_sublist (c : Catalogue) (criteria : Query.Criteria)
    (wanted : Option MediaType) : (c.matchingPairs criteria wanted).Sublist c.items.zipIdx :=
  List.filter_sublist

theorem map_fst_matchingPairs (c : Catalogue) (criteria : Query.Criteria)
    (wanted : Option MediaType) : (c.matchingPairs criteria wanted).map (·.1) =
      recordsAt c.items (c.matchingIndices criteria wanted) := by
  rw [matchingIndices_eq, recordsAt_map_snd (c.matchingPairs_sublist criteria wanted)]

theorem recordsAt_matchingIndices (c : Catalogue) (criteria : Query.Criteria)
    (wanted : Option MediaType) :
    recordsAt c.items (c.matchingIndices criteria wanted) = c.items.filter (meets criteria wanted) := by
  rw [← map_fst_matchingPairs, matchingPairs]
  conv_rhs => rw [← List.zipIdx_map_fst 0 c.items, List.filter_map]
  rfl

/-- The match with a number is the record at the position with this number. -/
theorem getElem?_recordsAt_matchingIndices {c : Catalogue} {criteria : Query.Criteria}
    {wanted : Option MediaType} {k i : Nat} (h : (c.matchingIndices criteria wanted)[k]? = some i) :
    ∃ m, c.items[i]? = some m ∧
      (recordsAt c.items (c.matchingIndices criteria wanted))[k]? = some m := by
  rw [matchingIndices_eq, List.getElem?_map, Option.map_eq_some_iff] at h
  obtain ⟨⟨m, i⟩, hpair, rfl⟩ := h
  have hmem := (List.mem_filter.mp (List.mem_of_getElem? hpair)).1
  refine ⟨m, List.mk_mem_zipIdx_iff_getElem?.mp hmem, ?_⟩
  rw [← map_fst_matchingPairs, List.getElem?_map, hpair]
  rfl

/-- Any criteria find in the rest what they found before, without what has been removed. -/
theorem recordsAt_matchingIndices_outside (c : Catalogue) (S : List Nat) (criteria : Query.Criteria)
    (wanted : Option MediaType) :
    recordsAt (recordsOutside c.items S)
        (matchingIndices ⟨recordsOutside c.items S⟩ criteria wanted) =
      recordsAt c.items ((c.matchingIndices criteria wanted).filter (· ∉ S)) := by
  rw [recordsAt_filter_notMem]
  exact recordsAt_matchingIndices ⟨recordsOutside c.items S⟩ criteria wanted

/-- Without the matches nothing matches. -/
theorem matchingIndices_outside_matches (c : Catalogue) (criteria : Query.Criteria)
    (wanted : Option MediaType) :
    matchingIndices ⟨recordsOutside c.items (c.matchingIndices criteria wanted)⟩ criteria wanted =
      [] := by
  rw [List.eq_nil_iff_forall_not_mem]
  intro i hi
  obtain ⟨m, hm, hmeets⟩ := mem_matchingIndices.mp hi
  obtain ⟨⟨m', j⟩, hx, rfl⟩ := List.mem_map.mp (List.mem_of_getElem? hm)
  obtain ⟨hx, hout⟩ := List.mem_filter.mp hx
  have hj := mem_matchingIndices.mpr ⟨m', List.mk_mem_zipIdx_iff_getElem?.mp hx, hmeets⟩
  simp only [decide_eq_true_eq] at hout
  exact hout hj

end MediaCatalogue.Catalogue
