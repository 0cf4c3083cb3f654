import Mathlib
import MediaCatalogue.Catalogue.Session
import MediaCatalogue.Proofs.Fallible

/-! No two records of a catalogue have the same key, whatever is done with it. What is read or collected
becomes the records that are the first with their key. -/

namespace MediaCatalogue.Catalogue

def Lacks (ms : List Media) (k : Media.Key) : Prop := ∀ x ∈ ms, x.key ≠ k

/-- Those records before which no other has their key, in order. -/
def firstWithKey (ms : List Media) : List Media :=
  (ms.zipIdx.filter fun (m, i) => (ms.take i).all (·.key != m.key)).map (·.1)

/-- No two records, wherever they stand, have the same type, title and year. -/
def Distinct (ms : List Media) : Prop :=
  ∀ (i j : Nat) (a b : Media), ms[i]? = some a → ms[j]? = some b →
    a.mediaType = b.mediaType → a.title = b.title → a.releaseYear = b.releaseYear → i = j

theorem distinct_iff_nodup {ms : List Media} : Distinct ms ↔ (ms.map Media.key).Nodup := by
  have hkey : ∀ a b : Media, a.key = b.key ↔
      a.mediaType = b.mediaType ∧ a.title = b.title ∧ a.releaseYear = b.releaseYear := by
    intro a b
    simp only [Media.key, Media.Key.mk.injEq]
  constructor
  · intro h
    rw [List.nodup_iff_getElem?_ne_getElem?]
    intro i j hij hj heq
    rw [List.length_map] at hj
    have hi : i < ms.length := hij.trans hj
    rw [List.getElem?_map, List.getElem?_map, List.getElem?_eq_getElem hi,
      List.getElem?_eq_getElem hj] at heq
    obtain ⟨ht, hn, hy⟩ := (hkey _ _).mp (Option.some.inj heq)
    have := h i j _ _ (List.getElem?_eq_getElem hi) (List.getElem?_eq_getElem hj) ht hn hy
    omega
  · intro h i j a b ha hb ht hn hy
    have hi : i < (ms.map Media.key).length := by
      rw [List.length_map]
      exact (List.getElem?_eq_some_iff.mp ha).1
    refine (List.getElem?_inj hi h).mp ?_
    rw [List.getElem?_map, List.getElem?_map, ha, hb]
    exact congrArg some ((hkey a b).mpr ⟨ht, hn, hy⟩)

theorem contains_eq_false {c : Catalogue} {m : Media} :
    c.contains m = false ↔ Lacks c.items m.key := by
  simp only [contains, List.any_eq_false, beq_iff_eq, Lacks, ne_eq]

theorem contains_eq_true {c : Catalogue} {m : Media} :
    c.contains m = true ↔ ∃ x ∈ c.items, x.key = m.key := by
  simp only [contains, List.any_eq_true, beq_iff_eq]

theorem nodup_add {c : Catalogue} (m : Media) (h : (c.items.map Media.key).Nodup) :
    ((c.add m).items.map Media.key).Nodup := by
  unfold add
  split_ifs with hc
  · exact h
  · have hnew := contains_eq_false.mp (Bool.eq_false_iff.mpr hc)
    rw [List.map_append, List.nodup_append]
    refine ⟨h, List.nodup_singleton _, ?_⟩
    intro k hk k' hk'
    obtain ⟨x, hx, rfl⟩ := List.mem_map.mp hk
    obtain rfl := List.mem_singleton.mp hk'
    exact hnew x hx

theorem contains_add (c : Catalogue) (m x : Media) :
    (c.add m).contains x = (c.contains x || m.key == x.key) := by
  unfold add
  split_ifs with hc
  · -- the key of `m` is there already
    obtain ⟨y, hy, hym⟩ := contains_eq_true.mp hc
    by_cases hmx : m.key = x.key
    · rw [contains_eq_true.mpr ⟨y, hy, hym.trans hmx⟩, Bool.true_or]
    · rw [beq_eq_false_iff_ne.mpr hmx, Bool.or_false]
  · simp [contains]

theorem ofList_snoc (ms : List Media) (m : Media) : ofList (ms ++ [m]) = (ofList ms).add m := by
  simp [ofList, addAll]

theorem contains_ofList (ms : List Media) (x : Media) :
    (ofList ms).contains x = ms.any (·.key == x.key) := by
  induction ms using List.reverseRecOn with
  | nil => rfl
  | append_singleton ms m ih =>
    rw [ofList_snoc, contains_add, ih, List.any_append]
    simp

theorem nodup_ofList (ms : List Media) : ((ofList ms).items.map Media.key).Nodup := by
  induction ms using List.reverseRecOn with
  | nil => exact List.nodup_nil
  | append_singleton ms m ih => exact ofList_snoc ms m ▸ nodup_add m ih

theorem firstWithKey_snoc (ms : List Media) (m : Media) :
    firstWithKey (ms ++ [m]) =
      firstWithKey ms ++ if ms.all (·.key != m.key) then [m] else [] := by
  unfold firstWithKey
  rw [List.zipIdx_append, List.filter_append, List.map_append]
  congr 1
  · congr 1
    apply List.filter_congr
    rintro ⟨x, i⟩ hx
    obtain ⟨-, hi, -⟩ := List.mem_zipIdx hx
    simp only [List.take_append_of_le_length (Nat.le_of_lt_succ (Nat.lt_succ_of_lt (by simpa using hi)))]
  · simp only [List.zipIdx_cons, List.zipIdx_nil, Nat.zero_add, List.take_left, List.filter_cons,
      List.filter_nil]
    split_ifs <;> rfl

theorem items_ofList (ms : List Media) : (ofList ms).items = firstWithKey ms := by
  induction ms using List.reverseRecOn with
  | nil => rfl
  | append_singleton ms m ih =>
    have hall : ms.all (·.key != m.key) = !(ofList ms).contains m := by
      rw [contains_ofList, List.not_any_eq_all_not]
      rfl
    rw [ofList_snoc, firstWithKey_snoc, hall, ← ih, add]
    cases (ofList ms).contains m <;> simp

/-- A list without repeated keys is left as it is. -/
theorem ofList_of_nodup {ms : List Media} (h : (ms.map Media.key).Nodup) : ofList ms = ⟨ms⟩ := by
  induction ms using List.reverseRecOn with
  | nil => rfl
  | append_singleton ms m ih =>
    rw [List.map_append, List.nodup_append] at h
    obtain ⟨h, -, hnew⟩ := h
    have hc : (ofList ms).contains m = false := by
      rw [ih h, contains_eq_false]
      intro x hx
      exact hnew _ (List.mem_map_of_mem hx) _ (List.mem_singleton_self _)
    rw [ofList_snoc, add, hc, ih h]
    rfl

theorem nodup_remove {c : Catalogue} (i : Nat) (h : (c.items.map Media.key).Nodup) :
    ((c.remove i).2.items.map Media.key).Nodup :=
  h.sublist ((List.eraseIdx_sublist _ _).map _)

theorem parse_eq (text : String) : Catalogue.parse text = (parseList text).map ofList := by
  unfold Catalogue.parse
  cases parseList text <;> rfl

theorem load_eq (tree : FileTree) (path : Path) :
    Catalogue.load tree path = (loadList tree path).map ofList := by
  unfold Catalogue.load
  cases loadList tree path <;> rfl

namespace Session

/-- No operation lets two records have the same key. -/
theorem nodup_perform (s : Session) (op : Operation)
    (h : (s.catalogue.items.map Media.key).Nodup) :
    ((s.perform op).2.catalogue.items.map Media.key).Nodup := by
  cases op with
  | add m => exact nodup_add m h
  | remove i => exact nodup_remove i h
  | parse text =>
    simp only [perform, parse_eq]
    cases parseList text with
    | ok ms => exact nodup_ofList ms
    | error fault => exact h
  | collect ms => exact nodup_ofList ms
  | save path =>
    simp only [perform]
    split <;> exact h
  | load path =>
    simp only [perform, load_eq]
    cases loadList s.tree path with
    | ok ms => exact nodup_ofList ms
    | error e => exact h

theorem nodup_performAll (ops : List Operation) (s : Session)
    (h : (s.catalogue.items.map Media.key).Nodup) :
    ((s.performAll ops).catalogue.items.map Media.key).Nodup := by
  induction ops generalizing s with
  | nil => exact h
  | cons op ops ih => exact ih _ (nodup_perform s op h)

/-- What holds of a session, and what each operation then does and answers. -/
structure Lawful (s : Session) : Prop where
  distinct : Distinct s.catalogue.items
  add_new : ∀ m, Lacks s.catalogue.items m.key →
    s.perform (.add m) = (.added true, ⟨⟨s.catalogue.items ++ [m]⟩, s.tree⟩)
  add_known : ∀ m, ¬ Lacks s.catalogue.items m.key → s.perform (.add m) = (.added false, s)
  remove : ∀ i, s.perform (.remove i) =
    (.removed s.catalogue.items[i]?,
      ⟨⟨s.catalogue.items.take i ++ s.catalogue.items.drop (i + 1)⟩, s.tree⟩)
  parse : ∀ text, s.perform (.parse text) =
    match parseList text with
    | .ok ms => (.done, ⟨⟨firstWithKey ms⟩, s.tree⟩)
    | .error fault => (.malformed fault, s)
  collect : ∀ ms, s.perform (.collect ms) = (.done, ⟨⟨firstWithKey ms⟩, s.tree⟩)
  load : ∀ path, s.perform (.load path) =
    match loadList s.tree path with
    | .ok ms => (.done, ⟨⟨firstWithKey ms⟩, s.tree⟩)
    | .error e => (.failed e, s)
  save : ∀ path, (s.perform (.save path)).2.catalogue = s.catalogue

theorem ofList_eq (ms : List Media) : ofList ms = ⟨firstWithKey ms⟩ := by
  rw [← items_ofList]

/-- Whatever has been done since a start without records, no two records share type, title and year,
and every further operation does what it should. -/
theorem performAll_lawful (ops : List Operation) (tree : FileTree) :
    Lawful ((start tree).performAll ops) := by
  have hnodup := nodup_performAll ops (start tree) List.nodup_nil
  generalize (start tree).performAll ops = s at hnodup
  refine ⟨distinct_iff_nodup.mpr hnodup, ?_, ?_, ?_, ?_, ?_, ?_, ?_⟩
  · intro m hnew
    have hc : s.catalogue.contains m = false := contains_eq_false.mpr hnew
    simp only [perform, Catalogue.add, hc]
    rfl
  · intro m hknown
    have hc : s.catalogue.contains m = true := by
      rw [← Bool.not_eq_false, contains_eq_false]
      exact hknown
    simp only [perform, Catalogue.add, hc]
    rfl
  · intro i
    rw [perform, Catalogue.remove, List.eraseIdx_eq_take_drop_succ]
  · intro text
    simp only [perform, parse_eq]
    cases parseList text with
    | ok ms => simp only [Except.map, ofList_eq]
    | error fault => rfl
  · intro ms
    rw [perform, ofList_eq]
  · intro path
    simp only [perform, load_eq]
    cases loadList s.tree path with
    | ok ms => simp only [Except.map, ofList_eq]
    | error e => rfl
  · intro path
    simp only [perform]
    split <;> rfl

end Session

end MediaCatalogue.Catalogue
