import MediaCatalogue.Proofs.Catalogue.Keys
import MediaCatalogue.Proofs.Files.Tree
import MediaCatalogue.Proofs.Media.Json

/-! A catalogue is read back as it was written, from its text and from its file. That its records are
the first with their keys keeps the reader from leaving one out. -/

namespace MediaCatalogue.Catalogue

open Json (Blank)

theorem mediaOfItems_map (ms : List Media) : mediaOfItems (ms.map Media.toJson) = .ok ms := by
  induction ms with
  | nil => rfl
  | cons m ms ih =>
    rw [List.map_cons, mediaOfItems, Media.ofJson_toJson, ih]
    rfl

theorem mediaOfJson_listJson (ms : List Media) : mediaOfJson (listJson ms) = .ok ms := by
  rw [listJson, mediaOfJson, mediaOfItems_map]
  rfl

theorem whole_listJson (ms : List Media) : (listJson ms).Whole := by
  refine ⟨?_, rfl⟩
  induction ms with
  | nil => trivial
  | cons m ms ih => exact ⟨m.whole_toJson, ih⟩

theorem levels_listJson (ms : List Media) : (listJson ms).levels ≤ Json.maxDepth := by
  have hitems : Json.levelsItems (ms.map Media.toJson) ≤ 1 := by
    induction ms with
    | nil => exact Nat.zero_le 1
    | cons m ms ih => exact Nat.max_le.mpr ⟨m.levels_toJson.le, ih⟩
  exact le_trans (Nat.succ_le_succ hitems) (by decide)

/-- Space behind the list does not matter. -/
theorem parseList_printList (ms : List Media) {blank : String} (hb : Blank blank.toList) :
    parseList (printList ms ++ blank) = .ok ms := by
  have hdecode : Json.decode mediaOfJson (printList ms ++ blank) = mediaOfJson (listJson ms) :=
    Json.decode_print mediaOfJson Json.spaced_pretty (whole_listJson ms) (levels_listJson ms) hb
  rw [parseList, hdecode, mediaOfJson_listJson]

theorem parse_print {c : Catalogue} (h : (c.items.map Media.key).Nodup) : parse c.print = .ok c := by
  have hlist : parseList (printList c.items ++ "") = .ok c.items :=
    parseList_printList c.items (by simp [Blank])
  rw [String.append_empty] at hlist
  rw [parse_eq, print, hlist, Except.map, ofList_of_nodup h]

theorem loadList_fileText {c : Catalogue} {tree : FileTree} {path : Path}
    (h : tree.read path = .ok c.fileText) : loadList tree path = .ok c.items := by
  have hlist : parseList c.fileText = .ok c.items :=
    parseList_printList c.items (by simp [Blank, Json.isSpace])
  simp only [loadList, h, hlist]

theorem load_fileText {c : Catalogue} {tree : FileTree} {path : Path}
    (hnodup : (c.items.map Media.key).Nodup) (h : tree.read path = .ok c.fileText) :
    load tree path = .ok c := by
  rw [load_eq, loadList_fileText h, Except.map, ofList_of_nodup hnodup]

theorem exists_read_of_load {c : Catalogue} {tree : FileTree} {path : Path}
    (h : load tree path = .ok c) : ∃ text, tree.read path = .ok text := by
  rw [load_eq, map_eq_ok] at h
  obtain ⟨ms, hlist, -⟩ := h
  unfold loadList at hlist
  split at hlist
  · cases hlist
  · next text hread => exact ⟨text, hread⟩

theorem hosts_of_load {c : Catalogue} {tree : FileTree} {path : Path}
    (h : load tree path = .ok c) : tree.Hosts path := by
  obtain ⟨text, hread⟩ := exists_read_of_load h
  exact FileTree.hosts_of_read hread

theorem nodup_of_load {c : Catalogue} {tree : FileTree} {path : Path}
    (h : load tree path = .ok c) : (c.items.map Media.key).Nodup := by
  rw [load_eq, map_eq_ok] at h
  obtain ⟨ms, -, rfl⟩ := h
  exact nodup_ofList ms

theorem read_save {c : Catalogue} {tree written : FileTree} {path : Path}
    (h : c.save tree path = (written, .ok ())) : written.read path = .ok c.fileText := by
  unfold save at h
  split at h
  · cases h
  · next made _ =>
    split at h
    · cases h
    · next wrote hwrite =>
      obtain rfl := (Prod.mk.inj h).1
      exact FileTree.read_write hwrite

/-- Where a file can stand, saving makes no directories: it only writes the file. -/
theorem save_of_hosts {tree : FileTree} {path : Path} (h : tree.Hosts path) (c : Catalogue) :
    ∃ written, tree.write path c.fileText = .ok written ∧ c.save tree path = (written, .ok ()) := by
  have hparents : makeParents tree path = .ok tree := by
    unfold makeParents
    split
    · rfl
    · next parent hparent => exact h.makeDirectories_parent hparent
  obtain ⟨written, hwrite⟩ := h.exists_write c.fileText
  exact ⟨written, hwrite, by simp only [save, hparents, hwrite]⟩

theorem exists_save {tree : FileTree} {path : Path} (h : tree.Hosts path) (c : Catalogue) :
    ∃ written, c.save tree path = (written, .ok ()) := by
  obtain ⟨written, -, hsave⟩ := save_of_hosts h c
  exact ⟨written, hsave⟩

/-- Nothing of a catalogue is lost in its text or in a file. -/
structure ReadsBack (c : Catalogue) : Prop where
  text : parse c.print = .ok c
  /-- A file that it is saved to holds its text and the end of a line, and is loaded as it was saved. -/
  file : ∀ (tree written : FileTree) (path : Path), c.save tree path = (written, .ok ()) →
    written.read path = .ok (c.print ++ "\n") ∧ load written path = .ok c
  /-- Saving does not fail where a file can stand. -/
  save : ∀ (tree : FileTree) (path : Path), tree.Hosts path →
    ∃ written, c.save tree path = (written, .ok ())

/-- Whatever has been done since a start without records, the catalogue is read back. So is every single
record, from its line. -/
theorem stored_reads_back (ops : List Operation) (tree : FileTree) :
    ReadsBack ((Session.start tree).performAll ops).catalogue ∧
      ∀ m : Media, Media.parse m.print = .ok m := by
  have hnodup := Session.nodup_performAll ops (Session.start tree) List.nodup_nil
  refine ⟨⟨parse_print hnodup, ?_, fun _ _ hhosts => exists_save hhosts _⟩, Media.parse_print⟩
  intro tree written path hsave
  exact ⟨read_save hsave, load_fileText hnodup (read_save hsave)⟩

end MediaCatalogue.Catalogue
