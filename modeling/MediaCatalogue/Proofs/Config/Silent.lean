import MediaCatalogue.Proofs.Config.Discovery
import MediaCatalogue.Proofs.Config.Precedence
import MediaCatalogue.Proofs.Config.Template
import MediaCatalogue.Proofs.Files.Change

/-! A new configuration file that says nothing. It comes to be listed wherever it is on the way up, but the
files that were listed before are listed as before and in the same order, so that in every directory the
configuration stays what it was. -/

namespace MediaCatalogue.Config

open FileTree (Rewritten)

def override (home : Path) (f : PlacedFile) (c : Config) : Config :=
  { catalogue := (f.file.catalogue?.map (resolve home f.directory)).or c.catalogue
    limit := f.file.limit?.getD c.limit
    format := f.file.format?.getD c.format }

theorem merge_cons (home : Path) (f : PlacedFile) (files : List PlacedFile) :
    merge home (f :: files) = override home f (merge home files) := by
  rw [override, ← catalogue_merge_cons, ← limit_merge_cons, ← format_merge_cons]

theorem ofFiles_cons (tree : FileTree) (home p : Path) (paths : List Path) :
    ofFiles tree home (p :: paths) = (do
      let f ← loadFile tree p
      return override home f (← ofFiles tree home paths)) := by
  simp only [ofFiles, loadFiles]
  cases loadFile tree p with
  | error e => rfl
  | ok f =>
    cases loadFiles tree paths with
    | error e => rfl
    | ok files =>
      have hmerge := merge_cons home f files
      simp only [bind, Except.bind, pure, Except.pure, hmerge]

theorem isFile_of_mem_collect {tree : FileTree} {dirs : List Path} {p : Path}
    (hp : p ∈ (collect tree dirs).1) : tree.isFile p = true := by
  induction dirs with
  | nil => cases hp
  | cons d dirs ih =>
    rw [collect] at hp
    simp only at hp
    split_ifs at hp with hfile hends
    · exact List.mem_singleton.mp hp ▸ hfile
    · rcases List.mem_cons.mp hp with rfl | hp
      · exact hfile
      · exact ih hp
    · exact ih hp

/-- A file has come to be where there was nothing, and it says nothing. -/
structure Hushed (before after : FileTree) (place : Place) (text : String) : Prop where
  rewritten : Rewritten before after place text
  new : before.entry? place = none
  silent : ConfigFile.parse text = some .silent

namespace Hushed

variable {before after : FileTree} {place : Place} {text : String} {home : Path}

theorem loadFile_old (h : Hushed before after place text) {p : Path}
    (hp : before.isFile p = true) : loadFile after p = loadFile before p := by
  obtain ⟨q, entry, hlook, -⟩ := FileTree.isFile_iff.mp hp
  have hsame := h.rewritten.look_of_new h.new hlook
  simp only [loadFile, FileTree.read, hlook, hsame]

theorem loadFile_new (h : Hushed before after place text) {p : Path} (hafter : after.isFile p = true)
    (hbefore : before.isFile p = false) : loadFile after p = .ok ⟨p, .silent⟩ := by
  have hlook := h.rewritten.look_new hafter hbefore
  have hread : after.read p = .ok text := by
    rw [FileTree.read, hlook]
    rfl
  simp only [loadFile, hread, h.silent]

theorem isFile_of_isFile (h : Hushed before after place text) {p : Path}
    (hp : before.isFile p = true) : after.isFile p = true := h.rewritten.isFile_of_new h.new hp

/-- The way up ends where it ended, and the files on it that were there before are those of before. -/
theorem collect_filter (h : Hushed before after place text) (dirs : List Path) :
    (collect after dirs).1.filter before.isFile = (collect before dirs).1 ∧
      (collect after dirs).2 = (collect before dirs).2 := by
  induction dirs with
  | nil => exact ⟨rfl, rfl⟩
  | cons d dirs ih =>
    obtain ⟨hpaths, hended⟩ := ih
    rw [collect, collect]
    cases hbefore : before.isFile (d.join fileName) with
    | true =>
      have hends : endsSearch after (d.join fileName) = endsSearch before (d.join fileName) := by
        rw [endsSearch, endsSearch, h.loadFile_old hbefore]
      simp only [h.isFile_of_isFile hbefore, hends, if_true]
      split_ifs
      · exact ⟨List.filter_cons_of_pos hbefore, rfl⟩
      · exact ⟨by rw [List.filter_cons_of_pos hbefore, hpaths], hended⟩
    | false =>
      cases hafter : after.isFile (d.join fileName) with
      | false => exact ⟨hpaths, hended⟩
      | true =>
        have hends : endsSearch after (d.join fileName) = false := by
          rw [endsSearch, h.loadFile_new hafter hbefore]
          rfl
        simp only [hends, if_true, Bool.false_eq_true, if_false]
        refine ⟨?_, hended⟩
        rw [List.filter_cons_of_neg (by simp [hbefore]), hpaths]

/-- The new file is not the global one if there was a global file before. -/
theorem not_global_of_new (h : Hushed before after place text) {p : Path}
    (hglobal : before.isFile (globalPath home) = true) (hafter : after.isFile p = true)
    (hbefore : before.isFile p = false) : isGlobal home p = false := by
  rw [← Bool.not_eq_true, isGlobal_iff]
  intro hsame
  obtain ⟨q, entry, hlook, -⟩ := FileTree.isFile_iff.mp hglobal
  obtain ⟨hleads, hentry⟩ := FileTree.look_eq_ok_iff_leads.mp hlook
  obtain ⟨hleads', -⟩ := FileTree.look_eq_ok_iff_leads.mp (h.rewritten.look_new hafter hbefore)
  obtain rfl := hleads'.same hleads hsame
  rw [h.new] at hentry
  cases hentry

/-- Whether the global file is on the way up does not change if there was one. -/
theorem any_isGlobal (h : Hushed before after place text) (dirs : List Path)
    (hglobal : before.isFile (globalPath home) = true) :
    (collect after dirs).1.any (isGlobal home) = (collect before dirs).1.any (isGlobal home) := by
  rw [← (h.collect_filter dirs).1, Bool.eq_iff_iff, List.any_eq_true, List.any_eq_true]
  constructor
  · rintro ⟨p, hp, hpglobal⟩
    cases hbefore : before.isFile p with
    | true => exact ⟨p, List.mem_filter.mpr ⟨hp, hbefore⟩, hpglobal⟩
    | false =>
      rw [h.not_global_of_new hglobal (isFile_of_mem_collect hp) hbefore] at hpglobal
      cases hpglobal
  · rintro ⟨p, hp, hpglobal⟩
    exact ⟨p, List.mem_of_mem_filter hp, hpglobal⟩

/-- The files that count are those of before, but for the new one. -/
theorem discover_filter (h : Hushed before after place text) (home d : Path) :
    (discover after home d).filter before.isFile = discover before home d := by
  obtain ⟨hpaths, hended⟩ := h.collect_filter d.ancestors
  unfold discover
  simp only [hended]
  cases hglobal : before.isFile (globalPath home) with
  | true =>
    simp only [h.isFile_of_isFile hglobal, h.any_isGlobal d.ancestors hglobal]
    split_ifs
    · rw [List.filter_append, hpaths, List.filter_cons_of_pos hglobal, List.filter_nil]
    · exact hpaths
  | false =>
    -- a global file that is appended now is the new one
    simp only [Bool.and_false, Bool.false_and, Bool.false_eq_true, if_false]
    split_ifs
    · rw [List.filter_append, hpaths, List.filter_cons_of_neg (by simp [hglobal]), List.filter_nil,
        List.append_nil]
    · exact hpaths

theorem ofFiles_filter (h : Hushed before after place text) (home : Path) {paths : List Path}
    (hfiles : ∀ p ∈ paths, after.isFile p = true) :
    ofFiles after home paths = ofFiles before home (paths.filter before.isFile) := by
  induction paths with
  | nil => rfl
  | cons p paths ih =>
    obtain ⟨hp, hpaths⟩ := List.forall_mem_cons.mp hfiles
    rw [ofFiles_cons, ih hpaths]
    cases hbefore : before.isFile p with
    | true => rw [List.filter_cons_of_pos hbefore, ofFiles_cons, h.loadFile_old hbefore]
    | false =>
      rw [List.filter_cons_of_neg (by simp [hbefore]), h.loadFile_new hp hbefore]
      cases ofFiles before home (paths.filter before.isFile) <;> rfl

theorem load_eq (h : Hushed before after place text) (home d : Path) :
    load after home d = load before home d := by
  have hfiles : ∀ p ∈ discover after home d, after.isFile p = true :=
    fun p hp => (discover_listing after home d).isFile hp
  rw [load, load, h.ofFiles_filter home hfiles, h.discover_filter home d]

end Hushed

end MediaCatalogue.Config
