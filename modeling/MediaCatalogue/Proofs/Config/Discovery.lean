import Mathlib
import MediaCatalogue.Config.Discovery
import MediaCatalogue.Proofs.Fallible
import MediaCatalogue.Proofs.Files.Ancestors

/-! Which configuration files count, and when they can be loaded. On the way up every file counts up to
the first root file; without one the global file counts as well. The nearest file that cannot be read or
understood is the one that is told of. -/

namespace MediaCatalogue.Config

variable {tree : FileTree} {home cwd path : Path}

/-! Single files -/

/-- The file at a path can be read and understood, and this is what it says. -/
def Holds (tree : FileTree) (path : Path) (file : ConfigFile) : Prop :=
  ∃ text, tree.read path = .ok text ∧ ConfigFile.parse text = some file

inductive Fails (tree : FileTree) (path : Path) : ConfigError → Prop where
  | unreadable {error : FileError} (read : tree.read path = .error error) :
      Fails tree path (.unreadable path error)
  | malformed {text : String} (read : tree.read path = .ok text)
      (parse : ConfigFile.parse text = none) : Fails tree path (.malformed path)

def IsRootFile (tree : FileTree) (path : Path) : Prop :=
  ∃ file, Holds tree path file ∧ file.root = some true

theorem loadFile_eq_ok {f : PlacedFile} :
    loadFile tree path = .ok f ↔ f.path = path ∧ Holds tree path f.file := by
  unfold loadFile Holds
  cases hread : tree.read path with
  | error e => simp
  | ok text =>
    cases hparse : ConfigFile.parse text with
    | none => simp [hparse]
    | some file =>
      obtain ⟨path', file'⟩ := f
      simp only [hparse, Except.ok.injEq, PlacedFile.mk.injEq, exists_eq_left', Option.some.injEq]
      exact and_congr_left' eq_comm

theorem loadFile_eq_error {e : ConfigError} : loadFile tree path = .error e ↔ Fails tree path e := by
  unfold loadFile
  constructor
  · intro h
    split at h
    · next error hread =>
      obtain rfl := Except.error.inj h
      exact .unreadable hread
    · next text hread =>
      split at h
      · next hparse =>
        obtain rfl := Except.error.inj h
        exact .malformed hread hparse
      · cases h
  · rintro (hread | ⟨hread, hparse⟩)
    · simp only [hread]
    · simp only [hread, hparse]

theorem isRootFile_iff : IsRootFile tree path ↔ ∃ f, loadFile tree path = .ok f ∧ f.file.isRoot := by
  constructor
  · rintro ⟨file, hheld, hroot⟩
    exact ⟨⟨path, file⟩, loadFile_eq_ok.mpr ⟨rfl, hheld⟩, by simp [ConfigFile.isRoot, hroot]⟩
  · rintro ⟨f, hload, hroot⟩
    exact ⟨f.file, (loadFile_eq_ok.mp hload).2, by simpa [ConfigFile.isRoot] using hroot⟩

theorem endsSearch_iff : endsSearch tree path = true ↔ IsRootFile tree path := by
  rw [isRootFile_iff, endsSearch]
  cases loadFile tree path <;> simp

theorem Fails.not_isRootFile {e : ConfigError} (h : Fails tree path e) : ¬ IsRootFile tree path := by
  rw [isRootFile_iff, loadFile_eq_error.mpr h]
  simp

/-! The files on the way up -/

def filesIn (tree : FileTree) (dirs : List Path) : List Path :=
  (dirs.map (·.join fileName)).filter fun p => tree.isFile p

theorem filesIn_append (tree : FileTree) (front rest : List Path) :
    filesIn tree (front ++ rest) = filesIn tree front ++ filesIn tree rest := by
  simp [filesIn]

theorem filesIn_cons (tree : FileTree) (d : Path) (dirs : List Path) :
    filesIn tree (d :: dirs) =
      if tree.isFile (d.join fileName) then d.join fileName :: filesIn tree dirs
      else filesIn tree dirs := by
  simp [filesIn, List.filter_cons]

theorem mem_filesIn {dirs : List Path} :
    path ∈ filesIn tree dirs ↔ ∃ d ∈ dirs, d.join fileName = path ∧ tree.isFile path = true := by
  simp only [filesIn, List.mem_filter, List.mem_map]
  constructor
  · rintro ⟨⟨d, hd, hpath⟩, hfile⟩
    exact ⟨d, hd, hpath, hfile⟩
  · rintro ⟨d, hd, hpath, hfile⟩
    exact ⟨⟨d, hd, hpath⟩, hfile⟩

theorem components_file (d : Path) :
    (d.join fileName).components = d.components ++ [.name fileName.chars] :=
  Path.components_join_name d (by decide +kernel) (by decide +kernel)

/-- No two files on the way up are the same. -/
theorem nodup_filesIn {dirs : List Path} (h : Path.Lineage cwd dirs) :
    ((filesIn tree dirs).map Path.components).Nodup := by
  have hdirs : (dirs.map fun d => (d.join fileName).components).Nodup := by
    rw [List.Nodup, List.pairwise_map]
    refine h.pairwise.imp fun hupper => ?_
    rw [components_file, components_file]
    exact fun heq => hupper.2 (List.append_cancel_right heq).symm
  rw [← Function.comp_def, ← List.map_map] at hdirs
  exact hdirs.sublist (List.filter_sublist.map _)

/-- Collecting ends behind the first root file, or takes all files. -/
theorem collect_cases (tree : FileTree) (dirs : List Path) :
    (∃ nearer root farther, filesIn tree dirs = nearer ++ root :: farther ∧
      (∀ q ∈ nearer, ¬ IsRootFile tree q) ∧ IsRootFile tree root ∧
      collect tree dirs = (nearer ++ [root], true)) ∨
    ((∀ q ∈ filesIn tree dirs, ¬ IsRootFile tree q) ∧
      collect tree dirs = (filesIn tree dirs, false)) := by
  induction dirs with
  | nil => exact .inr ⟨List.forall_mem_nil _, rfl⟩
  | cons d dirs ih =>
    rw [filesIn_cons, collect]
    by_cases hfile : tree.isFile (d.join fileName) = true
    · rw [if_pos hfile, if_pos hfile]
      by_cases hroot : IsRootFile tree (d.join fileName)
      · refine .inl ⟨[], _, _, rfl, List.forall_mem_nil _, hroot, ?_⟩
        rw [if_pos (endsSearch_iff.mpr hroot)]
        rfl
      · rw [if_neg (mt endsSearch_iff.mp hroot)]
        rcases ih with ⟨nearer, root, farther, hfiles, hplain, hends, hcollect⟩ | ⟨hplain, hcollect⟩
        · refine .inl ⟨d.join fileName :: nearer, root, farther, by rw [hfiles]; rfl, ?_, hends, ?_⟩
          · exact List.forall_mem_cons.mpr ⟨hroot, hplain⟩
          · rw [hcollect]
            rfl
        · refine .inr ⟨List.forall_mem_cons.mpr ⟨hroot, hplain⟩, ?_⟩
          rw [hcollect]
    · rw [if_neg hfile, if_neg hfile]
      exact ih

/-- The files that count, of those on the way up and the global one. -/
inductive Listing (tree : FileTree) (home : Path) : List Path → List Path → Prop where
  /-- Nothing behind the first root file counts. -/
  | rooted {nearer farther : List Path} {root : Path} (plain : ∀ q ∈ nearer, ¬ IsRootFile tree q)
      (ends : IsRootFile tree root) : Listing tree home (nearer ++ root :: farther) (nearer ++ [root])
  /-- There is no global file, or it is on the way. -/
  | complete {files : List Path} (plain : ∀ q ∈ files, ¬ IsRootFile tree q)
      (global : tree.isFile (globalPath home) = false ∨ ∃ q ∈ files, isGlobal home q = true) :
      Listing tree home files files
  /-- The global file is not on the way. -/
  | appended {files : List Path} (plain : ∀ q ∈ files, ¬ IsRootFile tree q)
      (there : tree.isFile (globalPath home) = true) (new : ∀ q ∈ files, isGlobal home q = false) :
      Listing tree home files (files ++ [globalPath home])

theorem discover_listing (tree : FileTree) (home cwd : Path) :
    Listing tree home (filesIn tree cwd.ancestors) (discover tree home cwd) := by
  unfold discover
  rcases collect_cases tree cwd.ancestors with
    ⟨nearer, root, farther, hfiles, hplain, hroot, hcollect⟩ | ⟨hplain, hcollect⟩
  · rw [hcollect, hfiles]
    exact .rooted hplain hroot
  · rw [hcollect]
    generalize filesIn tree cwd.ancestors = files at hplain
    simp only [Bool.not_false, Bool.true_and, Bool.and_eq_true, Bool.not_eq_true', List.any_eq_false]
    split_ifs with h
    · exact .appended hplain h.1 (fun q hq => Bool.eq_false_of_not_eq_true (h.2 q hq))
    · rw [not_and_or] at h
      refine .complete hplain (h.imp Bool.eq_false_of_not_eq_true fun h => ?_)
      push Not at h
      exact h

theorem isGlobal_iff : isGlobal home path = true ↔ path.components = (globalPath home).components := by
  simp [isGlobal, Path.same]

theorem Listing.nodup {files listed : List Path} (h : Listing tree home files listed)
    (hfiles : (files.map Path.components).Nodup) : (listed.map Path.components).Nodup := by
  cases h with
  | rooted plain ends =>
    refine hfiles.sublist (List.Sublist.map _ ?_)
    exact List.Sublist.append_left (List.singleton_sublist.mpr List.mem_cons_self) _
  | complete plain global => exact hfiles
  | appended plain there new =>
    rw [List.map_append, List.nodup_append]
    refine ⟨hfiles, List.nodup_singleton _, ?_⟩
    intro a ha b hb hab
    obtain ⟨q, hq, rfl⟩ := List.mem_map.mp ha
    obtain rfl := List.mem_singleton.mp hb
    have hglobal := isGlobal_iff.mpr hab
    rw [new q hq] at hglobal
    cases hglobal

theorem Listing.isFile {dirs listed : List Path} (h : Listing tree home (filesIn tree dirs) listed)
    (hpath : path ∈ listed) : tree.isFile path = true := by
  generalize hfiles : filesIn tree dirs = files at h
  have hall : ∀ q ∈ files, tree.isFile q = true := by
    intro q hq
    obtain ⟨_, _, _, hfile⟩ := mem_filesIn.mp (hfiles ▸ hq)
    exact hfile
  cases h with
  | rooted plain ends =>
    refine hall path (List.mem_append.mpr ((List.mem_append.mp hpath).imp_right fun hlast => ?_))
    exact List.mem_singleton.mp hlast ▸ List.mem_cons_self
  | complete plain global => exact hall path hpath
  | appended plain there new =>
    rcases List.mem_append.mp hpath with hnear | hlast
    · exact hall path hnear
    · exact List.mem_singleton.mp hlast ▸ there

/-- A root file that counts is the last one that does. -/
theorem Listing.root_last {files listed : List Path} (h : Listing tree home files listed)
    (hpath : path ∈ listed) (hroot : IsRootFile tree path) : listed.getLast? = some path := by
  cases h with
  | @rooted nearer _ root plain ends =>
    rcases List.mem_append.mp hpath with hnear | hlast
    · exact absurd hroot (plain path hnear)
    · exact List.mem_singleton.mp hlast ▸ List.getLast?_concat
  | complete plain global => exact absurd hroot (plain path hpath)
  | appended plain there new =>
    rcases List.mem_append.mp hpath with hnear | hlast
    · exact absurd hroot (plain path hnear)
    · exact List.mem_singleton.mp hlast ▸ List.getLast?_concat

/-! What is behind a root file -/

theorem Holds.isFile {file : ConfigFile} (h : Holds tree path file) : tree.isFile path = true := by
  obtain ⟨text, hread, -⟩ := h
  unfold FileTree.read at hread
  obtain ⟨⟨place, entry⟩, hlook, hentry⟩ := bind_eq_ok.mp hread
  unfold FileTree.isFile
  cases entry with
  | file text => rw [hlook]
  | binary => cases hentry
  | directory => cases hentry

theorem isFile_of_isRootFile (h : IsRootFile tree path) : tree.isFile path = true := by
  obtain ⟨file, hheld, -⟩ := h
  exact hheld.isFile

theorem endsSearch_congr {tree' : FileTree} (h : tree'.look path = tree.look path) :
    endsSearch tree' path = endsSearch tree path := by
  simp only [endsSearch, loadFile, FileTree.read, h]

theorem isFile_congr {tree' : FileTree} (h : tree'.look path = tree.look path) :
    tree'.isFile path = tree.isFile path := by
  simp only [FileTree.isFile, h]

/-- Collecting looks at nothing behind a root file. -/
theorem collect_congr {tree' : FileTree} {front : List Path} {d : Path}
    (hroot : IsRootFile tree (d.join fileName))
    (hsame : ∀ x ∈ front ++ [d], tree'.look (x.join fileName) = tree.look (x.join fileName))
    (above : List Path) :
    collect tree' (front ++ d :: above) = collect tree (front ++ d :: above) ∧
      (collect tree (front ++ d :: above)).2 = true := by
  induction front with
  | nil =>
    have hlook := hsame d (List.mem_singleton_self d)
    have hfile := isFile_of_isRootFile hroot
    have hends := endsSearch_iff.mpr hroot
    simp only [List.nil_append, collect, isFile_congr hlook, endsSearch_congr hlook, hfile, hends,
      if_true, and_self]
  | cons x front ih =>
    obtain ⟨ihsame, ihends⟩ := ih fun y hy => hsame y (List.mem_cons_of_mem _ hy)
    have hlook := hsame x List.mem_cons_self
    simp only [List.cons_append, collect, isFile_congr hlook, endsSearch_congr hlook, ihsame, true_and]
    split_ifs
    · rfl
    · exact ihends
    · exact ihends

theorem discover_of_ended (h : (collect tree cwd.ancestors).2 = true) :
    discover tree home cwd = (collect tree cwd.ancestors).1 := by
  unfold discover
  simp [h]

/-- Nothing above a root file counts, nor does the global file, whatever they are. -/
theorem discover_congr {tree' : FileTree} {home' : Path} {front above : List Path} {d : Path}
    (hdirs : cwd.ancestors = front ++ d :: above) (hroot : IsRootFile tree (d.join fileName))
    (hsame : ∀ x ∈ front ++ [d], tree'.look (x.join fileName) = tree.look (x.join fileName)) :
    discover tree' home' cwd = discover tree home cwd := by
  obtain ⟨hcollect, hends⟩ := collect_congr hroot hsame above
  rw [← hdirs] at hcollect hends
  rw [discover_of_ended hends, discover_of_ended (hcollect ▸ hends), hcollect]

/-! Loading -/

theorem holds_or_fails (tree : FileTree) (path : Path) :
    (∃ file, Holds tree path file) ∨ ∃ e, Fails tree path e := by
  cases h : loadFile tree path with
  | ok f => exact .inl ⟨f.file, (loadFile_eq_ok.mp h).2⟩
  | error e => exact .inr ⟨e, loadFile_eq_error.mp h⟩

theorem loadFiles_eq_ok {paths : List Path} {files : List PlacedFile} :
    loadFiles tree paths = .ok files ↔
      files.map (·.path) = paths ∧ ∀ f ∈ files, Holds tree f.path f.file := by
  induction paths generalizing files with
  | nil =>
    rw [loadFiles, Except.ok.injEq, List.map_eq_nil_iff]
    constructor
    · rintro rfl
      exact ⟨rfl, List.forall_mem_nil _⟩
    · exact fun h => h.1.symm
  | cons p paths ih =>
    simp only [loadFiles, bind_eq_ok, loadFile_eq_ok, ih, List.map_eq_cons_iff]
    constructor
    · rintro ⟨f, ⟨rfl, hf⟩, rest, ⟨hpaths, hrest⟩, h⟩
      obtain rfl := Except.ok.inj h
      exact ⟨⟨f, rest, rfl, rfl, hpaths⟩, List.forall_mem_cons.mpr ⟨hf, hrest⟩⟩
    · rintro ⟨⟨f, rest, rfl, rfl, hpaths⟩, hall⟩
      obtain ⟨hf, hrest⟩ := List.forall_mem_cons.mp hall
      exact ⟨f, ⟨rfl, hf⟩, rest, ⟨hpaths, hrest⟩, rfl⟩

theorem loadFiles_cons_eq_error {p : Path} {paths : List Path} {e : ConfigError} :
    loadFiles tree (p :: paths) = .error e ↔
      Fails tree p e ∨ (∃ file, Holds tree p file) ∧ loadFiles tree paths = .error e := by
  simp only [loadFiles, bind_eq_error, loadFile_eq_error, loadFile_eq_ok]
  refine or_congr_right ⟨?_, ?_⟩
  · rintro ⟨f, ⟨-, hheld⟩, hrest | ⟨_, _, h⟩⟩
    · exact ⟨⟨f.file, hheld⟩, hrest⟩
    · cases h
  · rintro ⟨⟨file, hheld⟩, hrest⟩
    exact ⟨⟨p, file⟩, ⟨rfl, hheld⟩, .inl hrest⟩

/-- The nearest file that fails is the one that is told of. -/
theorem loadFiles_eq_error {paths : List Path} {e : ConfigError} :
    loadFiles tree paths = .error e ↔
      ∃ nearer p farther, paths = nearer ++ p :: farther ∧
        (∀ q ∈ nearer, ∃ file, Holds tree q file) ∧ Fails tree p e := by
  induction paths with
  | nil =>
    constructor
    · intro h
      cases h
    · rintro ⟨nearer, p, farther, h, -⟩
      simp at h
  | cons p paths ih =>
    rw [loadFiles_cons_eq_error, ih]
    constructor
    · rintro (hfails | ⟨hp, nearer, q, farther, rfl, hheld, hfails⟩)
      · exact ⟨[], p, paths, rfl, List.forall_mem_nil _, hfails⟩
      · exact ⟨p :: nearer, q, farther, rfl, List.forall_mem_cons.mpr ⟨hp, hheld⟩, hfails⟩
    · rintro ⟨nearer, q, farther, heq, hheld, hfails⟩
      cases nearer with
      | nil =>
        obtain ⟨rfl, rfl⟩ := List.cons.inj heq
        exact .inl hfails
      | cons x nearer =>
        obtain ⟨rfl, rfl⟩ := List.cons.inj heq
        obtain ⟨hp, hheld⟩ := List.forall_mem_cons.mp hheld
        exact .inr ⟨hp, nearer, q, farther, rfl, hheld, hfails⟩

theorem load_eq (tree : FileTree) (home cwd : Path) :
    load tree home cwd = (loadFiles tree (discover tree home cwd)).map (merge home) := by
  unfold load ofFiles
  cases loadFiles tree (discover tree home cwd) <;> rfl

theorem load_eq_ok {c : Config} :
    load tree home cwd = .ok c ↔ ∃ files, (files.map (·.path) = discover tree home cwd ∧
      ∀ f ∈ files, Holds tree f.path f.file) ∧ merge home files = c := by
  simp only [load_eq, map_eq_ok, loadFiles_eq_ok]

theorem exists_loadFiles_error {paths : List Path} :
    (∃ e, loadFiles tree paths = .error e) ↔ ∃ p ∈ paths, ∃ e, Fails tree p e := by
  induction paths with
  | nil => simp [loadFiles]
  | cons p paths ih =>
    simp only [loadFiles_cons_eq_error, exists_or, exists_and_left, ih, List.exists_mem_cons_iff]
    rcases holds_or_fails tree p with hheld | hfails
    · simp [hheld]
    · simp [hfails]

/-- The files that count are those of the directory and of the ones above it up to the first root file,
and where there is no root file the global one, if it is not among them. No file counts twice, a root
file is the last and hides all others, and a file that fails is no root file. The configuration cannot
be loaded just if one of the files that count fails, and then the nearest of them is told of. -/
theorem discover_load_outcome (tree : FileTree) (home cwd : Path) :
    Path.Lineage cwd cwd.ancestors ∧
      Listing tree home (filesIn tree cwd.ancestors) (discover tree home cwd) ∧
      ((discover tree home cwd).map Path.components).Nodup ∧
      (∀ p ∈ discover tree home cwd, IsRootFile tree p →
        (discover tree home cwd).getLast? = some p) ∧
      (∀ front d above, cwd.ancestors = front ++ d :: above → IsRootFile tree (d.join fileName) →
        ∀ (tree' : FileTree) (home' : Path),
          (∀ x ∈ front ++ [d], tree'.look (x.join fileName) = tree.look (x.join fileName)) →
            discover tree' home' cwd = discover tree home cwd) ∧
      (∀ p e, Fails tree p e → ¬ IsRootFile tree p) ∧
      ((∃ e, load tree home cwd = .error e) ↔ ∃ p ∈ discover tree home cwd, ∃ e, Fails tree p e) ∧
      (∀ e, load tree home cwd = .error e ↔
        ∃ nearer p farther, discover tree home cwd = nearer ++ p :: farther ∧
          (∀ q ∈ nearer, ∃ file, Holds tree q file) ∧ Fails tree p e) := by
  have hlineage := cwd.lineage_ancestors
  have hlisting := discover_listing tree home cwd
  refine ⟨hlineage, hlisting, hlisting.nodup (nodup_filesIn hlineage),
    fun p hp hroot => hlisting.root_last hp hroot,
    fun front d above hdirs hroot tree' home' hsame => discover_congr hdirs hroot hsame,
    fun p e hfails => hfails.not_isRootFile, ?_, ?_⟩
  · simp only [load_eq, map_eq_error]
    exact exists_loadFiles_error
  · intro e
    rw [load_eq, map_eq_error]
    exact loadFiles_eq_error

end MediaCatalogue.Config
