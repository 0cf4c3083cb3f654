import Mathlib
import MediaCatalogue.Proofs.Config.Discovery
import MediaCatalogue.Proofs.Config.Nearest

/-! Where the global file stands among the files that count. It is the last one, unless the working
directory lies in the home directory and there are further files above: those stand behind it, and what
it sets is taken before what they set. -/

namespace MediaCatalogue.Config

variable {tree : FileTree} {home cwd path : Path}

/-- The directory of `upper` is one of `dirs` and above that of `lower`, also one of them. -/
def Farther (dirs : List Path) (lower upper : Path) : Prop :=
  ∃ x ∈ dirs, ∃ y ∈ dirs, Path.Above y x ∧ lower = x.join fileName ∧ upper = y.join fileName

theorem pairwise_filesIn {dirs : List Path} (h : Path.Lineage cwd dirs) :
    (filesIn tree dirs).Pairwise (Farther dirs) := by
  refine List.Pairwise.sublist List.filter_sublist (List.pairwise_map.mpr ?_)
  exact h.pairwise.imp_of_mem fun hx hy hupper => ⟨_, hx, _, hy, hupper, rfl, rfl⟩

theorem Listing.pairwise {dirs files listed : List Path} (h : Listing tree home files listed)
    (hfiles : files.Pairwise (Farther dirs)) :
    listed.Pairwise fun lower upper => Farther dirs lower upper ∨ upper = globalPath home := by
  have hweak := hfiles.imp fun {lower upper} hfar =>
    (Or.inl hfar : Farther dirs lower upper ∨ upper = globalPath home)
  cases h with
  | rooted plain ends =>
    refine hweak.sublist (List.Sublist.append_left ?_ _)
    exact List.singleton_sublist.mpr List.mem_cons_self
  | complete plain global => exact hweak
  | appended plain there new =>
    refine List.pairwise_append.mpr ⟨hweak, List.pairwise_singleton _ _, ?_⟩
    intro _ _ upper hupper
    exact .inr (List.mem_singleton.mp hupper)

variable {nearer farther : List Path}

/-- The global file counts once. -/
theorem not_global_of_split (hsplit : discover tree home cwd = nearer ++ path :: farther)
    (hglobal : isGlobal home path = true) : ∀ q ∈ nearer ++ farther, isGlobal home q = false := by
  have hnodup := (discover_listing tree home cwd).nodup (nodup_filesIn cwd.lineage_ancestors)
  rw [hsplit, (List.perm_middle.map _).nodup_iff, List.map_cons, List.nodup_cons] at hnodup
  intro q hq
  rw [← Bool.not_eq_true]
  intro h
  rw [isGlobal_iff, ← isGlobal_iff.mp hglobal] at h
  exact hnodup.1 (h ▸ List.mem_map_of_mem hq)

/-- What counts behind the global file is in directories above the home directory. -/
theorem farther_of_split (hsplit : discover tree home cwd = nearer ++ path :: farther)
    (hglobal : isGlobal home path = true) : ∀ q ∈ farther, Farther cwd.ancestors path q := by
  have hpairwise := (discover_listing tree home cwd).pairwise (pairwise_filesIn cwd.lineage_ancestors)
  rw [hsplit, List.pairwise_append, List.pairwise_cons] at hpairwise
  intro q hq
  refine (hpairwise.2.1.1 q hq).resolve_right fun h => ?_
  have hnot := not_global_of_split hsplit hglobal q (List.mem_append_right _ hq)
  rw [isGlobal_iff.mpr (congrArg Path.components h)] at hnot
  cases hnot

theorem components_home {h : Path} (hglobal : isGlobal home (h.join fileName) = true) :
    h.components = home.components := by
  rw [isGlobal_iff, globalPath, components_file, components_file] at hglobal
  exact List.append_cancel_right hglobal

/-- What the last file that counts is. -/
theorem Listing.last_cases {files listed : List Path} (h : Listing tree home files listed)
    (hlast : listed = nearer ++ [path]) :
    IsRootFile tree path ∨ files = listed ∨ ∀ q ∈ files, isGlobal home q = false := by
  cases h with
  | rooted plain ends =>
    obtain rfl := List.singleton_injective (List.append_inj_right' hlast rfl)
    exact .inl ends
  | complete plain global => exact .inr (.inl rfl)
  | appended plain there new => exact .inr (.inr new)

theorem mem_discover_of_split (hsplit : discover tree home cwd = nearer ++ path :: farther) :
    path ∈ discover tree home cwd :=
  hsplit ▸ List.mem_append_right _ List.mem_cons_self

/-- Where the global file is on the way up and the last one, there is no file above it, unless it is a
root file. -/
theorem filesIn_above_of_last (hsplit : discover tree home cwd = nearer ++ [path])
    (hglobal : isGlobal home path = true) (hroot : ¬ IsRootFile tree path) {below above : List Path}
    {h : Path} (hdirs : cwd.ancestors = below ++ h :: above) (hpath : h.join fileName = path) :
    filesIn tree above = [] := by
  have hlineage := cwd.lineage_ancestors
  have hlisting := discover_listing tree home cwd
  rw [hdirs] at hlineage hlisting
  rcases (hlisting.last_cases hsplit).resolve_left hroot with hall | hnew
  · by_contra hne
    -- the last file on the way would be that of `h` and also in a directory above it
    have hlast := congrArg List.getLast? hall
    rw [List.append_cons, filesIn_append, hsplit, List.getLast?_append_of_ne_nil _ hne,
      List.getLast?_concat] at hlast
    obtain ⟨d, hd, hsame, -⟩ := mem_filesIn.mp (List.mem_of_getLast? hlast)
    have habove := (hlineage.mem_above_iff (by simp [hd])).mp hd
    have hcomponents := congrArg Path.components (hsame.trans hpath.symm)
    rw [components_file, components_file] at hcomponents
    exact absurd (List.append_cancel_right hcomponents) habove.2
  · have hlisted : path ∈ filesIn tree (below ++ h :: above) :=
      mem_filesIn.mpr ⟨h, by simp, hpath, hlisting.isFile (mem_discover_of_split hsplit)⟩
    rw [hnew path hlisted] at hglobal
    cases hglobal

theorem farther_eq_nil_of_isRootFile (hsplit : discover tree home cwd = nearer ++ path :: farther)
    (hglobal : isGlobal home path = true) (hroot : IsRootFile tree path) : farther = [] := by
  by_contra hne
  have hlast := (discover_listing tree home cwd).root_last (mem_discover_of_split hsplit) hroot
  rw [hsplit, List.append_cons, List.getLast?_append_of_ne_nil _ hne] at hlast
  have hnot := not_global_of_split hsplit hglobal path
    (List.mem_append_right _ (List.mem_of_getLast? hlast))
  rw [hglobal] at hnot
  cases hnot

theorem farther_eq_nil_of_filesIn_above (hsplit : discover tree home cwd = nearer ++ path :: farther)
    (hglobal : isGlobal home path = true)
    (hnone : ∀ below h above, cwd.ancestors = below ++ h :: above → h.join fileName = path →
      filesIn tree above = []) : farther = [] := by
  by_contra hne
  obtain ⟨q, hq⟩ := List.exists_mem_of_ne_nil _ hne
  obtain ⟨x, hx, y, hy, habove, hpath, rfl⟩ := farther_of_split hsplit hglobal q hq
  obtain ⟨below, above, hdirs⟩ := List.append_of_mem hx
  have hfile := (discover_listing tree home cwd).isFile
    (hsplit ▸ List.mem_append_right _ (List.mem_cons_of_mem _ hq))
  have hlineage := cwd.lineage_ancestors
  rw [hdirs] at hlineage hy
  have hlisted : y.join fileName ∈ filesIn tree above :=
    mem_filesIn.mpr ⟨y, (hlineage.mem_above_iff hy).mpr habove, rfl, hfile⟩
  rw [hnone below x above hdirs hpath.symm] at hlisted
  cases hlisted

/-- A global file that counts is the last one just if it is a root file or no directory above the home
directory has a file. -/
theorem farther_eq_nil_iff (hsplit : discover tree home cwd = nearer ++ path :: farther)
    (hglobal : isGlobal home path = true) :
    farther = [] ↔ IsRootFile tree path ∨ ∀ below h above, cwd.ancestors = below ++ h :: above →
      h.join fileName = path → filesIn tree above = [] := by
  constructor
  · rintro rfl
    by_cases hroot : IsRootFile tree path
    · exact .inl hroot
    · exact .inr fun _ _ _ hdirs hpath => filesIn_above_of_last hsplit hglobal hroot hdirs hpath
  · rintro (hroot | hnone)
    · exact farther_eq_nil_of_isRootFile hsplit hglobal hroot
    · exact farther_eq_nil_of_filesIn_above hsplit hglobal hnone

/-- A setting is taken from the global file just if that defines it and no nearer file does. -/
theorem nearest_eq_global (hsplit : discover tree home cwd = nearer ++ path :: farther)
    (hglobal : isGlobal home path = true) {front back : List PlacedFile} {g : PlacedFile}
    (hfront : front.map (·.path) = nearer) (hg : g.path = path) (hback : back.map (·.path) = farther)
    (s : Setting) :
    nearest (front ++ g :: back) s = some g ↔
      g.defines s = true ∧ ∀ f ∈ front, f.defines s = false := by
  have hpath : g.path ∉ nearer ++ farther := by
    intro hmem
    have hnot := not_global_of_split hsplit hglobal _ hmem
    rw [hg, hglobal] at hnot
    cases hnot
  refine nearest_eq_some ?_ ?_
  · intro hmem
    exact hpath (List.mem_append_left _ (hfront ▸ List.mem_map_of_mem hmem))
  · intro hmem
    exact hpath (List.mem_append_right _ (hback ▸ List.mem_map_of_mem hmem))

/-- The global file counts once, and behind it only files of directories above the home directory that
are on the way up. It is the last one just if it is a root file or there are no such files. Every setting
is that of the nearest file that defines it; so it is taken from the global file just if that defines it
and no nearer file does, even where one of the files behind it defines it too. -/
theorem global_precedence (hmem : path ∈ discover tree home cwd) (hglobal : isGlobal home path = true) :
    ∃ nearer farther, discover tree home cwd = nearer ++ path :: farther ∧
      (∀ q ∈ nearer ++ farther, isGlobal home q = false) ∧
      (∀ q ∈ farther, ∃ d ∈ cwd.ancestors, Path.Above d home ∧ d.join fileName = q) ∧
      (farther = [] ↔ IsRootFile tree path ∨ ∀ below h above, cwd.ancestors = below ++ h :: above →
        h.join fileName = path → filesIn tree above = []) ∧
      ∀ c, load tree home cwd = .ok c → ∃ front g back,
        (front.map (·.path) = nearer ∧ g.path = path ∧ back.map (·.path) = farther) ∧
        (∀ f ∈ front ++ g :: back, Holds tree f.path f.file) ∧
        ∀ s, c.value s = (merge home (nearest (front ++ g :: back) s).toList).value s ∧
          (nearest (front ++ g :: back) s = some g ↔
            g.defines s = true ∧ ∀ f ∈ front, f.defines s = false) := by
  obtain ⟨nearer, farther, hsplit⟩ := List.append_of_mem hmem
  refine ⟨nearer, farther, hsplit, not_global_of_split hsplit hglobal, ?_,
    farther_eq_nil_iff hsplit hglobal, ?_⟩
  · intro q hq
    obtain ⟨x, -, y, hy, habove, rfl, rfl⟩ := farther_of_split hsplit hglobal q hq
    have hhome := components_home hglobal
    exact ⟨y, hy, ⟨hhome ▸ habove.1, hhome ▸ habove.2⟩, rfl⟩
  · intro c hc
    obtain ⟨files, ⟨hpaths, hholds⟩, rfl⟩ := load_eq_ok.mp hc
    rw [hsplit, List.map_eq_append_iff] at hpaths
    obtain ⟨front, rest, rfl, hfront, hrest⟩ := hpaths
    obtain ⟨g, back, rfl, hg, hback⟩ := List.map_eq_cons_iff.mp hrest
    exact ⟨front, g, back, ⟨hfront, hg, hback⟩, hholds, fun s => ⟨value_merge home _ s,
      nearest_eq_global hsplit hglobal hfront hg hback s⟩⟩

/-- A home directory with a configuration file, in a directory with another one. Both set the limit. -/
def twoLimits : FileTree where
  entries := [(["lib".toList], .directory),
    (["lib".toList, fileName.chars], .file "[search]\nlimit = 3\n"),
    (["lib".toList, "home".toList], .directory),
    (["lib".toList, "home".toList, fileName.chars], .file "[search]\nlimit = 7\n"),
    (["lib".toList, "home".toList, "films".toList], .directory)]

/-- Below a home directory the file of a directory above it is the last one, and loses its limit to the
global file. -/
theorem global_not_last :
    discover twoLimits (.ofString "/lib/home") (.ofString "/lib/home/films") =
        [.ofString "/lib/home/.mcat.toml", .ofString "/lib/.mcat.toml"] ∧
      isGlobal (.ofString "/lib/home") (.ofString "/lib/home/.mcat.toml") = true ∧
      isGlobal (.ofString "/lib/home") (.ofString "/lib/.mcat.toml") = false ∧
      loadFile twoLimits (.ofString "/lib/.mcat.toml") =
        .ok ⟨.ofString "/lib/.mcat.toml", ⟨none, none, some ⟨some 3⟩, none⟩⟩ ∧
      load twoLimits (.ofString "/lib/home") (.ofString "/lib/home/films") =
        .ok { standard with limit := 7 } := by
  decide +kernel

/-- In the home directory nothing is nearer than the global file, and the other file is behind it. -/
theorem global_precedence_in_home :
    Path.ofString "/lib/home/.mcat.toml" ∈
        discover twoLimits (.ofString "/lib/home") (.ofString "/lib/home") ∧
      isGlobal (.ofString "/lib/home") (.ofString "/lib/home/.mcat.toml") = true ∧
      ∃ nearer farther, discover twoLimits (.ofString "/lib/home") (.ofString "/lib/home") =
          nearer ++ .ofString "/lib/home/.mcat.toml" :: farther ∧
        (∀ q ∈ farther, ∃ d ∈ (Path.ofString "/lib/home").ancestors,
          Path.Above d (.ofString "/lib/home") ∧ d.join fileName = q) ∧
        farther ≠ [] := by
  have hlist : discover twoLimits (.ofString "/lib/home") (.ofString "/lib/home") =
      [.ofString "/lib/home/.mcat.toml", .ofString "/lib/.mcat.toml"] := by decide +kernel
  have hmem : Path.ofString "/lib/home/.mcat.toml" ∈
      discover twoLimits (.ofString "/lib/home") (.ofString "/lib/home") := by
    rw [hlist]
    exact List.mem_cons_self
  have hglobal : isGlobal (.ofString "/lib/home") (.ofString "/lib/home/.mcat.toml") = true := by
    decide +kernel
  obtain ⟨nearer, farther, hsplit, -, habove, -, -⟩ := global_precedence hmem hglobal
  refine ⟨hmem, hglobal, nearer, farther, hsplit, habove, ?_⟩
  rintro rfl
  rw [hlist] at hsplit
  have hlast := congrArg List.getLast? hsplit
  rw [List.getLast?_concat] at hlast
  exact absurd hlast (by decide +kernel)

end MediaCatalogue.Config
