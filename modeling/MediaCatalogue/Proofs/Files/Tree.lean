import MediaCatalogue.Files.Tree
import MediaCatalogue.Proofs.Fallible
import MediaCatalogue.Proofs.Files.Path

/-! Reading and writing files. What is written is read back by the same path, and where a file can stand
one can be written. -/

namespace MediaCatalogue.FileTree

structure Admissible (p : Path) : Prop where
  noNul : '\x00' ∉ p.chars
  named : p.chars ≠ []
  short : size p.chars ≤ maxPath

theorem checked_eq_ok {p : Path} {segments : List (List Char)} :
    checked p = .ok segments ↔ Admissible p ∧ segments = p.segments := by
  unfold checked
  constructor
  · intro h
    split_ifs at h with hnul hempty hlong
    refine ⟨⟨?_, hempty, Nat.le_of_not_lt hlong⟩, (Except.ok.inj h).symm⟩
    simpa using hnul
  · rintro ⟨⟨hnul, hempty, hshort⟩, rfl⟩
    rw [if_neg (by simpa using hnul), if_neg hempty, if_neg (Nat.not_lt.mpr hshort)]

/-- The front of a path that the system takes, unless it is empty. -/
theorem Admissible.of_isPrefix {p q : Path} (hp : Admissible p) (hq : q.chars ≠ [])
    (h : q.chars <+: p.chars) : Admissible q := by
  refine ⟨fun hnul => hp.noNul (h.mem hnul), hq, le_trans ?_ hp.short⟩
  obtain ⟨more, hmore⟩ := h
  have hsize : ∀ cs ds : List Char, size cs ≤ size (cs ++ ds) := by
    intro cs ds
    induction cs with
    | nil => exact Nat.zero_le _
    | cons c cs ih => exact Nat.add_le_add_left ih _
  exact hmore ▸ hsize q.chars more

/-! Entries -/

theorem entry?_root (t : FileTree) : t.entry? [] = some .directory := rfl

theorem entry?_put (t : FileTree) {place : Place} (q : Place) (e : Entry) (h : place ≠ []) :
    entry? (t.put place e) q = if q = place then some e else t.entry? q := by
  by_cases hq : q = []
  · rw [hq, if_neg (Ne.symm h)]
    rfl
  unfold entry? put
  simp only [if_neg hq]
  split_ifs with hany hqp hqp
  · -- the old entry of the place is the one that is found
    obtain ⟨old, hold⟩ := Option.isSome_iff_exists.mp (List.find?_isSome.mpr (List.any_eq_true.mp hany))
    have hplace : old.1 = place := by simpa using List.find?_some hold
    have hsame : ((fun x : Place × Entry => decide (x.1 = q)) ∘
        fun old => if old.1 = place then (place, e) else old) = fun x => decide (x.1 = place) := by
      funext x
      by_cases hx : x.1 = place <;> simp [hx, hqp]
    rw [List.find?_map, hsame, hold]
    simp [hplace]
  · have hsame : ((fun x : Place × Entry => decide (x.1 = q)) ∘
        fun old => if old.1 = place then (place, e) else old) = fun x => decide (x.1 = q) := by
      funext x
      by_cases hx : x.1 = place
      · simp [hx]
      · simp [hx]
    rw [List.find?_map, hsame]
    cases hfind : t.entries.find? fun x => decide (x.1 = q) with
    | none => rfl
    | some old =>
      have hold : old.1 = q := by simpa using List.find?_some hfind
      have hne : old.1 ≠ place := fun hplace => hqp (hold.symm.trans hplace)
      simp [hne]
  · have hnone : t.entries.find? (fun x => decide (x.1 = q)) = none := by
      rw [List.find?_eq_none]
      intro x hx hxq
      exact hany (List.any_eq_true.mpr ⟨x, hx, by simpa [hqp] using hxq⟩)
    rw [List.find?_append, hnone]
    simp [hqp]
  · rw [List.find?_append]
    simp [Ne.symm hqp]

/-! Walks -/

theorem walk_cons {t : FileTree} {place q : Place} {s : List Char} {ss : List (List Char)}
    (h : t.walk place (s :: ss) = .ok q) : t.entry? place = some .directory := by
  rw [walk] at h
  split at h
  · cases h
  · assumption
  · cases h

/-- A segment that stands for nothing stays in the directory. -/
theorem walk_skipped {t : FileTree} {place : Place} (hd : t.entry? place = some .directory)
    {s : List Char} (hs : s = [] ∨ s = ['.']) (ss : List (List Char)) :
    t.walk place (s :: ss) = t.walk place ss := by
  rw [walk, hd]
  simp only [if_pos hs]

theorem walk_append {t : FileTree} {place q : Place} {ss ss' : List (List Char)} :
    t.walk place (ss ++ ss') = .ok q ↔
      ∃ between, t.walk place ss = .ok between ∧ t.walk between ss' = .ok q := by
  induction ss generalizing place with
  | nil => simp [walk]
  | cons s ss ih =>
    rw [List.cons_append, walk, walk]
    split
    · simp
    · split_ifs <;> simp [ih]
    · simp

/-- A walk that goes on ends in a directory. -/
theorem walk_front {t : FileTree} {place q : Place} {front rest : List (List Char)}
    (h : t.walk place (front ++ rest) = .ok q) (hrest : rest ≠ []) :
    ∃ between, t.walk place front = .ok between ∧ t.entry? between = some .directory ∧
      t.walk between rest = .ok q := by
  obtain ⟨between, hfront, hgo⟩ := walk_append.mp h
  obtain ⟨s, ss, rfl⟩ := List.exists_cons_of_ne_nil hrest
  exact ⟨between, hfront, walk_cons hgo, hgo⟩

theorem walk_splitAtSlash_joinSegments (t : FileTree) {ss : List (List Char)} (hss : ∀ s ∈ ss, '/' ∉ s) :
    t.walk [] (Path.splitAtSlash (Path.joinSegments ss)) = t.walk [] ss := by
  by_cases hne : ss = []
  · subst hne
    exact walk_skipped t.entry?_root (.inl rfl) []
  · rw [Path.splitAtSlash_joinSegments hss hne]

/-- However a path starts, the walk along it is that along what stands behind the start. -/
theorem walk_unsplit (t : FileTree) (lead : Path.Lead) {ss : List (List Char)}
    (hss : ∀ s ∈ ss, '/' ∉ s) : t.walk [] (Path.unsplit lead ss).segments = t.walk [] ss := by
  have hwalk := t.walk_splitAtSlash_joinSegments hss
  cases lead with
  | absolute =>
    rw [← hwalk]
    exact walk_skipped t.entry?_root (.inl rfl) _
  | relative => exact hwalk
  | dot =>
    cases ss with
    | nil => exact walk_skipped t.entry?_root (.inr rfl) []
    | cons s ss =>
      rw [← hwalk]
      exact walk_skipped t.entry?_root (.inr rfl) _

theorem walk_split (t : FileTree) (p : Path) : t.walk [] p.segments = t.walk [] p.split.2 := by
  have hwalk := t.walk_unsplit p.split.1 (fun _ => Path.slash_notMem_of_mem_split (p := p))
  rwa [Path.unsplit_split] at hwalk

/-- The separators at the end of a path. -/
theorem named_append (segments : List (List Char)) :
    ∃ empties, (∀ s ∈ empties, s = []) ∧ segments = named segments ++ empties := by
  refine ⟨(segments.reverse.takeWhile (· = [])).reverse, ?_, ?_⟩
  · intro s hs
    simpa using List.mem_takeWhile_imp (List.mem_reverse.mp hs)
  · rw [named, ← List.reverse_append, List.takeWhile_append_dropWhile, List.reverse_reverse]

theorem walk_empties {t : FileTree} {place q : Place} {empties : List (List Char)}
    (hs : ∀ s ∈ empties, s = []) (h : t.walk place empties = .ok q) : place = q := by
  induction empties with
  | nil => exact Except.ok.inj h
  | cons s ss ih =>
    have hdir := walk_cons h
    rw [walk_skipped hdir (.inl (hs s List.mem_cons_self))] at h
    exact ih (fun x hx => hs x (List.mem_cons_of_mem _ hx)) h

/-- The walk that leaves out the separators at the end of a path. -/
theorem walk_named {t : FileTree} {place q : Place} {segments : List (List Char)}
    (h : t.walk place segments = .ok q) :
    t.walk place (named segments) = .ok q ∧
      (named segments ≠ segments → t.entry? q = some .directory) := by
  obtain ⟨empties, hempties, hsegments⟩ := named_append segments
  rw [hsegments] at h
  obtain ⟨between, hnamed, hgo⟩ := walk_append.mp h
  obtain rfl := walk_empties hempties hgo
  refine ⟨hnamed, fun hne => ?_⟩
  cases empties with
  | nil => exact absurd (hsegments.trans (List.append_nil _)).symm hne
  | cons s ss => exact walk_cons hgo

/-- A file that is put where no directory is does not stand in the way of a walk. -/
theorem walk_put {t : FileTree} {place start q : Place} {e : Entry}
    (hplace : t.entry? place ≠ some .directory) {ss : List (List Char)}
    (h : t.walk start ss = .ok q) : (t.put place e).walk start ss = .ok q := by
  have hroot : place ≠ [] := by
    rintro rfl
    exact hplace t.entry?_root
  induction ss generalizing start with
  | nil => exact h
  | cons s ss ih =>
    have hdir := walk_cons h
    have hstart : start ≠ place := by
      rintro rfl
      exact hplace hdir
    rw [walk, hdir] at h
    rw [walk, entry?_put t start e hroot, if_neg hstart, hdir]
    simp only at h ⊢
    split_ifs at h ⊢ <;> exact ih h

/-! Files -/

theorem look_eq_ok {t : FileTree} {p : Path} {place : Place} {e : Entry} :
    t.look p = .ok (place, e) ↔
      Admissible p ∧ t.walk [] p.segments = .ok place ∧ t.entry? place = some e := by
  unfold look
  simp only [bind_eq_ok, checked_eq_ok]
  constructor
  · rintro ⟨_, ⟨hp, rfl⟩, q, hwalk, h⟩
    split at h
    · cases h
    · next found hfound =>
      obtain ⟨rfl, rfl⟩ := Prod.mk.inj (Except.ok.inj h)
      exact ⟨hp, hwalk, hfound⟩
  · rintro ⟨hp, hwalk, he⟩
    refine ⟨_, ⟨hp, rfl⟩, place, hwalk, ?_⟩
    rw [he]
    rfl

theorem read_eq_ok {t : FileTree} {p : Path} {text : String} :
    t.read p = .ok text ↔
      Admissible p ∧ ∃ place, t.walk [] p.segments = .ok place ∧
        t.entry? place = some (.file text) := by
  have hlook : t.read p = .ok text ↔ ∃ place, t.look p = .ok (place, .file text) := by
    unfold read
    rw [bind_eq_ok]
    constructor
    · rintro ⟨⟨place, e⟩, hlook, h⟩
      cases e with
      | file found =>
        obtain rfl := Except.ok.inj h
        exact ⟨place, hlook⟩
      | binary => cases h
      | directory => cases h
    · rintro ⟨place, hlook⟩
      exact ⟨_, hlook, rfl⟩
  simp only [hlook, look_eq_ok, exists_and_left]

theorem write_eq_ok {t written : FileTree} {p : Path} {text : String} :
    t.write p text = .ok written ↔
      Admissible p ∧ named p.segments = p.segments ∧ ∃ place, t.walk [] p.segments = .ok place ∧
        t.entry? place ≠ some .directory ∧ written = t.put place (.file text) := by
  unfold write
  rw [bind_eq_ok]
  simp only [bind_eq_ok, checked_eq_ok]
  constructor
  · rintro ⟨_, ⟨hp, rfl⟩, place, hwalk, h⟩
    split_ifs at h with hbad
    rw [not_or, not_not] at hbad
    exact ⟨hp, hbad.1, place, hbad.1 ▸ hwalk, hbad.2, (Except.ok.inj h).symm⟩
  · rintro ⟨hp, hnamed, place, hwalk, hfile, rfl⟩
    refine ⟨_, ⟨hp, rfl⟩, place, hnamed.symm ▸ hwalk, ?_⟩
    rw [if_neg (not_or.mpr ⟨not_not.mpr hnamed, hfile⟩)]
    rfl

/-- What is written is read back by the same path. -/
theorem read_write {t written : FileTree} {p : Path} {text : String}
    (h : t.write p text = .ok written) : written.read p = .ok text := by
  obtain ⟨hp, -, place, hwalk, hfile, rfl⟩ := write_eq_ok.mp h
  have hroot : place ≠ [] := by
    rintro rfl
    exact hfile t.entry?_root
  refine read_eq_ok.mpr ⟨hp, place, walk_put hfile hwalk, ?_⟩
  rw [entry?_put t place _ hroot, if_pos rfl]

/-- A file can stand at a path: the way to it is there, and no directory is in its place. -/
structure Hosts (t : FileTree) (p : Path) : Prop where
  admissible : Admissible p
  named : named p.segments = p.segments
  place : ∃ place, t.walk [] p.segments = .ok place ∧ t.entry? place ≠ some .directory

theorem hosts_of_read {t : FileTree} {p : Path} {text : String} (h : t.read p = .ok text) :
    t.Hosts p := by
  obtain ⟨hp, place, hwalk, hfile⟩ := read_eq_ok.mp h
  have hnotDirectory : t.entry? place ≠ some .directory := by
    rw [hfile]
    simp
  refine ⟨hp, ?_, place, hwalk, hnotDirectory⟩
  by_contra hne
  exact hnotDirectory ((walk_named hwalk).2 hne)

theorem Hosts.exists_write {t : FileTree} {p : Path} (h : t.Hosts p) (text : String) :
    ∃ written, t.write p text = .ok written := by
  obtain ⟨place, hwalk, hfile⟩ := h.place
  exact ⟨_, write_eq_ok.mpr ⟨h.admissible, h.named, place, hwalk, hfile, rfl⟩⟩

/-- To make a directory that is there leaves the files as they are. -/
theorem makeDirectories_ancestors {t : FileTree} {p : Path} {place : Place} (hp : Admissible p)
    (hwalk : t.walk [] p.segments = .ok place) (hdir : t.entry? place = some .directory) :
    t.makeDirectories p.ancestors = .ok t := by
  have hmake : t.makeDirectory p = .error .alreadyExists := by
    simp only [makeDirectory, checked_eq_ok.mpr ⟨hp, rfl⟩, bind, Except.bind, (walk_named hwalk).1,
      hdir]
  have his : t.isDirectory p = true := by
    rw [isDirectory, look_eq_ok.mpr ⟨hp, hwalk, hdir⟩]
  rw [Path.ancestors, Path.ancestorsWithin, makeDirectories, if_neg hp.named, hmake]
  simp only [his, if_true]

/-- The directory of a file that can stand at a path is there. -/
theorem Hosts.makeDirectories_parent {t : FileTree} {p parent : Path} (h : t.Hosts p)
    (hparent : p.parent? = some parent) : t.makeDirectories parent.ancestors = .ok t := by
  obtain ⟨place, hwalk, -⟩ := h.place
  by_cases hempty : parent.chars = []
  · rw [Path.ancestors, Path.ancestorsWithin, makeDirectories, if_pos hempty]
  obtain ⟨-, -, rfl⟩ | ⟨front, skipped, s, behind, hsplit, -, -, rfl⟩ := Path.parent_eq_some hparent
  · exact absurd rfl hempty
  rw [walk_split, hsplit] at hwalk
  obtain ⟨between, hfront, hdir, -⟩ := walk_front hwalk (by simp)
  have hprefix : (Path.unsplit p.split.1 front).chars <+: p.chars := by
    have := Path.chars_unsplit_isPrefix p.split.1 front (skipped ++ s :: behind)
    rwa [← hsplit, Path.unsplit_split] at this
  refine makeDirectories_ancestors (h.admissible.of_isPrefix hempty hprefix) ?_ hdir
  rw [walk_unsplit, hfront]
  intro x hx
  exact Path.slash_notMem_of_mem_split (hsplit ▸ List.mem_append_left _ hx)

end MediaCatalogue.FileTree
