import MediaCatalogue.Proofs.Files.Ancestors
import MediaCatalogue.Proofs.Files.Tree

/-! What writing a file changes. The place that its path leads to holds the text afterwards and all other
places hold what they held, so every path still leads where it led. Where there was nothing at the place
before, no file that could be looked at has changed. -/

namespace MediaCatalogue

/-- Where a component leads from a place. -/
def Path.Component.move (place : Place) : Path.Component → Place
  | .root | .here => place
  | .parent => place.dropLast
  | .name s => place ++ [s]

namespace FileTree

/-- A path leads to a place, whatever there is at it. -/
structure Leads (t : FileTree) (p : Path) (place : Place) : Prop where
  admissible : Admissible p
  walk : t.walk [] p.segments = .ok place

/-- A place holds a text, and every other place what it held before. -/
structure Rewritten (before after : FileTree) (place : Place) (text : String) : Prop where
  notDirectory : before.entry? place ≠ some .directory
  written : after.entry? place = some (.file text)
  others : ∀ q, q ≠ place → after.entry? q = before.entry? q

theorem rewritten_write {t written : FileTree} {p : Path} {text : String}
    (h : t.write p text = .ok written) :
    ∃ place, t.Leads p place ∧ Rewritten t written place text := by
  obtain ⟨hp, -, place, hwalk, hfile, rfl⟩ := write_eq_ok.mp h
  have hroot : place ≠ [] := by
    rintro rfl
    exact hfile t.entry?_root
  refine ⟨place, ⟨hp, hwalk⟩, hfile, ?_, ?_⟩
  · rw [entry?_put t place _ hroot, if_pos rfl]
  · intro q hq
    rw [entry?_put t q _ hroot, if_neg hq]

/-- A walk goes by the directories alone. -/
theorem walk_of_directories {t t' : FileTree}
    (hdirs : ∀ x, t.entry? x = some .directory → t'.entry? x = some .directory) {start q : Place}
    {ss : List (List Char)} (h : t.walk start ss = .ok q) : t'.walk start ss = .ok q := by
  induction ss generalizing start with
  | nil => exact h
  | cons s ss ih =>
    have hdir := walk_cons h
    rw [walk, hdir] at h
    rw [walk, hdirs start hdir]
    simp only at h ⊢
    split_ifs at h ⊢ <;> exact ih h

theorem walk_destination {t : FileTree} {start q : Place} {ss : List (List Char)}
    (h : t.walk start ss = .ok q) :
    q = (Path.bodyComponents ss).foldl Path.Component.move start := by
  induction ss generalizing start with
  | nil => exact (Except.ok.inj h).symm
  | cons s ss ih =>
    have hcons : Path.bodyComponents (s :: ss) =
        Path.bodyComponents [s] ++ Path.bodyComponents ss := Path.bodyComponents_append [s] ss
    rw [walk, walk_cons h] at h
    rw [hcons, List.foldl_append]
    simp only at h
    split_ifs at h with hskipped hparent hlong
    · simpa [Path.bodyComponents, Path.componentOf, hskipped] using ih h
    · simpa [Path.bodyComponents, Path.componentOf, hparent, Path.Component.move] using ih h
    · simpa [Path.bodyComponents, Path.componentOf, hskipped, hparent, Path.Component.move] using ih h

theorem Leads.destination {t : FileTree} {p : Path} {place : Place} (h : t.Leads p place) :
    place = p.components.foldl Path.Component.move [] := by
  have hwalk := h.walk
  rw [walk_split] at hwalk
  rw [walk_destination hwalk, Path.components_eq, List.foldl_append]
  cases p.split.1 <;> rfl

/-- Paths with the same components lead to the same place. -/
theorem Leads.same {t t' : FileTree} {p p' : Path} {place place' : Place} (h : t.Leads p place)
    (h' : t'.Leads p' place') (hsame : p.components = p'.components) : place = place' := by
  rw [h.destination, h'.destination, hsame]

theorem look_eq_ok_iff_leads {t : FileTree} {p : Path} {place : Place} {entry : Entry} :
    t.look p = .ok (place, entry) ↔ t.Leads p place ∧ t.entry? place = some entry := by
  rw [look_eq_ok]
  constructor
  · rintro ⟨hp, hwalk, hentry⟩
    exact ⟨⟨hp, hwalk⟩, hentry⟩
  · rintro ⟨⟨hp, hwalk⟩, hentry⟩
    exact ⟨hp, hwalk, hentry⟩

theorem isFile_iff {t : FileTree} {p : Path} :
    t.isFile p = true ↔ ∃ place entry, t.look p = .ok (place, entry) ∧ entry ≠ .directory := by
  unfold isFile
  constructor
  · intro h
    split at h
    · next place text hlook => exact ⟨place, _, hlook, nofun⟩
    · next place hlook => exact ⟨place, _, hlook, nofun⟩
    · cases h
  · rintro ⟨place, entry, hlook, hentry⟩
    rw [hlook]
    cases entry with
    | directory => exact absurd rfl hentry
    | file text => rfl
    | binary => rfl

namespace Rewritten

variable {before after : FileTree} {place : Place} {text : String}

theorem directories (h : Rewritten before after place text) (x : Place) :
    after.entry? x = some .directory ↔ before.entry? x = some .directory := by
  by_cases hx : x = place
  · subst hx
    rw [h.written]
    exact iff_of_false (by simp) h.notDirectory
  · rw [h.others x hx]

/-- Every path leads where it led before. -/
theorem leads_iff (h : Rewritten before after place text) {p : Path} {q : Place} :
    after.Leads p q ↔ before.Leads p q := by
  constructor
  · rintro ⟨hp, hwalk⟩
    exact ⟨hp, walk_of_directories (fun x => (h.directories x).mp) hwalk⟩
  · rintro ⟨hp, hwalk⟩
    exact ⟨hp, walk_of_directories (fun x => (h.directories x).mpr) hwalk⟩

/-- What could be looked at before a file came to be is still there. -/
theorem look_of_new (h : Rewritten before after place text) (hnew : before.entry? place = none)
    {p : Path} {q : Place} {entry : Entry} (hlook : before.look p = .ok (q, entry)) :
    after.look p = .ok (q, entry) := by
  obtain ⟨hleads, hentry⟩ := look_eq_ok_iff_leads.mp hlook
  have hq : q ≠ place := by
    rintro rfl
    rw [hnew] at hentry
    cases hentry
  exact look_eq_ok_iff_leads.mpr ⟨h.leads_iff.mpr hleads, (h.others q hq).trans hentry⟩

theorem isFile_of_new (h : Rewritten before after place text) (hnew : before.entry? place = none)
    {p : Path} (hfile : before.isFile p = true) : after.isFile p = true := by
  obtain ⟨q, entry, hlook, hentry⟩ := isFile_iff.mp hfile
  exact isFile_iff.mpr ⟨q, entry, h.look_of_new hnew hlook, hentry⟩

/-- A path to a file that was none before leads to the new file. -/
theorem look_new (h : Rewritten before after place text) {p : Path} (hafter : after.isFile p = true)
    (hbefore : before.isFile p = false) : after.look p = .ok (place, .file text) := by
  obtain ⟨q, entry, hlook, hentry⟩ := isFile_iff.mp hafter
  obtain ⟨hleads, hq⟩ := look_eq_ok_iff_leads.mp hlook
  by_cases hplace : q = place
  · subst hplace
    obtain rfl := Option.some.inj (hq.symm.trans h.written)
    exact hlook
  · rw [h.others q hplace] at hq
    have hlookBefore := look_eq_ok_iff_leads.mpr ⟨h.leads_iff.mp hleads, hq⟩
    rw [isFile_iff.mpr ⟨q, entry, hlookBefore, hentry⟩] at hbefore
    cases hbefore

end Rewritten

end FileTree

end MediaCatalogue
