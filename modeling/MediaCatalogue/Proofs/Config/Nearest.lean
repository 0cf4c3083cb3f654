import Mathlib
import MediaCatalogue.Config.Basic

/-! Where the settings of merged files come from. Each one is that of the nearest file that defines it, as
if that file were the only one. -/

namespace MediaCatalogue

namespace Config

inductive Setting where
  | catalogue
  | limit
  | format

inductive Value where
  | catalogue (path : Option Path)
  | limit (most : UInt64)
  | format (f : OutputFormat)

def value (c : Config) : Setting → Value
  | .catalogue => .catalogue c.catalogue
  | .limit => .limit c.limit
  | .format => .format c.format

end Config

def PlacedFile.defines (f : PlacedFile) : Config.Setting → Bool
  | .catalogue => f.file.catalogue?.isSome
  | .limit => f.file.limit?.isSome
  | .format => f.file.format?.isSome

namespace Config

def nearest (files : List PlacedFile) (s : Setting) : Option PlacedFile := files.find? (·.defines s)

variable {home : Path} {f : PlacedFile} {files : List PlacedFile} {s : Setting}

theorem catalogue_merge_cons (home : Path) (f : PlacedFile) (files : List PlacedFile) :
    (merge home (f :: files)).catalogue =
      (f.file.catalogue?.map (resolve home f.directory)).or (merge home files).catalogue := by
  simp only [merge, catalogueOf, List.findSome?_cons]
  cases f.file.catalogue? <;> rfl

theorem limit_merge_cons (home : Path) (f : PlacedFile) (files : List PlacedFile) :
    (merge home (f :: files)).limit = f.file.limit?.getD (merge home files).limit := by
  simp only [merge, List.reverse_cons, List.foldl_append]
  rfl

theorem format_merge_cons (home : Path) (f : PlacedFile) (files : List PlacedFile) :
    (merge home (f :: files)).format = f.file.format?.getD (merge home files).format := by
  simp only [merge, List.reverse_cons, List.foldl_append]
  rfl

/-- What stands behind a file that defines a setting does not matter for it. -/
theorem value_merge_of_defines (h : f.defines s = true) :
    (merge home (f :: files)).value s = (merge home [f]).value s := by
  cases s with
  | catalogue =>
    obtain ⟨text, htext⟩ := Option.isSome_iff_exists.mp h
    simp [value, catalogue_merge_cons, htext]
  | limit =>
    obtain ⟨most, hmost⟩ := Option.isSome_iff_exists.mp h
    simp [value, limit_merge_cons, hmost]
  | format =>
    obtain ⟨format, hformat⟩ := Option.isSome_iff_exists.mp h
    simp [value, format_merge_cons, hformat]

/-- A file that does not define a setting does not matter for it. -/
theorem value_merge_of_not_defines (h : f.defines s = false) :
    (merge home (f :: files)).value s = (merge home files).value s := by
  cases s with
  | catalogue =>
    have hnone : f.file.catalogue? = none := by simpa [PlacedFile.defines] using h
    simp [value, catalogue_merge_cons, hnone]
  | limit =>
    have hnone : f.file.limit? = none := by simpa [PlacedFile.defines] using h
    simp [value, limit_merge_cons, hnone]
  | format =>
    have hnone : f.file.format? = none := by simpa [PlacedFile.defines] using h
    simp [value, format_merge_cons, hnone]

theorem value_merge (home : Path) (files : List PlacedFile) (s : Setting) :
    (merge home files).value s = (merge home (nearest files s).toList).value s := by
  induction files with
  | nil => rfl
  | cons f files ih =>
    rw [nearest, List.find?_cons]
    cases h : f.defines s with
    | true => exact value_merge_of_defines h
    | false => rw [value_merge_of_not_defines h, ih, nearest]

/-- A file is the nearest one with a setting just if it has it and no file before it has. -/
theorem nearest_eq_some {front back : List PlacedFile} (hfront : f ∉ front) (hback : f ∉ back) :
    nearest (front ++ f :: back) s = some f ↔
      f.defines s = true ∧ ∀ g ∈ front, g.defines s = false := by
  rw [nearest, List.find?_append, List.find?_cons]
  cases hfind : front.find? (·.defines s) with
  | some g =>
    have hg := List.mem_of_find?_eq_some hfind
    have hdefines := List.find?_some hfind
    constructor
    · intro h
      obtain rfl : g = f := Option.some.inj h
      exact absurd hg hfront
    · rintro ⟨-, hnone⟩
      rw [hnone g hg] at hdefines
      cases hdefines
  | none =>
    have hnone : ∀ g ∈ front, g.defines s = false := by simpa using hfind
    rw [Option.none_or]
    cases h : f.defines s with
    | true => exact ⟨fun _ => ⟨rfl, hnone⟩, fun _ => rfl⟩
    | false =>
      refine ⟨fun hrest => ?_, fun ⟨hf, _⟩ => by cases hf⟩
      exact absurd (List.mem_of_find?_eq_some hrest) hback

end Config

end MediaCatalogue
