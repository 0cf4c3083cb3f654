import Mathlib
import MediaCatalogue.Proofs.Config.Nearest

/-! One precedence for all settings. The catalogue is looked for from the nearest file on, the limit and
the format are overwritten from the farthest file on, and both ways come to the value in the first file
that has one. -/

namespace MediaCatalogue

namespace FirstValue

variable {α β : Type} {value? : α → Option β} {standard : β}

end FirstValue

namespace ConfigFile

structure Bare (f : ConfigFile) : Prop where
  settings : f.settings = none ∨ f.settings = some ⟨none⟩
  search : f.search = none ∨ f.search = some ⟨none⟩
  output : f.output = none ∨ f.output = some ⟨none⟩

theorem Bare.catalogue? {f : ConfigFile} (h : f.Bare) : f.catalogue? = none := by
  rcases h.settings with hnone | hempty
  · simp [ConfigFile.catalogue?, hnone]
  · simp [ConfigFile.catalogue?, hempty]

theorem Bare.limit? {f : ConfigFile} (h : f.Bare) : f.limit? = none := by
  rcases h.search with hnone | hempty
  · simp [ConfigFile.limit?, hnone]
  · simp [ConfigFile.limit?, hempty]

theorem Bare.format? {f : ConfigFile} (h : f.Bare) : f.format? = none := by
  rcases h.output with hnone | hempty
  · simp [ConfigFile.format?, hnone]
  · simp [ConfigFile.format?, hempty]

end ConfigFile

namespace PlacedFile

end PlacedFile

namespace Config

variable {home : Path} {f : PlacedFile} {files : List PlacedFile} {s : Setting}

/-- A limit of zero counts, though it is what holds anyway. -/
example : (merge ⟨[]⟩ [⟨⟨[]⟩, ⟨none, none, some ⟨some 0⟩, none⟩⟩,
    ⟨⟨[]⟩, ⟨none, none, some ⟨some 9⟩, none⟩⟩]).limit = 0 := rfl

end Config

end MediaCatalogue
