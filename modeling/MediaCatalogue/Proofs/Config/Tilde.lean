import MediaCatalogue.Proofs.Files.Absolute
import MediaCatalogue.Config.Basic

/-! Where the catalogue of a setting lies. A path behind a tilde and a separator is joined to the home
directory and any other relative path to the directory of the file, so that it lies below, unless what is
joined starts with a separator itself: behind a tilde, this leaves the home directory. -/

namespace MediaCatalogue

def Path.Under (p directory : Path) : Prop := directory.components <+: p.components

instance (p directory : Path) : Decidable (p.Under directory) :=
  inferInstanceAs (Decidable (_ <+: _))

theorem Path.under_join (d : Path) {q : Path} (hq : q.isAbsolute = false) : (d.join q).Under d := by
  by_cases hd : d.chars = []
  · have hnil : d.components = [] := by
      obtain ⟨chars⟩ := d
      obtain rfl : chars = [] := hd
      rfl
    rw [Under, hnil]
    exact List.nil_prefix
  · rw [Under, components_join hd hq]
    exact List.prefix_append _ _

theorem Path.join_of_isAbsolute (d : Path) {q : Path} (hq : q.isAbsolute = true) : d.join q = q := by
  rw [join, if_pos hq]

namespace Config

variable {home : Path}

theorem toList_tilde (rest : String) : ("~/" ++ rest).toList = '~' :: '/' :: rest.toList := by
  rw [String.toList_append]
  rfl

/-- A path behind a tilde does not depend on the directory of the file. -/
theorem resolve_tilde (hhome : home.isAbsolute = true) (directory : Path) (rest : String) :
    resolve home directory ("~/" ++ rest) = home.join (.ofString rest) := by
  rw [resolve, toList_tilde]
  exact directory.join_of_isAbsolute (Path.isAbsolute_join hhome _)

theorem expandTilde_of_plain {text : String} (htilde : text ≠ "~") (hrest : ∀ rest, text ≠ "~/" ++ rest) :
    expandTilde home text.toList = .ofString text := by
  unfold expandTilde
  split
  · next heq => exact absurd (String.toList_inj.mp heq) htilde
  · next rest heq =>
    refine absurd ?_ (hrest (String.ofList rest))
    rw [← String.toList_inj, heq, toList_tilde, String.toList_ofList]
  · rfl

/-- Below an absolute home directory a path behind a tilde is joined to the home directory, whatever the
directory of the file. So it lies there, except where it starts with a separator: then it stands for
itself, and lies there only if it does so on its own. Every other path that is not absolute, and no tilde
alone, lies in the directory of the file. -/
theorem settings_lie_under (home : Path) (hhome : home.isAbsolute = true) :
    (∀ directory rest,
      resolve home directory ("~/" ++ rest) = home.join (.ofString rest) ∧
      ((Path.ofString rest).isAbsolute = true →
        resolve home directory ("~/" ++ rest) = .ofString rest) ∧
      ((resolve home directory ("~/" ++ rest)).Under home ↔
        ((Path.ofString rest).isAbsolute = true → (Path.ofString rest).Under home))) ∧
    ∀ directory text, (Path.ofString text).isAbsolute = false → text ≠ "~" →
      (∀ rest, text ≠ "~/" ++ rest) → (resolve home directory text).Under directory := by
  constructor
  · intro directory rest
    rw [resolve_tilde hhome]
    refine ⟨rfl, home.join_of_isAbsolute, ?_⟩
    cases hrest : (Path.ofString rest).isAbsolute with
    | true => simp [home.join_of_isAbsolute hrest]
    | false => simp [home.under_join hrest]
  · intro directory text htext htilde hrest
    rw [resolve, expandTilde_of_plain htilde hrest]
    exact directory.under_join htext

/-- With a second separator behind the tilde the home directory is lost. -/
theorem doubled_separator_leaves_home :
    (Path.ofString "/home/tester").isAbsolute = true ∧
      resolve (.ofString "/home/tester") (.ofString "/library") ("~/" ++ "/films/media.json") =
        .ofString "/films/media.json" ∧
      ¬ (resolve (.ofString "/home/tester") (.ofString "/library") ("~/" ++ "/films/media.json")).Under
        (.ofString "/home/tester") := by
  decide +kernel

/-- A path with a doubled separator further on stays in the home directory, one that starts with a tilde
as part of a name in the directory of the file. -/
theorem settings_lie_under_home :
    (Path.ofString "/home/tester").isAbsolute = true ∧
      (resolve (.ofString "/home/tester") (.ofString "/library") ("~/" ++ "films//media.json")).Under
        (.ofString "/home/tester") ∧
      (resolve (.ofString "/home/tester") (.ofString "/library") "~films/media.json").Under
        (.ofString "/library") := by
  have hhome : (Path.ofString "/home/tester").isAbsolute = true := by decide +kernel
  obtain ⟨htilde, hplain⟩ := settings_lie_under _ hhome
  have hrelative : (Path.ofString "films//media.json").isAbsolute = false := by decide +kernel
  refine ⟨hhome, (htilde _ _).2.2.mpr ?_, hplain _ _ (by decide +kernel) (by decide) ?_⟩
  · rw [hrelative]
    exact nofun
  · intro rest heq
    have hsecond := congrArg (·.toList[1]?) heq
    rw [toList_tilde] at hsecond
    exact absurd (show some 'f' = some '/' from hsecond) (by decide)

end Config

end MediaCatalogue
