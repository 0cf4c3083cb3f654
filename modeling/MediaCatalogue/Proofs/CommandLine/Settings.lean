import MediaCatalogue.Proofs.CommandLine.Effect
import MediaCatalogue.Proofs.Config.Saved

/-! The settings in effect, as a run loads and prints them. What is printed can stand in for the files
that the settings come from. -/

namespace MediaCatalogue.CommandLine

open Config (Anchored discover fileName)

theorem result_loadConfig {e : Environment} {c : Config} :
    (loadConfig e).result = .ok c ↔ Config.load e.tree e.home e.cwd = .ok c := by
  rw [Config.load_eq, loadConfig]
  cases Config.loadFiles e.tree (discover e.tree e.home e.cwd) <;> simp [Except.map]

theorem effect_run_config {e : Environment} {args : List String} {verbosity : Nat} {c : Config}
    (hargs : readArguments args = .ok ⟨verbosity, .config⟩) (hload : (loadConfig e).result = .ok c) :
    (run e args).effect = ⟨.success, [c.toToml], e.tree⟩ := by
  have hneeds : Request.config.needsConfig = true := rfl
  rw [effect_run hargs, fulfil, if_pos hneeds, Report.effect_andThen hload]
  rfl

/-- A file with the text of a configuration comes to this configuration, wherever the file is, if the
path of the catalogue is absolute. It is absolute whenever the working directory and the home directory
are. So a run prints the settings in effect as a file that can replace all those that they come from. -/
theorem printed_settings_restore :
    (∀ c : Config, Anchored c → ∀ (tree : FileTree) (path home : Path),
      tree.read path = .ok c.toToml → Config.ofFiles tree home [path] = .ok c) ∧
    (∀ (tree : FileTree) (home cwd : Path) (c : Config), home.isAbsolute = true →
      cwd.isAbsolute = true → Config.load tree home cwd = .ok c → Anchored c) ∧
    (∀ (e : Environment) (args : List String) (verbosity : Nat) (c : Config),
      readArguments args = .ok ⟨verbosity, .config⟩ → e.home.isAbsolute = true →
      e.cwd.isAbsolute = true → (loadConfig e).result = .ok c →
      (run e args).code = .success ∧ (run e args).outputText = c.toToml ∧
        ∀ (e' : Environment) (path : Path), discover e'.tree e'.home e'.cwd = [path] →
          e'.tree.read path = .ok (run e args).outputText → (loadConfig e').result = .ok c) := by
  have hrestore : ∀ c : Config, Anchored c → ∀ (tree : FileTree) (path home : Path),
      tree.read path = .ok c.toToml → Config.ofFiles tree home [path] = .ok c :=
    fun c hc tree path home hread => Config.ofFiles_toToml hc hread home
  have hanchored : ∀ (tree : FileTree) (home cwd : Path) (c : Config), home.isAbsolute = true →
      cwd.isAbsolute = true → Config.load tree home cwd = .ok c → Anchored c :=
    fun tree home cwd c hhome hcwd hload => Config.anchored_of_load hhome hcwd hload
  refine ⟨hrestore, hanchored, ?_⟩
  intro e args verbosity c hargs hhome hcwd hload
  obtain ⟨hcode, houtput, -⟩ := Effect.mk.inj (effect_run_config hargs hload)
  have htext : (run e args).outputText = c.toToml := by
    rw [Outcome.outputText, houtput, String.join_cons, String.join_nil, String.append_empty]
  refine ⟨hcode, htext, ?_⟩
  intro e' path hdiscover hread
  rw [htext] at hread
  rw [result_loadConfig, Config.load, hdiscover]
  exact hrestore c (hanchored _ _ _ c hhome hcwd (result_loadConfig.mp hload)) _ _ _ hread

def settingsAtRoot (text : String) : Environment :=
  { tree := ⟨[([fileName.chars], .file text)]⟩, cwd := ⟨['/']⟩, home := ⟨['/']⟩, logFilter := none }

theorem discover_root {tree : FileTree} (hfile : tree.isFile (.ofString "/.mcat.toml") = true) :
    discover tree ⟨['/']⟩ ⟨['/']⟩ = [.ofString "/.mcat.toml"] := by
  have hancestors : Path.ancestors ⟨['/']⟩ = [⟨['/']⟩] := by decide
  have hjoin : Path.join ⟨['/']⟩ fileName = .ofString "/.mcat.toml" := by decide
  have hglobal : Config.isGlobal ⟨['/']⟩ (.ofString "/.mcat.toml") = true := by decide
  rw [discover, hancestors, Config.collect, hjoin, if_pos hfile]
  cases Config.endsSearch tree (.ofString "/.mcat.toml") with
  | true => rfl
  | false => simp [Config.collect, hglobal]

/-- The path of this catalogue can only be written with escapes. -/
def awkwardSettings : Config :=
  { catalogue := some (.ofString "/~/it's \"a\\b\"\n''' \"\"\" \x07é"), limit := 18446744073709551615,
    format := .json }

/-- The settings of a catalogue with an awkward path are printed and read back as they are. -/
theorem awkward_settings_restored :
    (run (settingsAtRoot awkwardSettings.toToml) ["config"]).outputText = awkwardSettings.toToml ∧
      (loadConfig (settingsAtRoot
        (run (settingsAtRoot awkwardSettings.toToml) ["config"]).outputText)).result =
          .ok awkwardSettings := by
  obtain ⟨hrestore, -, hrun⟩ := printed_settings_restore
  have hload : (loadConfig (settingsAtRoot awkwardSettings.toToml)).result = .ok awkwardSettings := by
    have habsolute : Anchored awkwardSettings := by
      rintro p ⟨⟩
      rfl
    have hfiles := hrestore awkwardSettings habsolute (settingsAtRoot awkwardSettings.toToml).tree
      (.ofString "/.mcat.toml") ⟨['/']⟩ rfl
    have hdiscover : discover (settingsAtRoot awkwardSettings.toToml).tree ⟨['/']⟩ ⟨['/']⟩ =
        [.ofString "/.mcat.toml"] := discover_root rfl
    rw [← hdiscover] at hfiles
    exact result_loadConfig.mpr hfiles
  have hargs : readArguments ["config"] = .ok ⟨0, .config⟩ := by cbv
  obtain ⟨-, htext, hreplace⟩ := hrun _ _ _ _ hargs rfl rfl hload
  exact ⟨htext, hreplace _ _ (discover_root rfl) rfl⟩

end MediaCatalogue.CommandLine
