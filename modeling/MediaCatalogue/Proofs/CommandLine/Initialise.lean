import MediaCatalogue.Proofs.CommandLine.Changes
import MediaCatalogue.Proofs.Config.Silent

/-! Initialising where there was no configuration file. The file that is written consists of comments, so
whatever the files are and wherever one is, the configuration stays what it was. -/

namespace MediaCatalogue.CommandLine

open Config (IsRootFile Holds)
open FileTree (Rewritten)

variable {e : Environment} {isGlobal force : Bool}

/-- Nothing is at a place that a file is written to if there was no file. -/
theorem entry?_of_not_isFile {t after : FileTree} {p : Path} {place : Place} {text : String}
    (hleads : t.Leads p place) (hwritten : Rewritten t after place text) (h : t.isFile p = false) :
    t.entry? place = none := by
  cases hentry : t.entry? place with
  | none => rfl
  | some entry =>
    have hlook := FileTree.look_eq_ok_iff_leads.mpr ⟨hleads, hentry⟩
    have hdirectory : entry ≠ .directory := by
      rintro rfl
      exact hwritten.notDirectory hentry
    rw [FileTree.isFile_iff.mpr ⟨place, entry, hlook, hdirectory⟩] at h
    cases h

/-- What an initialisation does to a place at which there was nothing. -/
theorem exists_hushed {after : FileTree} (h : Leaves e (.init isGlobal force) after)
    (hnew : e.tree.isFile (initPath e isGlobal) = false) :
    ∃ place, e.tree.Leads (initPath e isGlobal) place ∧
      Config.Hushed e.tree after place (Config.Template.text (initsGlobal e isGlobal)) := by
  cases h with
  | read reads => cases reads
  | configuration leads new rewritten =>
    exact ⟨_, leads, rewritten, entry?_of_not_isFile leads rewritten hnew, Config.Template.parse_text _⟩

/-- An initialisation that succeeds where there was no file changes no configuration: in every directory
the settings are what they were, or the same error is told of the same file. The file that it writes
consists of comments; it sets nothing and is no root file. -/
theorem init_keeps_configurations {args : List String} {verbosity : Nat}
    (hargs : readArguments args = .ok ⟨verbosity, .init isGlobal force⟩)
    (hnew : e.tree.isFile (initPath e isGlobal) = false) (hdone : (run e args).code.number = 0) :
    (∀ home directory : Path,
      Config.load (run e args).tree home directory = Config.load e.tree home directory) ∧
    (∃ lines : List String, (run e args).tree.read (initPath e isGlobal) =
        .ok (String.join (lines.map (· ++ "\n"))) ∧ ∀ l ∈ lines, Toml.Comment l.toList) ∧
    Holds (run e args).tree (initPath e isGlobal) .silent ∧
    ¬ IsRootFile (run e args).tree (initPath e isGlobal) := by
  obtain ⟨place, hleads, hhushed⟩ := exists_hushed (leaves_run hargs hdone) hnew
  have hlook := FileTree.look_eq_ok_iff_leads.mpr
    ⟨hhushed.rewritten.leads_iff.mpr hleads, hhushed.rewritten.written⟩
  have hread : (run e args).tree.read (initPath e isGlobal) =
      .ok (Config.Template.text (initsGlobal e isGlobal)) := by
    rw [FileTree.read, hlook]
    rfl
  have hholds : Holds (run e args).tree (initPath e isGlobal) .silent :=
    ⟨_, hread, Config.Template.parse_text _⟩
  refine ⟨hhushed.load_eq, ⟨_, hread, Config.Template.lines_comments _⟩, hholds, ?_⟩
  rintro ⟨file, ⟨text, hread', hparse⟩, hroot⟩
  obtain rfl := Except.ok.inj (hread.symm.trans hread')
  obtain rfl := Option.some.inj ((Config.Template.parse_text _).symm.trans hparse)
  cases hroot

/-- A directory without a configuration file, and above it the home directory with one. -/
def belowHome : Environment :=
  { tree := ⟨[([Config.fileName.chars], .file "[search]\nlimit = 3\n"), ([['a']], .directory)]⟩,
    cwd := ⟨['/', 'a']⟩, home := ⟨['/']⟩, logFilter := none }

/-- An initialisation there writes a file, which counts from then on and changes nothing. -/
theorem init_below_home_keeps_configurations :
    belowHome.tree.isFile (initPath belowHome false) = false ∧
      (run belowHome ["init"]).tree.isFile (initPath belowHome false) = true ∧
      ∀ home directory : Path, Config.load (run belowHome ["init"]).tree home directory =
        Config.load belowHome.tree home directory := by
  have hargs : readArguments ["init"] = .ok ⟨0, .init false false⟩ := by cbv
  have hnew : belowHome.tree.isFile (initPath belowHome false) = false := by decide +kernel
  have hdone : (run belowHome ["init"]).code.number = 0 := by decide +kernel
  obtain ⟨hsame, -, hholds, -⟩ := init_keeps_configurations hargs hnew hdone
  exact ⟨hnew, hholds.isFile, hsame⟩

end MediaCatalogue.CommandLine
