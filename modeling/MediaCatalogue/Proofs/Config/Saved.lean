import MediaCatalogue.Proofs.Config.Discovery
import MediaCatalogue.Proofs.Config.Nearest
import MediaCatalogue.Proofs.Files.Absolute
import MediaCatalogue.Proofs.Toml.Document

/-! A configuration that is written out is itself a configuration file. Loaded alone, this file comes to
the configuration that it was written from, since the catalogue of a loaded configuration has an absolute
path. -/

namespace MediaCatalogue.Config

open Toml (BareName Document Statement entryLine headerLine)

def statements (c : Config) : List Statement :=
  .header [] "settings" ::
    ((c.catalogue.map fun p => .entry [] "catalogue" (.text p.display)).toList ++
      [.header [] "search", .entry [] "limit" (.integer c.limit.toNat), .header [] "output",
        .entry [] "format" (.text c.format.name)])

def asFile (c : Config) : ConfigFile :=
  { root := none
    settings := some ⟨c.catalogue.map Path.display⟩
    search := some ⟨some c.limit⟩
    output := some ⟨some c.format⟩ }

theorem toList_writeText (s : String) : (Toml.writeText s).toList = Toml.writeChars s.toList :=
  String.toList_ofList

theorem toList_toToml (c : Config) :
    c.toToml.toList =
      headerLine "settings" ++
        ((c.catalogue.elim [] fun p => entryLine "catalogue" (Toml.writeChars p.chars)) ++
        '\n' :: (headerLine "search" ++ (entryLine "limit" (Nat.toDigits 10 c.limit.toNat) ++
        '\n' :: (headerLine "output" ++ entryLine "format" (Toml.writeChars c.format.name.toList))))) := by
  have hsettings : "[settings]\n".toList = headerLine "settings" := rfl
  have hcatalogue : "catalogue = ".toList = "catalogue".toList ++ [' ', '=', ' '] := rfl
  have hsearch : "\n[search]\nlimit = ".toList =
      '\n' :: (headerLine "search" ++ ("limit".toList ++ [' ', '=', ' '])) := rfl
  have houtput : "\n\n[output]\nformat = ".toList =
      '\n' :: '\n' :: (headerLine "output" ++ ("format".toList ++ [' ', '=', ' '])) := rfl
  have hlimit : (toString c.limit.toNat).toList = Nat.toDigits 10 c.limit.toNat := by simp
  have hfeed : "\n".toList = ['\n'] := rfl
  unfold toToml
  cases c.catalogue with
  | none =>
    simp only [String.toList_append, hsettings, hsearch, houtput, hlimit, hfeed, toList_writeText,
      entryLine, String.toList_empty, Option.elim, List.append_assoc, List.cons_append,
      List.nil_append]
  | some p =>
    simp only [String.toList_append, hsettings, hcatalogue, hsearch, houtput, hlimit, hfeed,
      toList_writeText, entryLine, Option.elim, Path.display, String.toList_ofList,
      List.append_assoc, List.cons_append, List.nil_append]

theorem bareName_of_mem (name : String)
    (h : name ∈ ["settings", "catalogue", "search", "limit", "output", "format"]) : BareName name := by
  have hall : ∀ name ∈ ["settings", "catalogue", "search", "limit", "output", "format"],
      name.toList ≠ [] ∧ name.toList.all Toml.isBare = true := by
    decide
  exact ⟨(hall name h).1, List.all_eq_true.mp (hall name h).2⟩

theorem document_toToml (c : Config) : Document c.statements c.toToml.toList := by
  have hformat := Toml.readsAs_writeChars c.format.name.toList
  rw [String.ofList_toList] at hformat
  have houtput := Document.header (bareName_of_mem "output" (by simp))
    (.entry (bareName_of_mem "format" (by simp)) hformat .nil)
  have hsearch := Document.header (bareName_of_mem "search" (by simp))
    (.entry (bareName_of_mem "limit" (by simp)) (Toml.readsAs_toDigits c.limit.toNat)
      houtput.newline)
  rw [List.append_nil] at hsearch
  rw [toList_toToml, statements]
  refine .header (bareName_of_mem "settings" (by simp)) ?_
  cases c.catalogue with
  | none => exact hsearch.newline
  | some p =>
    exact .entry (bareName_of_mem "catalogue" (by simp)) (Toml.readsAs_writeChars p.chars)
      hsearch.newline

theorem foldlM_statements (c : Config) :
    (c.statements.foldlM Toml.Draft.add ⟨[], []⟩).map (·.entries) =
      some [("settings", .table .header
          (c.catalogue.map fun p => ("catalogue", Toml.text p.display)).toList),
        ("search", .table .header [("limit", .integer c.limit.toNat)]),
        ("output", .table .header [("format", .text c.format.name)])] := by
  rw [statements]
  cases c.catalogue with
  | none => rfl
  | some p => rfl

theorem asLimit_toNat (limit : UInt64) : ConfigFile.asLimit (.integer limit.toNat) = some limit := by
  have hrange : 0 ≤ (limit.toNat : Int) ∧ (limit.toNat : Int) < (UInt64.size : Int) :=
    ⟨Int.natCast_nonneg _, Int.ofNat_lt.mpr limit.toNat_lt⟩
  rw [ConfigFile.asLimit, if_pos hrange, Int.toNat_natCast, UInt64.ofNat_toNat]

theorem asFormat_name (format : OutputFormat) : ConfigFile.asFormat (.text format.name) = some format := by
  cases format with
  | table => rfl
  | json => rfl

/-- The text of a configuration is a configuration file, and it has all settings of the configuration. -/
theorem parse_toToml (c : Config) : ConfigFile.parse c.toToml = some c.asFile := by
  have hhead : c.toToml.toList.head? = some '[' := by
    rw [toList_toToml]
    rfl
  have hlength : c.statements.length ≤ c.toToml.toList.length := by
    rw [toList_toToml, statements]
    cases c.catalogue <;> simp [headerLine]
  have hentries := c.document_toToml.parse hlength (by simp [hhead])
  rw [foldlM_statements] at hentries
  have hsettings : ConfigFile.asSettings (.table .header
      (c.catalogue.map fun p => ("catalogue", Toml.text p.display)).toList) =
        some ⟨c.catalogue.map Path.display⟩ := by
    cases c.catalogue with
    | none => rfl
    | some p => rfl
  have hsearch : ConfigFile.asSearch (.table .header [("limit", .integer c.limit.toNat)]) =
      some ⟨some c.limit⟩ := by
    have hvalue : ConfigFile.sectionOf ConfigFile.asLimit "limit"
        (.table .header [("limit", .integer c.limit.toNat)]) =
          (ConfigFile.asLimit (.integer c.limit.toNat)).map some := rfl
    rw [ConfigFile.asSearch, hvalue, asLimit_toNat]
    rfl
  have houtput : ConfigFile.asOutput (.table .header [("format", .text c.format.name)]) =
      some ⟨some c.format⟩ := by
    have hvalue : ConfigFile.sectionOf ConfigFile.asFormat "format"
        (.table .header [("format", .text c.format.name)]) =
          (ConfigFile.asFormat (.text c.format.name)).map some := rfl
    rw [ConfigFile.asOutput, hvalue, asFormat_name]
    rfl
  rw [ConfigFile.parse, hentries]
  generalize Toml.table .header (c.catalogue.map fun p => ("catalogue", Toml.text p.display)).toList =
    s at hsettings
  generalize Toml.table .header [("limit", .integer c.limit.toNat)] = t at hsearch
  generalize Toml.table .header [("format", .text c.format.name)] = u at houtput
  have hfile : ConfigFile.ofEntries [("settings", s), ("search", t), ("output", u)] =
      (ConfigFile.asSettings s).map some >>= fun settings =>
        (ConfigFile.asSearch t).map some >>= fun search =>
          (ConfigFile.asOutput u).map some >>= fun output =>
            some ⟨none, settings, search, output⟩ := rfl
  rw [Option.bind_eq_bind, Option.bind_some, hfile, hsettings, hsearch, houtput]
  rfl

/-- The catalogue does not depend on a directory from which it would be found. -/
def Anchored (c : Config) : Prop := ∀ p ∈ c.catalogue, p.isAbsolute = true

theorem expandTilde_of_isAbsolute {p : Path} (h : p.isAbsolute = true) (home : Path) :
    expandTilde home p.chars = p := by
  unfold expandTilde
  split
  · next heq => simp [Path.isAbsolute, heq] at h
  · next heq => simp [Path.isAbsolute, heq] at h
  · rfl

theorem resolve_display {p : Path} (h : p.isAbsolute = true) (home directory : Path) :
    resolve home directory p.display = p := by
  rw [resolve, Path.display, String.toList_ofList, expandTilde_of_isAbsolute h, Path.join, if_pos h]

theorem merge_asFile {c : Config} (h : c.Anchored) (home path : Path) :
    merge home [⟨path, c.asFile⟩] = c := by
  have hcatalogue : (merge home [⟨path, c.asFile⟩]).catalogue = c.catalogue := by
    rw [catalogue_merge_cons]
    cases hc : c.catalogue with
    | none => simp [asFile, hc, ConfigFile.catalogue?, merge, catalogueOf]
    | some p => simp [asFile, hc, ConfigFile.catalogue?, resolve_display (h p hc)]
  obtain ⟨catalogue, limit, format⟩ := c
  exact congrArg (Config.mk · limit format) hcatalogue

theorem ofFiles_toToml {c : Config} (h : c.Anchored) {tree : FileTree} {path : Path}
    (hread : tree.read path = .ok c.toToml) (home : Path) : ofFiles tree home [path] = .ok c := by
  have hload : loadFiles tree [path] = .ok [⟨path, c.asFile⟩] := by
    rw [loadFiles_eq_ok]
    exact ⟨rfl, by simpa using ⟨c.toToml, hread, c.parse_toToml⟩⟩
  rw [ofFiles, hload]
  exact congrArg Except.ok (merge_asFile h home path)

variable {tree : FileTree} {home cwd path : Path}

theorem mem_discover (h : path ∈ discover tree home cwd) :
    ∃ d, (d ∈ cwd.ancestors ∨ d = home) ∧ d.join fileName = path := by
  have hway : path ∈ filesIn tree cwd.ancestors → ∃ d, (d ∈ cwd.ancestors ∨ d = home) ∧
      d.join fileName = path := by
    intro hmem
    obtain ⟨d, hd, hpath, -⟩ := mem_filesIn.mp hmem
    exact ⟨d, .inl hd, hpath⟩
  have hlisting := discover_listing tree home cwd
  generalize discover tree home cwd = listed at h hlisting
  generalize filesIn tree cwd.ancestors = files at hway hlisting
  cases hlisting with
  | rooted plain ends =>
    refine hway (List.mem_append.mpr ((List.mem_append.mp h).imp_right fun hlast => ?_))
    exact List.mem_singleton.mp hlast ▸ List.mem_cons_self
  | complete plain global => exact hway h
  | appended plain there new =>
    rcases List.mem_append.mp h with hnear | hlast
    · exact hway hnear
    · exact ⟨home, .inr rfl, (List.mem_singleton.mp hlast).symm⟩

theorem isAbsolute_directory {f : PlacedFile} {d : Path} (hd : d.isAbsolute = true)
    (h : d.join fileName = f.path) : f.directory.isAbsolute = true := by
  have hcomponents := components_file d
  rw [h] at hcomponents
  obtain ⟨q, hq⟩ := Path.exists_parent_of_name hcomponents
  rw [PlacedFile.directory, hq]
  exact Path.isAbsolute_parent (h ▸ Path.isAbsolute_join hd fileName) hq

/-- From absolute directories, nothing but an absolute path is loaded. -/
theorem anchored_of_load {c : Config} (hhome : home.isAbsolute = true) (hcwd : cwd.isAbsolute = true)
    (h : load tree home cwd = .ok c) : c.Anchored := by
  obtain ⟨files, ⟨hpaths, -⟩, rfl⟩ := load_eq_ok.mp h
  intro p hp
  obtain ⟨found, hfound, rfl⟩ := Option.map_eq_some_iff.mp hp
  obtain ⟨f, hf, htext⟩ := List.exists_of_findSome?_eq_some hfound
  obtain ⟨text, -, rfl⟩ := Option.map_eq_some_iff.mp htext
  obtain ⟨d, hd, hpath⟩ := mem_discover (hpaths ▸ List.mem_map_of_mem hf)
  have habsolute : d.isAbsolute = true :=
    hd.elim (cwd.lineage_ancestors.isAbsolute hcwd d) fun heq => heq ▸ hhome
  exact Path.isAbsolute_join (isAbsolute_directory habsolute hpath) _

end MediaCatalogue.Config
