import MediaCatalogue.Media.Json
import MediaCatalogue.Proofs.Json.RoundTrip

/-! A record is read back as it was written, whatever its texts and numbers. -/

namespace MediaCatalogue.Media

open Json

theorem asNatural_naturalJson (n : UInt32) : asNatural (naturalJson n) = .ok n := by
  have hlt := n.toNat_lt
  have hrange : (0 : Int) ≤ (n.toNat : Int) ∧ (n.toNat : Int) ≤ (UInt32.size : Int) - 1 := by
    simp only [UInt32.size]
    omega
  simp only [asNatural, naturalJson, asInteger, if_pos hrange]
  exact congrArg Except.ok (by rw [Int.toNat_natCast, UInt32.ofNat_toNat])

theorem asYear_toInt (year : Int32) : asYear (.integer year.toInt) = .ok year := by
  have hrange : Int32.minValue.toInt ≤ year.toInt ∧ year.toInt ≤ Int32.maxValue.toInt :=
    ⟨year.minValue_le_toInt, year.toInt_le⟩
  simp only [asYear, asInteger, if_pos hrange]
  exact congrArg Except.ok (Int32.ofInt_toInt year)

theorem asType_name (t : MediaType) : asType (.string t.name) = .ok t := by
  cases t <;> decide +kernel

theorem naturalOf_eq {key : String} {entries : List (String × Json)} {n : UInt32}
    (h : entryOf key entries = .ok (naturalJson n)) : naturalOf key entries = .ok n := by
  rw [naturalOf, h]
  exact asNatural_naturalJson n

theorem textOf_eq {key : String} {entries : List (String × Json)} {text : String}
    (h : entryOf key entries = .ok (.string text)) : textOf key entries = .ok text := by
  rw [textOf, h]
  rfl

theorem kindOf_entries (kind : MediaKind) :
    kindOf (("type", .string kind.mediaType.name) :: kind.entries) = .ok kind := by
  have htype : entryOf "type" (("type", .string kind.mediaType.name) :: kind.entries) =
      .ok (.string kind.mediaType.name) := by
    cases kind <;> rfl
  rw [kindOf, htype]
  simp only [bind, Except.bind, asType_name]
  cases kind with
  | film duration studio director =>
    simp only [MediaKind.mediaType, MediaKind.entries]
    rw [naturalOf_eq rfl, textOf_eq rfl, textOf_eq rfl]
    rfl
  | audioTrack duration artist recordLabel =>
    simp only [MediaKind.mediaType, MediaKind.entries]
    rw [naturalOf_eq rfl, textOf_eq rfl, textOf_eq rfl]
    rfl
  | televisionProgramme series episode studio channel =>
    simp only [MediaKind.mediaType, MediaKind.entries]
    rw [textOf_eq rfl, textOf_eq rfl, textOf_eq rfl, textOf_eq rfl]
    rfl

theorem Draft.addAll_cons {d d' : Draft} {key : String} {j : Json} (entries : List (String × Json))
    (h : d.add key j = .ok d') : d.addAll ((key, j) :: entries) = d'.addAll entries := by
  rw [Draft.addAll, h]
  rfl

/-- Entries that are no title, no rating and no year are kept for the kind. -/
theorem Draft.addAll_others {entries : List (String × Json)} (d : Draft)
    (h : ∀ e ∈ entries, e.1 ≠ "title" ∧ e.1 ≠ "rating" ∧ e.1 ≠ "releaseYear" ∧ e.2.fault? = none) :
    d.addAll entries = .ok { d with others := d.others ++ entries } := by
  induction entries generalizing d with
  | nil => simp [Draft.addAll]
  | cons e entries ih =>
    obtain ⟨key, j⟩ := e
    obtain ⟨htitle, hrating, hyear, hj⟩ := h _ List.mem_cons_self
    have hadd : d.add key j = .ok { d with others := d.others ++ [(key, j)] } := by
      simp only [Draft.add, if_neg htitle, if_neg hrating, if_neg hyear, whole, hj]
      rfl
    rw [Draft.addAll_cons entries hadd, ih _ fun e he => h e (List.mem_cons_of_mem _ he)]
    simp

theorem others_entries (kind : MediaKind) :
    ∀ e ∈ ("type", Json.string kind.mediaType.name) :: kind.entries,
      e.1 ≠ "title" ∧ e.1 ≠ "rating" ∧ e.1 ≠ "releaseYear" ∧ e.2.fault? = none := by
  cases kind <;> simp [MediaKind.entries, fault?, naturalJson]

theorem ofJson_toJson (m : Media) : ofJson m.toJson = .ok m := by
  obtain ⟨title, rating, releaseYear, kind⟩ := m
  have htitle : Draft.empty.add "title" (.string title) = .ok ⟨some title, none, none, []⟩ := rfl
  have hrating : Draft.add ⟨some title, none, none, []⟩ "rating" (naturalJson rating) =
      .ok ⟨some title, some rating, none, []⟩ := by
    simp [Draft.add, Draft.once, asNatural_naturalJson, bind, Except.bind, pure, Except.pure]
  have hyear : Draft.add ⟨some title, some rating, none, []⟩ "releaseYear"
      (.integer releaseYear.toInt) = .ok ⟨some title, some rating, some releaseYear, []⟩ := by
    simp [Draft.add, Draft.once, asYear_toInt, bind, Except.bind, pure, Except.pure]
  have hdraft : Draft.empty.addAll (("title", .string title) :: ("rating", naturalJson rating) ::
        ("releaseYear", .integer releaseYear.toInt) ::
        ("type", .string kind.mediaType.name) :: kind.entries) =
      .ok ⟨some title, some rating, some releaseYear,
        ("type", .string kind.mediaType.name) :: kind.entries⟩ := by
    rw [Draft.addAll_cons _ htitle, Draft.addAll_cons _ hrating, Draft.addAll_cons _ hyear,
      Draft.addAll_others _ (others_entries kind), List.nil_append]
  have hmedia : Draft.media ⟨some title, some rating, some releaseYear,
      ("type", .string kind.mediaType.name) :: kind.entries⟩ =
      .ok ⟨title, rating, releaseYear, kind⟩ := by
    simp only [Draft.media, kindOf_entries, bind, Except.bind, pure, Except.pure]
  simp only [ofJson, toJson, mediaType, List.cons_append, List.nil_append, hdraft, bind, Except.bind,
    finish, hmedia]

theorem exact_natural (n : UInt32) : Exact n.toNat := by
  have hlt := n.toNat_lt
  exact exact_of_bounds (by omega) (by omega)

theorem exact_year (year : Int32) : Exact year.toInt := by
  have hlow := year.le_toInt
  have hhigh := year.toInt_lt
  exact exact_of_bounds (by omega) (by omega)

theorem whole_toJson (m : Media) : m.toJson.Whole := by
  obtain ⟨title, rating, releaseYear, kind⟩ := m
  cases kind <;>
    simp [toJson, MediaKind.entries, naturalJson, Whole, WholeEntries, exact_natural, exact_year]

theorem levels_toJson (m : Media) : m.toJson.levels = 1 := by
  obtain ⟨title, rating, releaseYear, kind⟩ := m
  cases kind <;> simp [toJson, MediaKind.entries, naturalJson, levels, levelsEntries]

theorem parse_print (m : Media) : parse m.print = .ok m := by
  have hlevels : m.toJson.levels ≤ maxDepth := by
    rw [levels_toJson]
    decide
  have hdecode : decode ofJson (m.print ++ "") = ofJson m.toJson :=
    decode_print ofJson spaced_compact (whole_toJson m) hlevels (by simp [Blank])
  rw [← ofJson_toJson m, ← hdecode, String.append_empty, parse]

end MediaCatalogue.Media
