import MediaCatalogue.CommandLine.Display
import MediaCatalogue.CommandLine.Outcome
import MediaCatalogue.Proofs.Json.Number
import MediaCatalogue.Proofs.Text.Grid

/-! What is shown of a record: a row of a table, or one line. Both tell it from every record with another key. -/

namespace MediaCatalogue.CommandLine

def typeText : MediaKind → String
  | .film .. => "film"
  | .audioTrack .. => "audio track"
  | .televisionProgramme .. => "tv programme"

def detailsText : MediaKind → String
  | .film duration studio director => String.intercalate ", "
    ["duration: " ++ toString duration.toNat, "studio: " ++ studio, "director: " ++ director]
  | .audioTrack duration artist recordLabel => String.intercalate ", "
    ["duration: " ++ toString duration.toNat, "artist: " ++ artist, "recordlabel: " ++ recordLabel]
  | .televisionProgramme series episode studio channel => String.intercalate ", "
    ["studio: " ++ studio, "series: " ++ series, "episode: " ++ episode, "channel: " ++ channel]

def recordRow (m : Media) : List String :=
  [typeText m.kind, m.title, toString m.rating.toNat, toString m.releaseYear.toInt, detailsText m.kind]

def recordText (m : Media) : String :=
  "(" ++ typeText m.kind ++ ") " ++ m.title ++ " [" ++ toString m.releaseYear.toInt ++ "], rated " ++
    toString m.rating.toNat

def removedLine (m : Media) : String := "Removed " ++ recordText m ++ "\n"

/-- The text is a table of records, in order. -/
def ShowsRecords (ms : List Media) (text : String) : Prop :=
  ShowsTable ["Type", "Title", "Rating", "Year", "Details"] (ms.map recordRow) text

def numberedRows (ms : List Media) : List (List String) :=
  ms.zipIdx.map fun x => toString (x.2 + 1) :: recordRow x.1

/-- The text is a table of records with their numbers. -/
def ListsRecords (ms : List Media) (text : String) : Prop :=
  ShowsTable ["#", "Type", "Title", "Rating", "Year", "Details"] (numberedRows ms) text

theorem mediaCells_eq (m : Media) : mediaCells m = recordRow m := by
  obtain ⟨title, rating, releaseYear, kind⟩ := m
  cases kind <;> rfl

theorem rows_mediaGrid (ms : List Media) : (mediaGrid ms).rows = ms.map recordRow :=
  List.map_congr_left fun m _ => mediaCells_eq m

theorem rows_numberedGrid (ms : List Media) : (numberedGrid ms).rows = numberedRows ms :=
  List.map_congr_left fun x _ => congrArg _ (mediaCells_eq x.1)

theorem showsRecords_mediaGrid (ms : List Media) : ShowsRecords ms (mediaGrid ms).display := by
  rw [ShowsRecords, ← rows_mediaGrid]
  exact Grid.showsTable_display (mediaGrid ms)

theorem listsRecords_numberedGrid (ms : List Media) : ListsRecords ms (numberedGrid ms).display := by
  rw [ListsRecords, ← rows_numberedGrid]
  exact Grid.showsTable_display (numberedGrid ms)

theorem typeText_inj {m m' : Media} (h : typeText m.kind = typeText m'.kind) : m.mediaType = m'.mediaType := by
  unfold Media.mediaType
  revert h
  cases m.kind <;> cases m'.kind <;> simp [typeText, MediaKind.mediaType]

theorem key_eq_of_recordRow {m m' : Media} (h : recordRow m = recordRow m') : m.key = m'.key := by
  obtain ⟨htype, htitle, -, hyear, -⟩ : typeText m.kind = typeText m'.kind ∧ m.title = m'.title ∧
      toString m.rating.toNat = toString m'.rating.toNat ∧
      toString m.releaseYear.toInt = toString m'.releaseYear.toInt ∧
      detailsText m.kind = detailsText m'.kind := by
    simpa [recordRow] using h
  rw [Media.key, Media.key, typeText_inj htype, htitle, Int32.toInt_inj.mp (Int.repr_inj.mp hyear)]

theorem display_eq (m : Media) : m.display = recordText m := by
  obtain ⟨title, rating, releaseYear, kind⟩ := m
  cases kind <;> rfl

theorem line_removed (m : Media) : line ("Removed " ++ m.display) = removedLine m := by
  rw [display_eq]
  rfl

/-- A text is cut at the first mark in one way. -/
theorem append_cons_inj {mark : Char} {front front' back back' : List Char}
    (h : front ++ mark :: back = front' ++ mark :: back') (hfront : mark ∉ front)
    (hfront' : mark ∉ front') : front = front' ∧ back = back' := by
  have hsplit := congrArg (List.splitOn mark) h
  rw [List.splitOn_append_cons_self_of_not_mem hfront, List.splitOn_append_cons_self_of_not_mem hfront'] at hsplit
  obtain rfl := (List.cons.inj hsplit).1
  exact ⟨rfl, by simpa using h⟩

/-- A text is cut at the last mark in one way. -/
theorem append_cons_inj_last {mark : Char} {front front' back back' : List Char}
    (h : front ++ mark :: back = front' ++ mark :: back') (hback : mark ∉ back)
    (hback' : mark ∉ back') : front = front' ∧ back = back' := by
  have hreverse := congrArg List.reverse h
  simp only [List.reverse_append, List.reverse_cons, List.append_assoc, List.singleton_append] at hreverse
  obtain ⟨hb, hf⟩ := append_cons_inj hreverse (by simpa using hback) (by simpa using hback')
  exact ⟨List.reverse_injective hf, List.reverse_injective hb⟩

theorem notMem_toString {n : ℤ} {c : Char} (hdigit : c.isDigit = false) (hsign : c ≠ '-') :
    c ∉ (toString n).toList := by
  have hdigits : ∀ m, c ∉ Nat.toDigits 10 m := fun m h => by
    rw [Json.isDigit_of_mem_toDigits c h] at hdigit
    cases hdigit
  cases n with
  | ofNat m =>
    rw [Json.toList_toString_ofNat]
    exact hdigits m
  | negSucc m =>
    rw [Json.toList_toString_negSucc]
    exact List.not_mem_cons_of_ne_of_not_mem hsign (hdigits (m + 1))

/-- The text of a record up to its year, and from there on. -/
theorem toList_recordText (m : Media) : (recordText m).toList =
    ('(' :: ((typeText m.kind).toList ++ ')' :: ' ' :: (m.title.toList ++ [' ']))) ++
      '[' :: ((toString m.releaseYear.toInt).toList ++
        ']' :: (", rated ".toList ++ (toString (m.rating.toNat : ℤ)).toList)) := by
  have hopen : "(".toList = ['('] := rfl
  have hclose : ") ".toList = [')', ' '] := rfl
  have hyear : " [".toList = [' ', '['] := rfl
  have hrated : "], rated ".toList = ']' :: ", rated ".toList := rfl
  have hrating : (toString m.rating.toNat).toList = (toString (m.rating.toNat : ℤ)).toList := rfl
  simp only [recordText, String.toList_append, hopen, hclose, hyear, hrated, hrating, List.append_assoc,
    List.cons_append, List.nil_append]

theorem key_eq_of_recordText {m m' : Media} (h : recordText m = recordText m') : m.key = m'.key := by
  have hchars := congrArg String.toList h
  rw [toList_recordText, toList_recordText] at hchars
  have hback : ∀ m : Media, '[' ∉ (toString m.releaseYear.toInt).toList ++
      ']' :: (", rated ".toList ++ (toString (m.rating.toNat : ℤ)).toList) := by
    intro m
    have hyear : '[' ∉ (toString m.releaseYear.toInt).toList := notMem_toString (by decide) (by decide)
    have hrating : '[' ∉ (toString (m.rating.toNat : ℤ)).toList := notMem_toString (by decide) (by decide)
    have hrated : '[' ∉ ", rated ".toList := by decide
    simp only [List.mem_append, List.mem_cons, hyear, hrating, hrated]
    decide
  obtain ⟨hfront, hyear⟩ := append_cons_inj_last hchars (hback m) (hback m')
  have hclosing : ∀ n : ℤ, ']' ∉ (toString n).toList := fun n => notMem_toString (by decide) (by decide)
  have htype : ∀ k : MediaKind, ')' ∉ (typeText k).toList := by
    intro k
    cases k <;> simp [typeText]
  obtain ⟨hkind, htitle⟩ := append_cons_inj (List.cons.inj hfront).2 (htype _) (htype _)
  obtain ⟨hnumber, -⟩ := append_cons_inj hyear (hclosing _) (hclosing _)
  have hname : m.title = m'.title := String.toList_injective (by simpa using htitle)
  rw [Media.key, Media.key, typeText_inj (String.toList_injective hkind), hname,
    Int32.toInt_inj.mp (Int.repr_inj.mp (String.toList_injective hnumber))]

theorem key_eq_of_removedLine {m m' : Media} (h : removedLine m = removedLine m') : m.key = m'.key := by
  refine key_eq_of_recordText (String.toList_injective ?_)
  simpa [removedLine] using congrArg String.toList h

end MediaCatalogue.CommandLine
