import MediaCatalogue.Media.Basic
import MediaCatalogue.Proofs.Query.Comparison

/-! Comparisons of the numbers of a record. A record keeps them as words and shows them to a query as text, so
they have been printed and read again by the time they are compared, which changes none of them; and no text
of a number is taken for the name of a field. -/

namespace MediaCatalogue

open Query

namespace Field

theorem isDigit_eq_false_of_mem_name (f : Field) : ∀ c ∈ foldCase f.name, c.isDigit = false := by
  have hall : (foldCase f.name).all (fun c => !c.isDigit) = true := by cases f <;> cbv
  simpa using hall

theorem ofName?_congr {a b : String} (h : sameName a b = true) : ofName? a = ofName? b := by
  simp only [ofName?, sameName_congr_right h]

theorem ofName?_name (f : Field) : ofName? f.name = some f := by
  cases f <;> cbv

/-- No name of a field has a digit. -/
theorem ofName?_eq_none {name : String} (h : ∃ d ∈ name.toList, d.isDigit = true) :
    ofName? name = none := by
  obtain ⟨d, hd, hdigit⟩ := h
  have hlower : d.toLower = d := by
    refine Char.toLower_eq_of_not_isUpper fun hupper => ?_
    simp only [Char.isDigit, Char.isUpper, Bool.and_eq_true, decide_eq_true_eq,
      UInt32.le_iff_toNat_le] at hdigit hupper
    exact absurd (hupper.1.trans hdigit.2) (by decide)
  rw [ofName?, List.find?_eq_none]
  intro f _ hsame
  have hmem : d ∈ foldCase f.name := by
    rw [sameName_iff.mp hsame, foldCase, ← hlower]
    exact List.mem_map_of_mem hd
  rw [f.isDigit_eq_false_of_mem_name d hmem] at hdigit
  cases hdigit

end Field

namespace Media

def number? (m : Media) : Field → Option ℤ
  | .rating => some m.rating.toNat
  | .releaseYear => some m.releaseYear.toInt
  | .duration => match m.kind with
    | .film duration _ _ => some duration.toNat
    | .audioTrack duration _ _ => some duration.toNat
    | _ => none
  | _ => none

variable {m : Media} {f : Field} {n : ℤ}

theorem fits_natural (n : UInt32) : Fits (n.toNat : ℤ) := by
  have := n.toNat_lt
  unfold Fits
  omega

theorem fits_year (n : Int32) : Fits n.toInt := by
  have := n.le_toInt
  have := n.toInt_lt
  unfold Fits
  omega

/-- A field shows its number as text. -/
theorem field?_of_number? (h : m.number? f = some n) : m.field? f = some (toString n) ∧ Fits n := by
  cases f with
  | rating =>
    cases h
    exact ⟨rfl, fits_natural _⟩
  | releaseYear =>
    cases h
    exact ⟨rfl, fits_year _⟩
  | duration =>
    unfold number? at h
    unfold field?
    cases hkind : m.kind <;> rw [hkind] at h <;> cases h
    · exact ⟨rfl, fits_natural _⟩
    · exact ⟨rfl, fits_natural _⟩
  | _ => cases h

theorem standsFor_field (h : m.number? f = some n) {name : String} (hname : sameName f.name name = true) :
    StandsFor m.record name n := by
  obtain ⟨hfield, hfits⟩ := field?_of_number? h
  have hrecord : m.record name = .value (toString n) := by
    simp only [record, ← Field.ofName?_congr hname, Field.ofName?_name, hfield]
  refine ⟨toString n, by rw [resolve, hrecord], ?_⟩
  have hdenotes : Denotes (toString n).toList n := .integer (integer_toString hfits)
  simpa using hdenotes.trim_padded (List.forall_mem_nil _) (List.forall_mem_nil _)

/-- A literal is no name of a field, so it stands for what it denotes. -/
theorem standsFor_literal (m : Media) {before text after : String} {v : ℤ} (hbefore : Blank before)
    (hafter : Blank after) (h : Denotes text.toList v) :
    StandsFor m.record (before ++ text ++ after) v := by
  have hchars : (before ++ text ++ after).toList = before.toList ++ text.toList ++ after.toList := by
    rw [String.toList_append, String.toList_append]
  obtain ⟨d, hd, hdigit⟩ := h.exists_isDigit
  have hname : Field.ofName? (before ++ text ++ after) = none := by
    refine Field.ofName?_eq_none ⟨d, ?_, hdigit⟩
    rw [hchars]
    exact List.mem_append_left _ (List.mem_append_right _ hd)
  have hrecord : m.record (before ++ text ++ after) = .unknown := by simp only [record, hname]
  refine ⟨before ++ text ++ after, by rw [resolve, hrecord], ?_⟩
  rw [hchars]
  exact h.trim_padded hbefore hafter

/-- A comparison of a numeric field with a number of minutes is one of integers, whichever way the number is
written and whatever white space is around it. With its sides swapped a comparison comes to the mirrored one.
Of two numbers, either the one comparison or its opposite holds, and of anything else none. -/
theorem comparisons_are_exact (m : Media) :
    (∀ f n, m.number? f = some n → ∀ name, sameName f.name name = true → ∀ h k : ℕ, Fits (60 * h + k) →
      ∀ text ∈ notations h k, ∀ before after, Blank before → Blank after →
        Compares m.record name (before ++ text ++ after) n (60 * h + k) ∧
        Compares m.record (before ++ text ++ after) name (60 * h + k) n) ∧
    (∀ o : Operator, o.isNumeric = true → ∀ left right,
      Condition.test ⟨right, o.mirrored, left⟩ m.record = Condition.test ⟨left, o, right⟩ m.record) ∧
    (∀ left right l r, StandsFor m.record left l → StandsFor m.record right r →
      Compares m.record left right l r ∧
      Condition.test ⟨left, .less, right⟩ m.record =
        !Condition.test ⟨left, .greaterOrEqual, right⟩ m.record ∧
      Condition.test ⟨left, .greater, right⟩ m.record =
        !Condition.test ⟨left, .lessOrEqual, right⟩ m.record) ∧
    ∀ o : Operator, o.isNumeric = true → ∀ left right,
      ((¬ ∃ l, StandsFor m.record left l) ∨ ¬ ∃ r, StandsFor m.record right r) →
        Condition.test ⟨left, o, right⟩ m.record = false := by
  refine ⟨?_, fun o ho left right => test_mirrored ho, ?_, ?_⟩
  · intro f n hn name hname h k hfits text htext before after hbefore hafter
    have hfield := standsFor_field hn hname
    have hliteral := m.standsFor_literal hbefore hafter (denotes_of_mem_notations hfits htext)
    exact ⟨compares_of_standsFor hfield hliteral, compares_of_standsFor hliteral hfield⟩
  · intro left right l r hl hr
    have hcompares := compares_of_standsFor hl hr
    exact ⟨hcompares, hcompares.opposites⟩
  · intro o ho left right h
    obtain ⟨accept, ho⟩ := Option.isSome_iff_exists.mp ho
    exact test_eq_false ho h

def earlyFilm : Media := ⟨"A", 7, -44, .film 90 "B" "C"⟩

theorem comparisons_are_exact_film :
    Compares earlyFilm.record "DURATION" "\t1h30m " 90 90 ∧
      Condition.test ⟨"\t1h30m ", .lessOrEqual, "DURATION"⟩ earlyFilm.record = true ∧
      Compares earlyFilm.record "ReleaseYear" "rating" (-44) 7 ∧
      Condition.test ⟨"title", .less, "rating"⟩ earlyFilm.record = false := by
  obtain ⟨hliterals, hmirrored, hnumbers, hothers⟩ := comparisons_are_exact earlyFilm
  have hduration : Compares earlyFilm.record "DURATION" "\t1h30m " 90 90 :=
    (hliterals .duration 90 rfl "DURATION" (by decide +kernel) 1 30 (by decide) "1h30m" (by decide +kernel)
      "\t" " " (by decide +kernel) (by decide +kernel)).1
  have hyear : StandsFor earlyFilm.record "ReleaseYear" (-44) :=
    standsFor_field (f := .releaseYear) rfl (by decide +kernel)
  have hrating : StandsFor earlyFilm.record "rating" 7 :=
    standsFor_field (f := .rating) rfl (by decide +kernel)
  have htitle : ¬ ∃ l, StandsFor earlyFilm.record "title" l := by
    rintro ⟨l, text, htext, hl⟩
    obtain rfl : "A" = text := Option.some.inj htext
    obtain ⟨d, hd, hdigit⟩ := hl.exists_isDigit
    obtain rfl : d = 'A' := List.mem_singleton.mp hd
    cases hdigit
  refine ⟨hduration, ?_, (hnumbers _ _ _ _ hyear hrating).1, hothers .less rfl _ _ (.inl htitle)⟩
  have hswapped := hmirrored .greaterOrEqual rfl "DURATION" "\t1h30m "
  rw [hduration.greaterOrEqual.mpr (le_refl _)] at hswapped
  exact hswapped

end Media

end MediaCatalogue
