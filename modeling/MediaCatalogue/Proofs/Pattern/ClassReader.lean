import MediaCatalogue.Pattern.ClassReader
import MediaCatalogue.Proofs.Pattern.Escape
import MediaCatalogue.Proofs.Spans

/-! Bracketed classes are read to their closing bracket, whatever is behind it. -/

namespace MediaCatalogue.Pattern

/-! Named classes -/

def nameBehind? (negated : Bool) (cs : List Char) : Option (ClassTree × List Char) :=
  match cs.dropWhile (· != ':') with
  | ':' :: ']' :: rest =>
    (namedClasses.lookup (String.ofList (cs.takeWhile (· != ':')))).map
      fun n => (.named n negated, rest)
  | _ => none

theorem nameBehind?_eq_some {negated : Bool} {cs rest : List Char} {item : ClassTree} :
    nameBehind? negated cs = some (item, rest) ↔
      ∃ name n, cs = name ++ ':' :: ']' :: rest ∧ ':' ∉ name ∧
        namedClasses.lookup (String.ofList name) = some n ∧ .named n negated = item := by
  constructor
  · intro h
    unfold nameBehind? at h
    split at h
    · next rest' heq =>
      obtain ⟨n, hlookup, hpair⟩ := Option.map_eq_some_iff.mp h
      obtain ⟨hitem, rfl⟩ := Prod.mk.inj hpair
      refine ⟨cs.takeWhile (· != ':'), n, ?_, ?_, hlookup, hitem⟩
      · rw [← heq, List.takeWhile_append_dropWhile]
      · intro hmem
        simpa using List.mem_takeWhile_imp hmem
    · cases h
  · rintro ⟨name, n, rfl, hname, hlookup, rfl⟩
    rw [nameBehind?, dropWhile_mark hname, takeWhile_mark hname, hlookup]
    rfl

theorem nameBehind?_append {negated : Bool} {cs rest : List Char} {item : ClassTree}
    (h : nameBehind? negated cs = some (item, rest)) (more : List Char) :
    nameBehind? negated (cs ++ more) = some (item, rest ++ more) := by
  obtain ⟨name, n, rfl, hname, hlookup, hitem⟩ := nameBehind?_eq_some.mp h
  exact nameBehind?_eq_some.mpr ⟨name, n, by simp, hname, hlookup, hitem⟩

theorem bracket_not_mem_name {name : List Char} {n : NamedClass}
    (h : namedClasses.lookup (String.ofList name) = some n) : ']' ∉ name := by
  have hall : ∀ entry ∈ namedClasses, ']' ∉ entry.1.toList := by decide +kernel
  obtain ⟨front, back, htable, -⟩ := List.lookup_eq_some_iff.mp h
  have hname := hall (String.ofList name, n) (htable ▸ List.mem_append_right _ List.mem_cons_self)
  rwa [String.toList_ofList] at hname

/-- Where a bracket closes already, what is behind does not make a name. -/
theorem nameBehind?_append_none {negated : Bool} {cs : List Char} (h : nameBehind? negated cs = none)
    (hclosed : ']' ∈ cs) (more : List Char) : nameBehind? negated (cs ++ more) = none := by
  cases hmore : nameBehind? negated (cs ++ more) with
  | none => rfl
  | some found =>
    obtain ⟨item, rest⟩ := found
    obtain ⟨name, n, heq, hcolon, hlookup, hitem⟩ := nameBehind?_eq_some.mp hmore
    obtain ⟨front, back, rfl, hfront⟩ := List.eq_append_cons_of_mem hclosed
    have hname : ']' ∉ name ++ [':'] := by
      have := bracket_not_mem_name hlookup
      simp [this]
    have hsplit : front ++ ']' :: (back ++ more) = name ++ [':'] ++ ']' :: rest := by
      simpa using heq
    obtain ⟨hsame, -⟩ := span_inj (bne_mark hfront) (bne_mark hname) (by simp) (by simp) hsplit
    have hfound : nameBehind? negated (front ++ ']' :: back) = some (item, back) :=
      nameBehind?_eq_some.mpr ⟨name, n, by simp [hsame], hcolon, hlookup, hitem⟩
    rw [h] at hfound
    cases hfound

/-- Whether a name can follow shows in the first two characters. -/
theorem namedClass?_cases (cs : List Char) :
    (∀ more, namedClass? (cs ++ more) = none) ∨ cs = [] ∨ cs = [':'] ∨
      ∃ negated name, name <:+ cs ∧ (']' ∈ cs → ']' ∈ name) ∧
        ∀ more, namedClass? (cs ++ more) = nameBehind? negated (name ++ more) := by
  match cs with
  | [] => exact .inr (.inl rfl)
  | c :: cs =>
    by_cases hc : c = ':'
    · subst hc
      match cs with
      | [] => exact .inr (.inr (.inl rfl))
      | d :: cs =>
        refine .inr (.inr (.inr ?_))
        by_cases hd : d = '^'
        · subst hd
          refine ⟨true, cs, ?_, fun h => by simpa using h, fun _ => rfl⟩
          exact (List.suffix_cons _ _).trans (List.suffix_cons _ _)
        · refine ⟨false, d :: cs, List.suffix_cons _ _, fun h => by simpa using h, fun more => ?_⟩
          rw [List.cons_append, List.cons_append, namedClass?]
          · rfl
          · exact fun _ heq => hd (List.cons.inj heq).1
    · refine .inl fun more => ?_
      rw [List.cons_append, namedClass?]
      exact fun _ heq => hc (List.cons.inj heq).1

theorem namedClass?_append {cs rest : List Char} {item : ClassTree}
    (h : namedClass? cs = some (item, rest)) :
    rest <:+ cs ∧ ∀ more, namedClass? (cs ++ more) = some (item, rest ++ more) := by
  rcases namedClass?_cases cs with hnone | rfl | rfl | ⟨negated, name, hsuffix, -, hname⟩
  · have hcs := hnone []
    rw [List.append_nil, h] at hcs
    cases hcs
  · cases h
  · cases h
  · have hcs := hname []
    rw [List.append_nil, List.append_nil, h] at hcs
    obtain ⟨body, n, rfl, -⟩ := nameBehind?_eq_some.mp hcs.symm
    refine ⟨List.IsSuffix.trans ⟨body ++ [':', ']'], by simp⟩ hsuffix, fun more => ?_⟩
    rw [hname]
    exact nameBehind?_append hcs.symm more

theorem namedClass?_append_none {cs : List Char} (hclosed : ']' ∈ cs) (h : namedClass? cs = none)
    (more : List Char) : namedClass? (cs ++ more) = none := by
  rcases namedClass?_cases cs with hnone | rfl | rfl | ⟨negated, name, -, hmem, hname⟩
  · exact hnone more
  · cases hclosed
  · simp at hclosed
  · have hcs := hname []
    rw [List.append_nil, List.append_nil, h] at hcs
    rw [hname]
    exact nameBehind?_append_none hcs.symm (hmem hclosed) more

/-! The start of a class -/

theorem apart_hyphens {verbose : Bool} {fuel fuel' : Nat} {items items' : List ClassTree}
    {cs rest : List Char} (hle : fuel ≤ fuel') (h : readHyphens verbose fuel items cs = .ok (items', rest)) :
    rest ≠ [] ∧ Apart (readHyphens verbose fuel' items) cs items' rest := by
  induction fuel generalizing items cs fuel' with
  | zero => cases h
  | succ fuel ih =>
    obtain ⟨fuel', rfl⟩ : ∃ n, fuel' = n + 1 := ⟨fuel' - 1, by omega⟩
    cases cs with
    | nil => cases h
    | cons c cs =>
      by_cases hc : c = '-'
      · subst hc
        obtain ⟨hrest, hapart⟩ := ih (Nat.le_of_succ_le_succ hle) h
        have hskip : skip verbose cs ≠ [] := by
          intro hskip
          rw [readHyphens, hskip] at h
          cases fuel <;> cases h
        refine ⟨hrest, (hapart.skip hskip).imp (List.suffix_cons _ _) fun more out hout => ?_⟩
        exact hout
      · have hread : ∀ (fuel : Nat) (tail : List Char),
            readHyphens verbose (fuel + 1) items (c :: tail) = .ok (items, c :: tail) := by
          intro fuel tail
          rw [readHyphens]
          · nofun
          · exact fun _ heq => hc (List.cons.inj heq).1
        rw [hread] at h
        obtain ⟨rfl, rfl⟩ := Prod.mk.inj (Except.ok.inj h)
        exact ⟨List.cons_ne_nil _ _, List.suffix_rfl, fun more => hread fuel' (cs ++ more)⟩

def readStart (verbose negated : Bool) (cs : List Char) : Except Fault (Parsed OpenClass) := do
  let (items, cs) ← readHyphens verbose (cs.length + 1) [] cs
  match items, cs with
  | [], ']' :: cs =>
    let cs := skip verbose cs
    if cs.isEmpty then .error .classUnclosed
    else return ({ negated, items := [.literal { char := ']' }] }, cs)
  | _, _ => return ({ negated, items }, cs)

theorem apart_start {verbose negated : Bool} {cs rest : List Char} {o : OpenClass}
    (h : readStart verbose negated cs = .ok (o, rest)) :
    rest ≠ [] ∧ Apart (readStart verbose negated) cs o rest := by
  obtain ⟨⟨items, cs'⟩, hread, hstart⟩ := bind_eq_ok.mp h
  obtain ⟨hne, hhyphens⟩ := apart_hyphens le_rfl hread
  have hmore : ∀ more, readHyphens verbose ((cs ++ more).length + 1) [] (cs ++ more) =
      .ok (items, cs' ++ more) := by
    intro more
    exact (apart_hyphens (fuel_le cs more) hread).2.read more
  by_cases hbracket : ∃ tail, items = [] ∧ cs' = ']' :: tail
  · obtain ⟨tail, rfl, rfl⟩ := hbracket
    simp only at hstart
    split_ifs at hstart with hempty
    · obtain ⟨rfl, rfl⟩ := Prod.mk.inj (Except.ok.inj hstart)
      have hskip : skip verbose tail ≠ [] := fun hnil => hempty (List.isEmpty_iff.mpr hnil)
      refine ⟨hskip, ?_, fun more => ?_⟩
      · exact (skip_suffix _ _).trans ((List.suffix_cons _ _).trans hhyphens.suffix)
      · rw [readStart, hmore]
        simp [bind, Except.bind, skip_append hskip, hskip]
        rfl
  · have hother : ∀ more, readStart verbose negated (cs ++ more) =
        .ok ({ negated, items }, cs' ++ more) := by
      intro more
      rw [readStart, hmore]
      simp only [bind, Except.bind]
      split
      · next heq =>
        obtain ⟨c, tail, rfl⟩ := List.exists_cons_of_ne_nil hne
        exact absurd ⟨tail, rfl, congrArg (· :: tail) (List.cons.inj heq).1⟩ hbracket
      · rfl
    have hcs := hother []
    rw [List.append_nil, List.append_nil, h] at hcs
    obtain ⟨rfl, rfl⟩ := Prod.mk.inj (Except.ok.inj hcs)
    exact ⟨hne, hhyphens.suffix, hother⟩

theorem readOpening_cases {verbose : Bool} {cs rest : List Char} {o : OpenClass}
    (h : readOpening verbose cs = .ok (o, rest)) :
    ∃ negated start, start <:+ cs ∧
      ∀ more, readOpening verbose (cs ++ more) = readStart verbose negated (start ++ more) := by
  have hnil : ∀ negated, readStart verbose negated [] ≠ .ok (o, rest) := nofun
  cases hskip : skip verbose cs with
  | nil =>
    rw [readOpening, hskip] at h
    exact absurd h (hnil false)
  | cons c tail =>
    by_cases hc : c = '^'
    · subst hc
      have htail : skip verbose tail ≠ [] := by
        intro hend
        rw [readOpening, hskip] at h
        simp only [hend] at h
        exact absurd h (hnil true)
      refine ⟨true, skip verbose tail, ?_, fun more => ?_⟩
      · exact (skip_suffix _ _).trans (tail_suffix_of_skip hskip)
      · rw [readOpening, skip_append_cons hskip, ← skip_append htail]
        rfl
    · refine ⟨false, c :: tail, suffix_of_skip hskip, fun more => ?_⟩
      rw [readOpening, skip_append_cons hskip]
      split
      next heq =>
        split at heq
        · next heq' => exact absurd (List.cons.inj heq').1 hc
        · obtain ⟨rfl, rfl⟩ := Prod.mk.inj heq
          rfl

theorem apart_opening {verbose : Bool} {cs rest : List Char} {o : OpenClass}
    (h : readOpening verbose cs = .ok (o, rest)) : rest ≠ [] ∧ Apart (readOpening verbose) cs o rest := by
  obtain ⟨negated, start, hsuffix, hread⟩ := readOpening_cases h
  have hstart := hread []
  rw [List.append_nil, List.append_nil, h] at hstart
  obtain ⟨hne, hapart⟩ := apart_start hstart.symm
  exact ⟨hne, hapart.imp hsuffix fun more out hout => (hread more).trans hout⟩

/-! Items -/

theorem peekVerbose_append {inComment : Bool} {cs : List Char} {c : Char}
    (h : peekVerbose inComment cs = some c) (more : List Char) :
    peekVerbose inComment (cs ++ more) = some c := by
  induction cs generalizing inComment with
  | nil => cases h
  | cons d cs ih =>
    rw [List.cons_append]
    rw [peekVerbose] at h ⊢
    split_ifs at h ⊢
    · exact ih h
    · exact ih h
    · exact h

/-- There is something to be seen where not all is skipped. -/
theorem peekVerbose_ne_none {cs : List Char} {commented : Bool} (h : skipVerbose commented cs ≠ [])
    (inComment : Bool) : peekVerbose inComment cs ≠ none := by
  induction cs generalizing commented inComment with
  | nil => exact absurd rfl h
  | cons c cs ih =>
    have hcs : (∃ commented, skipVerbose commented cs ≠ []) ∨ (isBlank c = false ∧ c ≠ '#') := by
      rw [skipVerbose] at h
      split_ifs at h with hcommented hblank hhash
      · exact .inl ⟨_, h⟩
      · exact .inl ⟨_, h⟩
      · exact .inl ⟨_, h⟩
      · exact .inr ⟨by simpa using hblank, by simpa using hhash⟩
    rw [peekVerbose]
    rcases hcs with ⟨commented', hcs⟩ | ⟨hblank, hhash⟩
    · split_ifs
      · exact ih hcs _
      · exact ih hcs _
      · exact Option.some_ne_none c
    · simp [hblank, hhash]

theorem peekVerbose_of_head? {cs : List Char} {c : Char} (hc : c = ']' ∨ c = '-')
    (h : cs.head? = some c) : peekVerbose false cs = some c := by
  obtain ⟨tail, rfl⟩ := List.head?_eq_some_iff.mp h
  rcases hc with rfl | rfl <;> rfl

/-- What is seen does not depend on what is behind, where that matters. -/
theorem peek_append {verbose : Bool} {cs : List Char}
    (h : skip verbose cs ≠ [] ∨ peek verbose cs = some ']' ∨ peek verbose cs = some '-')
    (more : List Char) : peek verbose (cs ++ more) = peek verbose cs := by
  cases verbose with
  | false =>
    cases cs with
    | nil => simp [skip, peek] at h
    | cons c cs => rfl
  | true =>
    have hseen : peekVerbose false cs ≠ none := by
      intro hnone
      have hhead : peek true cs = cs.head? := by rw [peek, if_pos rfl, hnone, Option.none_or]
      rw [hhead] at h
      rcases h with hskip | hbracket | hhyphen
      · exact peekVerbose_ne_none hskip false hnone
      · rw [peekVerbose_of_head? (.inl rfl) hbracket] at hnone
        cases hnone
      · rw [peekVerbose_of_head? (.inr rfl) hhyphen] at hnone
        cases hnone
    obtain ⟨c, hc⟩ := Option.ne_none_iff_exists'.mp hseen
    rw [peek, peek, if_pos rfl, if_pos rfl, hc, peekVerbose_append hc]
    rfl

theorem reads_classAtom {verbose : Bool} {cs rest : List Char} {a : Atom}
    (h : readClassAtom verbose cs = .ok (a, rest)) : Reads (readClassAtom verbose) cs a rest := by
  cases cs with
  | nil => cases h
  | cons c cs =>
    by_cases hc : c = '\\'
    · subst hc
      exact (reads_escape h).imp (List.suffix_cons _ _) fun _ _ hout => hout
    · have hread : ∀ tail, readClassAtom verbose (c :: tail) = .ok (.literal { char := c }, tail) := by
        intro tail
        rw [readClassAtom]
        exact hc
      rw [hread] at h
      obtain ⟨rfl, rfl⟩ := Prod.mk.inj (Except.ok.inj h)
      exact Apart.reads ⟨List.suffix_cons _ _, fun more => hread _⟩

/-- An item is not the last character of a class. -/
theorem readItem_single (verbose : Bool) {c : Char} (hc : c ≠ '\\') :
    readItem verbose [c] = .error .classUnclosed := by
  have hatom : readClassAtom verbose [c] = .ok (.literal { char := c }, []) := by
    rw [readClassAtom]
    exact hc
  rw [readItem, hatom]
  cases verbose <;> rfl

theorem reads_item {verbose : Bool} {cs rest : List Char} {item : ClassTree}
    (h : readItem verbose cs = .ok (item, rest)) : Reads (readItem verbose) cs item rest := by
  obtain ⟨⟨first, cs'⟩, hfirst, hitem⟩ := bind_eq_ok.mp h
  cases hskip : skip verbose cs' with
  | nil =>
    simp only [hskip] at hitem
    cases hitem
  | cons c tail =>
    have hcs' : cs' ≠ [] := by
      rintro rfl
      cases verbose <;> cases hskip
    have hfirst := (reads_classAtom hfirst).apart hcs'
    simp only [hskip] at hitem
    by_cases hc : c = '-'
    · subst hc
      simp only at hitem
      split_ifs at hitem with hnext hempty
      · obtain ⟨found, hclass, hpure⟩ := bind_eq_ok.mp hitem
        obtain ⟨rfl, rfl⟩ := Prod.mk.inj (Except.ok.inj hpure)
        have hpeek := peek_append (.inr (by simpa using hnext))
        refine Apart.reads ⟨(suffix_of_skip hskip).trans hfirst.suffix, fun more => ?_⟩
        rw [readItem, hfirst.read]
        simp only [bind, Except.bind, skip_append_cons hskip, hpeek, hnext, if_true, hclass]
        rfl
      · have hrest : skip verbose tail ≠ [] := fun hnil => hempty (List.isEmpty_iff.mpr hnil)
        obtain ⟨⟨last, rest'⟩, hlast, hrange⟩ := bind_eq_ok.mp hitem
        obtain ⟨low, hlow, hrange⟩ := bind_eq_ok.mp hrange
        obtain ⟨high, hhigh, hrange⟩ := bind_eq_ok.mp hrange
        split_ifs at hrange with horder
        obtain ⟨rfl, rfl⟩ := Prod.mk.inj (Except.ok.inj hrange)
        have hpeek := peek_append (.inl hrest)
        have hsuffix := (skip_suffix verbose tail).trans ((tail_suffix_of_skip hskip).trans hfirst.suffix)
        refine (reads_classAtom hlast).imp hsuffix fun more out hout => ?_
        rw [Bool.not_eq_true] at hnext
        rw [readItem, hfirst.read]
        simp only [bind, Except.bind, skip_append_cons hskip, hpeek, hnext, skip_append hrest,
          List.isEmpty_iff, List.append_eq_nil_iff, hrest, false_and, if_false, hout, hlow, hhigh, horder,
          if_true, Bool.false_eq_true]
        rfl
    · split at hitem
      · next heq => cases heq
      · next heq => exact absurd (List.cons.inj heq).1 hc
      · obtain ⟨found, hclass, hpure⟩ := bind_eq_ok.mp hitem
        obtain ⟨rfl, rfl⟩ := Prod.mk.inj (Except.ok.inj hpure)
        refine Apart.reads ⟨(suffix_of_skip hskip).trans hfirst.suffix, fun more => ?_⟩
        rw [readItem, hfirst.read]
        simp only [bind, Except.bind, skip_append_cons hskip]
        split
        · next heq => cases heq
        · next heq => exact absurd (List.cons.inj heq).1 hc
        · rw [hclass]
          rfl

/-! Whole classes -/

/-- A class that is read has its closing bracket. -/
theorem bracket_mem_of_readOpen {verbose : Bool} {fuel : Nat} {current : OpenClass}
    {outer : List OpenClass} {cs rest : List Char} {t : Tree}
    (h : readOpen verbose fuel current outer cs = .ok (t, rest)) : ']' ∈ cs := by
  induction fuel generalizing current outer cs with
  | zero => cases h
  | succ fuel ih =>
    refine (skip_suffix verbose cs).subset ?_
    rw [readOpen] at h
    split at h
    · cases h
    · next tail heq =>
      rw [heq]
      refine List.mem_cons_of_mem _ ?_
      split at h
      · next item rest' hnamed => exact (namedClass?_append hnamed).1.subset (ih h)
      · obtain ⟨⟨inner, rest'⟩, hopening, hread⟩ := bind_eq_ok.mp h
        exact (apart_opening hopening).2.suffix.subset (ih hread)
    · next tail heq =>
      rw [heq]
      exact List.mem_cons_self
    iterate 3
      · next tail heq =>
        rw [heq]
        exact List.mem_cons_of_mem _ (List.mem_cons_of_mem _ (ih h))
    · obtain ⟨⟨item, rest'⟩, hitem, hread⟩ := bind_eq_ok.mp h
      exact (reads_item hitem).suffix.subset (ih hread)

theorem apart_open {verbose : Bool} {fuel fuel' : Nat} {current : OpenClass} {outer : List OpenClass}
    {cs rest : List Char} {t : Tree} (hle : fuel ≤ fuel')
    (h : readOpen verbose fuel current outer cs = .ok (t, rest)) :
    Apart (readOpen verbose fuel' current outer) cs t rest := by
  induction fuel generalizing current outer cs fuel' with
  | zero => cases h
  | succ fuel ih =>
    obtain ⟨fuel', rfl⟩ : ∃ n, fuel' = n + 1 := ⟨fuel' - 1, by omega⟩
    have ih := fun current outer cs => @ih fuel' current outer cs (Nat.le_of_succ_le_succ hle)
    rw [readOpen] at h
    split at h
    · cases h
    · next tail hskip =>
      have htail := tail_suffix_of_skip hskip
      split at h
      · next item rest' hnamed =>
        obtain ⟨hsuffix, hmore⟩ := namedClass?_append hnamed
        refine (ih _ _ _ h).imp (hsuffix.trans htail) fun more out hout => ?_
        rw [readOpen, skip_append_cons hskip]
        simp only [hmore, hout]
      · next hnone =>
        obtain ⟨⟨inner, rest'⟩, hopening, hread⟩ := bind_eq_ok.mp h
        obtain ⟨-, hapart⟩ := apart_opening hopening
        have hclosed := hapart.suffix.subset (bracket_mem_of_readOpen hread)
        refine (ih _ _ _ hread).imp (hapart.suffix.trans htail) fun more out hout => ?_
        rw [readOpen, skip_append_cons hskip]
        simp only [namedClass?_append_none hclosed hnone, hapart.read, bind, Except.bind, hout]
    · next tail hskip =>
      have htail := tail_suffix_of_skip hskip
      cases outer with
      | nil =>
        obtain ⟨rfl, rfl⟩ := Prod.mk.inj (Except.ok.inj h)
        refine ⟨htail, fun more => ?_⟩
        rw [readOpen, skip_append_cons hskip]
        rfl
      | cons parent outer =>
        refine (ih _ _ _ h).imp htail fun more out hout => ?_
        rw [readOpen, skip_append_cons hskip]
        exact hout
    iterate 3
      · next tail hskip =>
        have htail := (List.suffix_cons _ _).trans (tail_suffix_of_skip hskip)
        refine (ih _ _ _ h).imp htail fun more out hout => ?_
        rw [readOpen, skip_append_cons hskip]
        exact hout
    · next hnil hopening hclosing hboth hminus htilde =>
      obtain ⟨⟨item, rest'⟩, hitem, hread⟩ := bind_eq_ok.mp h
      have hrest : rest' ≠ [] := List.ne_nil_of_mem (bracket_mem_of_readOpen hread)
      have hapart := (reads_item hitem).apart hrest
      refine (ih _ _ _ hread).imp (hapart.suffix.trans (skip_suffix _ _)) fun more out hout => ?_
      have hoperator : ∀ c r, c ≠ '\\' → skip verbose cs ++ more = c :: c :: r →
          ∃ r', skip verbose cs = c :: c :: r' := by
        intro c r hc heq
        rcases hskip : skip verbose cs with _ | ⟨x, _ | ⟨y, tail⟩⟩
        · exact absurd hskip hnil
        · rw [hskip] at hitem heq
          obtain rfl : x = c := (List.cons.inj heq).1
          rw [readItem_single verbose hc] at hitem
          cases hitem
        · rw [hskip] at heq
          obtain ⟨rfl, heq⟩ := List.cons.inj heq
          obtain ⟨rfl, -⟩ := List.cons.inj heq
          exact ⟨tail, rfl⟩
      have hfirst : ∀ c r, skip verbose cs ++ more = c :: r → ∃ r', skip verbose cs = c :: r' := by
        intro c r heq
        obtain ⟨x, tail, hskip⟩ := List.exists_cons_of_ne_nil hnil
        rw [hskip] at heq ⊢
        exact ⟨tail, congrArg (· :: tail) (List.cons.inj heq).1⟩
      rw [readOpen, skip_append hnil]
      split
      · next heq => exact absurd (List.append_eq_nil_iff.mp heq).1 hnil
      · next heq =>
        obtain ⟨r', hskip⟩ := hfirst _ _ heq
        exact absurd hskip (hopening r')
      · next heq =>
        obtain ⟨r', hskip⟩ := hfirst _ _ heq
        exact absurd hskip (hclosing r')
      · next heq =>
        obtain ⟨r', hskip⟩ := hoperator _ _ (by decide) heq
        exact absurd hskip (hboth r')
      · next heq =>
        obtain ⟨r', hskip⟩ := hoperator _ _ (by decide) heq
        exact absurd hskip (hminus r')
      · next heq =>
        obtain ⟨r', hskip⟩ := hoperator _ _ (by decide) heq
        exact absurd hskip (htilde r')
      · simp only [hapart.read, bind, Except.bind, hout]

theorem apart_class {verbose : Bool} {cs rest : List Char} {t : Tree}
    (h : readClass verbose cs = .ok (t, rest)) : Apart (readClass verbose) cs t rest := by
  obtain ⟨⟨start, rest'⟩, hopening, hread⟩ := bind_eq_ok.mp h
  obtain ⟨-, hapart⟩ := apart_opening hopening
  refine ⟨(apart_open le_rfl hread).suffix.trans hapart.suffix, fun more => ?_⟩
  have hmore := (apart_open (fuel_le rest' more) hread).read more
  rw [readClass, hapart.read]
  simp only [bind, Except.bind, hmore]

end MediaCatalogue.Pattern
