import MediaCatalogue.Pattern.Reader
import MediaCatalogue.Proofs.Pattern.ClassReader

/-! Whole patterns are read element by element, so what is behind a pattern goes on where the pattern has
ended, unless the pattern ends in a comment. -/

namespace MediaCatalogue.Pattern

/-! Flags and names -/

theorem apart_flags {on dangling : Bool} {changes found : FlagChanges} {cs rest : List Char}
    (h : readFlags on dangling changes cs = .ok (found, rest)) :
    rest ≠ [] ∧ Apart (readFlags on dangling changes) cs found rest := by
  induction cs generalizing on dangling changes with
  | nil => cases h
  | cons c cs ih =>
    rw [readFlags] at h
    split_ifs at h with hend hdangling hhyphen hon
    · obtain ⟨rfl, rfl⟩ := Prod.mk.inj (Except.ok.inj h)
      refine ⟨List.cons_ne_nil _ _, List.suffix_rfl, fun more => ?_⟩
      rw [List.cons_append, readFlags, if_pos hend, if_neg hdangling]
    · obtain ⟨hne, hapart⟩ := ih h
      refine ⟨hne, hapart.imp (List.suffix_cons _ _) fun more out hout => ?_⟩
      rw [List.cons_append, readFlags, if_neg hend, if_pos hhyphen, if_pos hon, hout]
    · obtain ⟨flag, hflag, h⟩ := bind_eq_ok.mp h
      split_ifs at h with hknown
      obtain ⟨hne, hapart⟩ := ih h
      refine ⟨hne, hapart.imp (List.suffix_cons _ _) fun more out hout => ?_⟩
      rw [List.cons_append, readFlags, if_neg hend, if_neg hhyphen, hflag]
      simp only [bind, Except.bind, hknown, Bool.false_eq_true, if_false, hout]

/-- No flags start like a look-around or a name. -/
theorem flags_start {changes : FlagChanges} {c : Char} {cs : List Char} {x : Parsed FlagChanges}
    (h : readFlags true false changes (c :: cs) = .ok x) : c ∉ ['=', '!', '<', 'P'] := by
  intro hc
  simp only [List.mem_cons, List.not_mem_nil, or_false] at hc
  rcases hc with rfl | rfl | rfl | rfl <;> cases h

theorem apart_name {names : List (List Char)} {cs name rest : List Char}
    (h : readName names cs = .ok (name, rest)) : Apart (readName names) cs name rest := by
  by_cases hmem : '>' ∈ cs
  · obtain ⟨front, back, rfl, hfront⟩ := List.eq_append_cons_of_mem hmem
    have hread : ∀ back, readName names (front ++ '>' :: back) =
        if !(front.head?.any isNameStart && front.all isNameChar) then .error .groupName
        else if names.contains front then .error .groupNameDuplicate
        else .ok (front, back) := by
      intro back
      rw [readName, dropWhile_mark hfront, takeWhile_mark hfront]
    rw [hread] at h
    split_ifs at h with hname hknown
    obtain ⟨rfl, rfl⟩ := Prod.mk.inj (Except.ok.inj h)
    refine ⟨List.IsSuffix.trans (List.suffix_cons '>' _) (List.suffix_append _ _), fun more => ?_⟩
    rw [List.append_assoc, List.cons_append, hread, if_neg hname, if_neg hknown]
  · have hall : cs.dropWhile (· != '>') = [] := List.dropWhile_eq_nil_iff.mpr (bne_mark hmem)
    rw [readName, hall] at h
    cases h

/-! Groups -/

def readNamed (r : Reading) (cs : List Char) : Except Fault (Parsed Reading) := do
  let (name, rest) ← readName r.names cs
  return ({ r with names := name :: r.names }.enter [], rest)

def readFlagged (r : Reading) (cs : List Char) : Except Fault (Parsed Reading) := do
  let (changes, rest) ← readFlags true false [] cs
  match rest with
  | ')' :: rest =>
    if changes.isEmpty then .error .repetitionMissing
    else
      let verbose := (Reading.verboseChange? changes).getD r.verbose
      return ({ r with verbose }.add (.flags changes), rest)
  | _ => return (r.enter changes, rest.drop 1)

section
variable {r : Reading} {cs tail : List Char} {c : Char}

theorem readGroup_end (hskip : skip r.verbose cs = []) : readGroup r cs = .ok (r.enter [], []) := by
  unfold readGroup
  rw [hskip]

theorem readGroup_plain (hskip : skip r.verbose cs = c :: tail) (hc : c ≠ '?') :
    readGroup r cs = .ok (r.enter [], c :: tail) := by
  unfold readGroup
  rw [hskip]
  simp [hc]

theorem readGroup_named (hskip : skip r.verbose cs = '?' :: '<' :: c :: tail)
    (hc : c ∉ ['=', '!']) : readGroup r cs = readNamed r (c :: tail) := by
  simp only [List.mem_cons, List.not_mem_nil, or_false, not_or] at hc
  unfold readGroup
  rw [hskip]
  simp [hc, readNamed]

theorem readGroup_namedWord (hskip : skip r.verbose cs = '?' :: 'P' :: '<' :: tail) :
    readGroup r cs = readNamed r tail := by
  unfold readGroup
  rw [hskip]
  rfl

theorem readGroup_flags (hskip : skip r.verbose cs = '?' :: c :: tail) (hc : c ∉ ['=', '!', '<', 'P']) :
    readGroup r cs = readFlagged r (c :: tail) := by
  unfold readGroup
  rw [hskip]
  split
  iterate 6
    · next heq =>
      obtain ⟨-, heq⟩ := List.cons.inj heq
      obtain ⟨rfl, -⟩ := List.cons.inj heq
      simp at hc
  · next heq =>
    obtain ⟨-, rfl⟩ := List.cons.inj heq
    rfl
  · next hother => exact absurd rfl (hother (c :: tail))

end

theorem apart_named {r r' : Reading} {cs rest : List Char} (h : readNamed r cs = .ok (r', rest)) :
    Apart (readNamed r) cs r' rest := by
  obtain ⟨⟨name, rest'⟩, hname, hpure⟩ := bind_eq_ok.mp h
  obtain ⟨rfl, rfl⟩ := Prod.mk.inj (Except.ok.inj hpure)
  refine (apart_name hname).imp List.suffix_rfl fun more out hout => ?_
  rw [readNamed, hout]
  rfl

theorem apart_flagged {r r' : Reading} {cs rest : List Char} (h : readFlagged r cs = .ok (r', rest)) :
    Apart (readFlagged r) cs r' rest := by
  obtain ⟨⟨changes, behind⟩, hflags, h⟩ := bind_eq_ok.mp h
  obtain ⟨hne, hapart⟩ := apart_flags hflags
  obtain ⟨c, tail, rfl⟩ := List.exists_cons_of_ne_nil hne
  have htail : tail <:+ cs := (List.suffix_cons _ _).trans hapart.suffix
  by_cases hc : c = ')'
  · subst hc
    simp only at h
    split_ifs at h with hempty
    obtain ⟨rfl, rfl⟩ := Prod.mk.inj (Except.ok.inj h)
    refine ⟨htail, fun more => ?_⟩
    rw [readFlagged, hapart.read]
    simp only [bind, Except.bind, List.cons_append, hempty, Bool.false_eq_true, if_false]
    rfl
  · have hread : ∀ more, readFlagged r (cs ++ more) = .ok (r.enter changes, tail ++ more) := by
      intro more
      rw [readFlagged, hapart.read]
      simp [bind, Except.bind, hc]
      rfl
    have hcs := hread []
    rw [List.append_nil, List.append_nil, readFlagged, hflags] at hcs
    obtain ⟨rfl, rfl⟩ := Prod.mk.inj (Except.ok.inj (h.symm.trans hcs))
    exact ⟨htail, hread⟩

/-- What can stand behind the question mark of a group that is read. -/
theorem group_start {r r' : Reading} {cs tail rest : List Char}
    (hskip : skip r.verbose cs = '?' :: tail) (h : readGroup r cs = .ok (r', rest)) :
    (∃ c name, tail = '<' :: c :: name ∧ c ∉ ['=', '!']) ∨ (∃ name, tail = 'P' :: '<' :: name) ∨
      ∃ c flags, tail = c :: flags ∧ c ∉ ['=', '!', '<', 'P'] := by
  revert h
  fun_cases readGroup r cs <;> intro h
  case case1 | case2 | case3 | case4 => cases h
  case case5 named name hskip' =>
    rw [hskip] at hskip'
    exact .inr (.inl ⟨name, (List.cons.inj hskip').2⟩)
  case case6 named name hequal hexclamation hskip' =>
    rw [hskip] at hskip'
    cases name with
    | nil => cases h
    | cons c name =>
      refine .inl ⟨c, name, (List.cons.inj hskip').2, ?_⟩
      simp only [List.mem_cons, List.not_mem_nil, or_false, not_or]
      exact ⟨fun hc => hequal name (hc ▸ rfl), fun hc => hexclamation name (hc ▸ rfl)⟩
  case case7 flags _ _ _ _ _ _ hskip' =>
    rw [hskip] at hskip'
    cases flags with
    | nil => cases h
    | cons c flags =>
      obtain ⟨x, hflags, -⟩ := bind_eq_ok.mp h
      exact .inr (.inr ⟨c, flags, (List.cons.inj hskip').2, flags_start hflags⟩)
  case case8 hother => exact absurd hskip (hother tail)

theorem reads_group {r r' : Reading} {cs rest : List Char} (h : readGroup r cs = .ok (r', rest)) :
    Reads (readGroup r) cs r' rest := by
  cases hskip : skip r.verbose cs with
  | nil =>
    rw [readGroup_end hskip] at h
    obtain ⟨rfl, rfl⟩ := Prod.mk.inj (Except.ok.inj h)
    refine ⟨List.nil_suffix, ?_⟩
    rcases skip_append_nil hskip with hmore | ⟨hmarked, hmore⟩
    · exact .closing fun more => readGroup_plain (hmore more) (by decide)
    · exact .comment hmarked fun more hline => readGroup_end (hmore more hline)
  | cons c tail =>
    by_cases hc : c = '?'
    · subst hc
      have htail := tail_suffix_of_skip hskip
      rcases group_start hskip h with ⟨c, name, rfl, hc⟩ | ⟨name, rfl⟩ | ⟨c, flags, rfl, hc⟩
      · rw [readGroup_named hskip hc] at h
        refine ((apart_named h).imp ((List.suffix_cons _ _).trans htail) fun more out hout => ?_).reads
        rw [readGroup_named (skip_append_cons hskip more) hc]
        exact hout
      · rw [readGroup_namedWord hskip] at h
        have hname : name <:+ cs := List.IsSuffix.trans ⟨['P', '<'], rfl⟩ htail
        refine ((apart_named h).imp hname fun more out hout => ?_).reads
        rw [readGroup_namedWord (skip_append_cons hskip more)]
        exact hout
      · rw [readGroup_flags hskip hc] at h
        refine ((apart_flagged h).imp htail fun more out hout => ?_).reads
        rw [readGroup_flags (skip_append_cons hskip more) hc]
        exact hout
    · rw [readGroup_plain hskip hc] at h
      obtain ⟨rfl, rfl⟩ := Prod.mk.inj (Except.ok.inj h)
      refine Apart.reads ⟨suffix_of_skip hskip, fun more => ?_⟩
      exact readGroup_plain (skip_append_cons hskip more) hc

/-! Counts -/

theorem readCountDigits_suffix (verbose : Bool) (fuel : Nat) (value : Option Nat) (cs : List Char) :
    (readCountDigits verbose fuel value cs).2 <:+ cs := by
  induction fuel generalizing value cs with
  | zero => exact List.suffix_rfl
  | succ fuel ih =>
    cases cs with
    | nil => exact List.suffix_rfl
    | cons c cs =>
      rw [readCountDigits]
      split_ifs
      · exact (ih _ _).trans ((skip_suffix _ _).trans (List.suffix_cons _ _))
      · exact List.suffix_rfl

theorem readCountDigits_append {verbose : Bool} {fuel fuel' : Nat} {value found : Option Nat}
    {cs rest : List Char} {c : Char} (hle : fuel ≤ fuel')
    (h : readCountDigits verbose fuel value cs = (found, c :: rest)) (hc : c.isDigit = false)
    (more : List Char) :
    readCountDigits verbose fuel' value (cs ++ more) = (found, c :: (rest ++ more)) := by
  induction fuel generalizing value cs fuel' with
  | zero =>
    obtain ⟨rfl, rfl⟩ := Prod.mk.inj h
    cases fuel' with
    | zero => rfl
    | succ fuel' => simp [readCountDigits, hc]
  | succ fuel ih =>
    obtain ⟨fuel', rfl⟩ : ∃ n, fuel' = n + 1 := ⟨fuel' - 1, by omega⟩
    cases cs with
    | nil => cases h
    | cons d cs =>
      rw [readCountDigits] at h
      rw [List.cons_append, readCountDigits]
      split_ifs at h ⊢ with hd
      · have hskip : skip verbose cs ≠ [] := by
          intro hnil
          rw [hnil] at h
          cases fuel <;> cases h
        rw [skip_append hskip]
        exact ih (Nat.le_of_succ_le_succ hle) h
      · obtain ⟨rfl, heq⟩ := Prod.mk.inj h
        obtain ⟨rfl, rfl⟩ := List.cons.inj heq
        rfl

theorem skipCountBlank_suffix (verbose : Bool) (fuel : Nat) (cs : List Char) :
    skipCountBlank verbose fuel cs <:+ cs := by
  induction fuel generalizing cs with
  | zero => exact List.suffix_rfl
  | succ fuel ih =>
    cases cs with
    | nil => exact List.suffix_rfl
    | cons c cs =>
      rw [skipCountBlank]
      split_ifs
      · exact (ih _).trans ((skip_suffix _ _).trans (List.suffix_cons _ _))
      · exact List.suffix_rfl

theorem skipCountBlank_append {verbose : Bool} {fuel fuel' : Nat} {cs rest : List Char} {c : Char}
    (hle : fuel ≤ fuel') (h : skipCountBlank verbose fuel cs = c :: rest) (hc : isBlank c = false)
    (more : List Char) : skipCountBlank verbose fuel' (cs ++ more) = c :: (rest ++ more) := by
  induction fuel generalizing cs fuel' with
  | zero =>
    obtain rfl : cs = c :: rest := h
    cases fuel' with
    | zero => rfl
    | succ fuel' => simp [skipCountBlank, hc]
  | succ fuel ih =>
    obtain ⟨fuel', rfl⟩ : ∃ n, fuel' = n + 1 := ⟨fuel' - 1, by omega⟩
    cases cs with
    | nil => cases h
    | cons d cs =>
      rw [skipCountBlank] at h
      rw [List.cons_append, skipCountBlank]
      split_ifs at h ⊢ with hd
      · have hskip : skip verbose cs ≠ [] := by
          intro hnil
          rw [hnil] at h
          cases fuel <;> cases h
        rw [skip_append hskip]
        exact ih (Nat.le_of_succ_le_succ hle) h
      · obtain ⟨rfl, rfl⟩ := List.cons.inj h
        rfl

/-- A count that ends at a mark. -/
theorem readCount_append {verbose : Bool} {cs rest : List Char} {n : Nat} {c : Char}
    (h : readCount verbose cs = .ok (n, c :: rest)) (hdigit : c.isDigit = false)
    (hblank : isBlank c = false) :
    c :: rest <:+ cs ∧ ∀ more, readCount verbose (cs ++ more) = .ok (n, c :: (rest ++ more)) := by
  have hsuffix := readCountDigits_suffix verbose (cs.length + 1) none (cs.dropWhile isBlank)
  unfold readCount at h
  simp only at h
  cases hdigits : readCountDigits verbose (cs.length + 1) none (cs.dropWhile isBlank) with
  | mk value behind =>
    rw [hdigits] at h hsuffix
    cases value with
    | none => cases h
    | some value =>
      simp only at h
      split_ifs at h with hsize
      obtain ⟨rfl, hskipped⟩ := Prod.mk.inj (Except.ok.inj h)
      have hstart : c :: rest <:+ cs := by
        rw [← hskipped]
        exact (skipCountBlank_suffix _ _ _).trans (hsuffix.trans (List.dropWhile_suffix _))
      refine ⟨hstart, fun more => ?_⟩
      cases behind with
      | nil => cases hskipped
      | cons d behind =>
        have hd : d.isDigit = false := by
          rw [← Bool.not_eq_true]
          intro hd
          rw [skipCountBlank, if_neg (by simp [isBlank_digit hd])] at hskipped
          obtain ⟨rfl, -⟩ := List.cons.inj hskipped
          rw [hd] at hdigit
          cases hdigit
        have hdrop : (cs ++ more).dropWhile isBlank = cs.dropWhile isBlank ++ more := by
          rw [List.dropWhile_append, if_neg]
          intro hempty
          rw [List.isEmpty_iff.mp hempty] at hsuffix
          cases List.suffix_nil.mp hsuffix
        rw [readCount, hdrop]
        simp only [readCountDigits_append (fuel_le cs more) hdigits hd, hsize, if_true]
        rw [← List.cons_append, skipCountBlank_append (fuel_le cs more) hskipped hblank]

def readMost (verbose : Bool) (least : Nat) (cs : List Char) : Except Fault (Parsed (Option Nat)) :=
  match cs with
  | ',' :: cs =>
    match skip verbose cs with
    | '\x7d' :: rest => pure (none, '\x7d' :: rest)
    | cs => do let (n, rest) ← readCount verbose cs; pure (some n, rest)
  | cs => pure (some least, cs)

section
variable {verbose : Bool} {cs : List Char}

theorem readMost_comma (least : Nat) (h : ∀ rest, skip verbose cs = '\x7d' :: rest → False) :
    readMost verbose least (',' :: cs) = (do
      let (n, rest) ← readCount verbose (skip verbose cs)
      pure (some n, rest)) := by
  rw [readMost]
  split
  · next heq => exact (h _ heq).elim
  · rfl

theorem readMost_other (verbose : Bool) (least : Nat) (h : ∀ rest, cs = ',' :: rest → False) :
    readMost verbose least cs = .ok (some least, cs) := by
  unfold readMost
  split
  · exact (h _ rfl).elim
  · rfl

end

theorem readMost_append {verbose : Bool} {least : Nat} {most : Option Nat} {cs rest : List Char}
    (h : readMost verbose least cs = .ok (most, '\x7d' :: rest)) :
    '\x7d' :: rest <:+ cs ∧ (cs.head? = some ',' ∨ cs.head? = some '\x7d') ∧
      ∀ more, readMost verbose least (cs ++ more) = .ok (most, '\x7d' :: (rest ++ more)) := by
  by_cases hcomma : cs.head? = some ','
  · obtain ⟨tail, rfl⟩ := List.head?_eq_some_iff.mp hcomma
    cases hskip : skip verbose tail with
    | nil =>
      rw [readMost, hskip] at h
      cases h
    | cons c inner =>
      have hinner := (suffix_of_skip hskip).trans (List.suffix_cons ',' tail)
      by_cases hc : c = '\x7d'
      · subst hc
        rw [readMost, hskip] at h
        obtain ⟨rfl, heq⟩ := Prod.mk.inj (Except.ok.inj h)
        obtain ⟨-, rfl⟩ := List.cons.inj heq
        refine ⟨hinner, .inl hcomma, fun more => ?_⟩
        rw [List.cons_append, readMost, skip_append_cons hskip]
        rfl
      · have hread : ∀ more, readMost verbose least (',' :: tail ++ more) = (do
            let (n, rest) ← readCount verbose (c :: inner ++ more)
            pure (some n, rest)) := by
          intro more
          have hmore := skip_append_cons hskip more
          have hother : ∀ rest, skip verbose (tail ++ more) = '\x7d' :: rest → False :=
            fun _ heq => hc (List.cons.inj (hmore.symm.trans heq)).1
          rw [List.cons_append, readMost_comma least hother, hmore]
          rfl
        have hcs := hread []
        rw [List.append_nil, List.append_nil, h] at hcs
        obtain ⟨⟨n, rest'⟩, hcount, hpure⟩ := bind_eq_ok.mp hcs.symm
        obtain ⟨rfl, rfl⟩ := Prod.mk.inj (Except.ok.inj hpure)
        obtain ⟨hsuffix, hmore⟩ := readCount_append hcount rfl rfl
        refine ⟨hsuffix.trans hinner, .inl hcomma, fun more => ?_⟩
        rw [hread, hmore]
        rfl
  · have hread : readMost verbose least cs = .ok (some least, cs) :=
      readMost_other verbose least fun _ heq => hcomma (heq ▸ rfl)
    obtain ⟨rfl, rfl⟩ := Prod.mk.inj (Except.ok.inj (hread.symm.trans h))
    exact ⟨List.suffix_rfl, .inr rfl, fun more => rfl⟩

/-- Where a question mark may make a repetition lazy. -/
theorem reads_lazy {α : Type} (a : α) (cs : List Char) :
    Reads (fun cs => .ok (a, dropLazy cs)) cs a (dropLazy cs) := by
  cases cs with
  | nil => exact ⟨List.suffix_rfl, .closing fun _ => rfl⟩
  | cons c cs =>
    by_cases hc : c = '?'
    · subst hc
      exact Apart.reads ⟨List.suffix_cons _ _, fun _ => rfl⟩
    · have hkept : ∀ tail, dropLazy (c :: tail) = c :: tail := by
        intro tail
        rw [dropLazy]
        exact fun _ heq => hc (List.cons.inj heq).1
      rw [hkept]
      refine Apart.reads ⟨List.suffix_rfl, fun more => ?_⟩
      rw [List.cons_append, hkept]

/-- Reads the closing brace of counts and the question mark that makes a repetition lazy. -/
def readBrace (verbose : Bool) (least : Nat) (most : Option Nat) (cs : List Char) :
    Except Fault (Parsed (Nat × Option Nat)) :=
  match cs with
  | '\x7d' :: cs =>
    if most.all (least ≤ ·) then
      match skip verbose cs with
      | '?' :: rest => return ((least, most), rest)
      | cs => return ((least, most), cs)
    else .error .repetitionCount
  | _ => .error .repetitionCount

theorem readBrace_ordered {least : Nat} {most : Option Nat} (verbose : Bool) (cs : List Char)
    (h : most.all (least ≤ ·) = true) :
    readBrace verbose least most ('\x7d' :: cs) = .ok ((least, most), dropLazy (skip verbose cs)) := by
  rw [readBrace, if_pos h]
  split
  · next heq =>
    rw [heq]
    rfl
  · next hother =>
    rw [dropLazy.eq_2 _ hother]
    rfl

theorem of_readBrace {verbose : Bool} {least : Nat} {most : Option Nat} {cs rest : List Char}
    {counts : Nat × Option Nat} (h : readBrace verbose least most cs = .ok (counts, rest)) :
    ∃ behind, cs = '\x7d' :: behind ∧ most.all (least ≤ ·) = true := by
  unfold readBrace at h
  split at h
  · next behind =>
    split_ifs at h with horder
    exact ⟨behind, rfl, horder⟩
  · cases h

theorem readCounts_eq (verbose : Bool) (cs : List Char) :
    readCounts verbose cs = (do
      let (least, cs) ← readCount verbose (skip verbose cs)
      let (most, cs) ← readMost verbose least cs
      readBrace verbose least most cs) := by
  unfold readCounts
  refine bind_congr fun x => ?_
  obtain ⟨least, cs⟩ := x
  simp only
  split
  · split
    · next heq =>
      rw [readMost, heq]
      rfl
    · next hother =>
      rw [readMost_comma least hother, bind_assoc]
      rfl
  · next hother =>
    rw [readMost_other verbose least hother]
    rfl

theorem readCounts_cases {verbose : Bool} {cs rest : List Char} {counts : Nat × Option Nat}
    (h : readCounts verbose cs = .ok (counts, rest)) :
    ∃ behind, behind <:+ cs ∧
      ∀ more, readCounts verbose (cs ++ more) = .ok (counts, dropLazy (skip verbose (behind ++ more))) := by
  rw [readCounts_eq] at h
  obtain ⟨⟨least, cs'⟩, hleast, h⟩ := bind_eq_ok.mp h
  obtain ⟨⟨most, cs''⟩, hmost, h⟩ := bind_eq_ok.mp h
  obtain ⟨behind, rfl, horder⟩ := of_readBrace h
  obtain ⟨rfl, -⟩ := Prod.mk.inj (Except.ok.inj ((readBrace_ordered verbose behind horder).symm.trans h))
  obtain ⟨hsuffix, hhead, hmore⟩ := readMost_append hmost
  obtain ⟨c, tail, rfl, hdigit, hblank⟩ :
      ∃ c tail, cs' = c :: tail ∧ c.isDigit = false ∧ isBlank c = false := by
    rcases hhead with hhead | hhead
    · obtain ⟨tail, rfl⟩ := List.head?_eq_some_iff.mp hhead
      exact ⟨_, tail, rfl, rfl, rfl⟩
    · obtain ⟨tail, rfl⟩ := List.head?_eq_some_iff.mp hhead
      exact ⟨_, tail, rfl, rfl, rfl⟩
  obtain ⟨hstart, hcount⟩ := readCount_append hleast hdigit hblank
  have hskip : skip verbose cs ≠ [] := by
    intro hnil
    rw [hnil] at hleast
    cases hleast
  refine ⟨behind, ?_, fun more => ?_⟩
  · exact (List.suffix_cons _ _).trans (hsuffix.trans (hstart.trans (skip_suffix _ _)))
  · rw [readCounts_eq, skip_append hskip, hcount]
    simp only [bind, Except.bind, ← List.cons_append, hmore]
    exact readBrace_ordered verbose (behind ++ more) horder

theorem reads_counts {verbose : Bool} {cs rest : List Char} {counts : Nat × Option Nat}
    (h : readCounts verbose cs = .ok (counts, rest)) : Reads (readCounts verbose) cs counts rest := by
  obtain ⟨behind, hsuffix, hmore⟩ := readCounts_cases h
  have hrest := hmore []
  rw [List.append_nil, List.append_nil, h] at hrest
  obtain ⟨-, rfl⟩ := Prod.mk.inj (Except.ok.inj hrest)
  have hlazy : Reads (fun cs => .ok (counts, dropLazy (skip verbose cs))) behind counts
      (dropLazy (skip verbose behind)) := by
    refine Reads.skip (R := fun cs => .ok (counts, dropLazy cs)) rfl ?_ fun _ => reads_lazy counts _
    exact fun hskip => ⟨by rw [hskip]; rfl, fun _ => rfl⟩
  exact hlazy.imp hsuffix fun more out hout => (hmore more).trans hout

/-! Elements -/

/-- A repetition that a question mark may make lazy. -/
theorem reads_repeated {r r' : Reading} {least : Nat} {most : Option Nat} {cs rest : List Char}
    (h : (do return (← r.repeated least most, dropLazy cs) : Except Fault (Parsed Reading)) =
      .ok (r', rest)) :
    Reads (fun cs => do return (← r.repeated least most, dropLazy cs)) cs r' rest := by
  obtain ⟨repeated, hrepeated, hpure⟩ := bind_eq_ok.mp h
  obtain ⟨rfl, rfl⟩ := Prod.mk.inj (Except.ok.inj hpure)
  simp only [hrepeated]
  exact reads_lazy _ cs

theorem reads_element {r r' : Reading} {c : Char} {cs rest : List Char}
    (h : readElement r c cs = .ok (r', rest)) : Reads (readElement r c) cs r' rest := by
  revert h
  fun_cases readElement r c cs <;> intro h
  case case1 => exact reads_group h
  case case2 =>
    obtain ⟨left, hleave, hpure⟩ := bind_eq_ok.mp h
    obtain ⟨rfl, rfl⟩ := Prod.mk.inj (Except.ok.inj hpure)
    refine Apart.reads ⟨List.suffix_rfl, fun more => ?_⟩
    rw [readElement, hleave]
    rfl
  case case4 =>
    obtain ⟨⟨t, behind⟩, hclass, hpure⟩ := bind_eq_ok.mp h
    obtain ⟨rfl, rfl⟩ := Prod.mk.inj (Except.ok.inj hpure)
    refine ((apart_class hclass).imp List.suffix_rfl fun more out hout => ?_).reads
    rw [readElement, hout]
    rfl
  case case5 | case6 | case7 => exact reads_repeated h
  case case8 =>
    obtain ⟨⟨⟨least, most⟩, behind⟩, hcounts, h⟩ := bind_eq_ok.mp h
    obtain ⟨repeated, hrepeated, hpure⟩ := bind_eq_ok.mp h
    obtain ⟨rfl, rfl⟩ := Prod.mk.inj (Except.ok.inj hpure)
    refine (reads_counts hcounts).imp List.suffix_rfl fun more out hout => ?_
    simp only [readElement, hout, bind, Except.bind, hrepeated]
    rfl
  case case9 =>
    obtain ⟨⟨a, behind⟩, hescape, hpure⟩ := bind_eq_ok.mp h
    obtain ⟨rfl, rfl⟩ := Prod.mk.inj (Except.ok.inj hpure)
    refine (reads_escape hescape).imp List.suffix_rfl fun more out hout => ?_
    rw [readElement, hout]
    rfl
  case case3 | case10 | case11 | case12 =>
    obtain ⟨rfl, rfl⟩ := Prod.mk.inj (Except.ok.inj h)
    exact Apart.reads ⟨List.suffix_rfl, fun more => rfl⟩
  case case13 =>
    obtain ⟨rfl, rfl⟩ := Prod.mk.inj (Except.ok.inj h)
    refine Apart.reads ⟨List.suffix_rfl, fun more => ?_⟩
    rw [readElement] <;> assumption

end MediaCatalogue.Pattern
