import Mathlib
import MediaCatalogue.Proofs.Files.Path

/-! The components of a path that is joined to another, and of the directories above a path. A parent has
all components but the last, so the way up ends, and no two paths on it lead to the same place. -/

namespace MediaCatalogue.Path

/-! Paths with given components -/

/-- The components that segments behind the start of a path stand for. -/
def bodyComponents (body : List (List Char)) : List Component := body.filterMap componentOf

@[simp]
theorem bodyComponents_append (front rest : List (List Char)) :
    bodyComponents (front ++ rest) = bodyComponents front ++ bodyComponents rest :=
  List.filterMap_append

theorem components_eq (p : Path) :
    p.components = p.split.1.components ++ bodyComponents p.split.2 := rfl

theorem componentOf_eq_none {s : List Char} : componentOf s = none ↔ isSkipped s = true := by
  unfold componentOf isSkipped
  split_ifs <;> simp_all

theorem bodyComponents_skipped {body : List (List Char)} (h : ∀ s ∈ body, isSkipped s = true) :
    bodyComponents body = [] :=
  List.filterMap_eq_nil_iff.mpr fun s hs => componentOf_eq_none.mpr (h s hs)

theorem split_absolute {p : Path} {body : List (List Char)} (h : p.segments = [] :: body)
    (hne : body ≠ []) : p.split = (.absolute, body) := by
  obtain ⟨s, ss, rfl⟩ := List.exists_cons_of_ne_nil hne
  simp only [split, h]

theorem split_dot {p : Path} {body : List (List Char)} (h : p.segments = ['.'] :: body) :
    p.split = (.dot, body) := by
  simp only [split, h]

theorem split_relative {p : Path} {s : List Char} {ss : List (List Char)} (h : p.segments = s :: ss)
    (hs : s ≠ [] ∧ s ≠ ['.']) : p.split = (.relative, s :: ss) := by
  obtain ⟨_, _, hsegments, -⟩ | ⟨_, hsegments, -⟩ | hsplit := p.segments_split
  · exact absurd (List.cons.inj (h.symm.trans hsegments)).1 hs.1
  · exact absurd (List.cons.inj (h.symm.trans hsegments)).1 hs.2
  · rw [hsplit, h]

theorem split_eq_relative {p : Path} (h : p.split.1 = .relative) :
    p.split = (.relative, p.segments) := by
  obtain ⟨_, _, -, hsplit⟩ | ⟨_, -, hsplit⟩ | hsplit := p.segments_split
  · rw [hsplit] at h
    cases h
  · rw [hsplit] at h
    cases h
  · exact hsplit

/-- A relative path starts with a name, unless it is empty. -/
theorem head_of_relative {p : Path} (h : p.split = (.relative, p.segments)) {s : List Char}
    {ss : List (List Char)} (hs : p.segments = s :: ss) : s ≠ ['.'] ∧ (s = [] → ss = []) := by
  refine ⟨?_, ?_⟩
  · rintro rfl
    rw [split_dot hs] at h
    cases h
  · rintro rfl
    by_contra hne
    rw [split_absolute hs hne] at h
    cases h

theorem splitAtSlash_append_slash (a b : List Char) :
    splitAtSlash (a ++ '/' :: b) = splitAtSlash a ++ splitAtSlash b := by
  induction a with
  | nil => rfl
  | cons c a ih =>
    obtain ⟨s, ss, hss⟩ := List.exists_cons_of_ne_nil (splitAtSlash_ne_nil a)
    rw [List.cons_append, splitAtSlash, splitAtSlash, ih, hss]
    split_ifs <;> rfl

/-- What stands behind a separator adds its own components. -/
theorem components_append_slash {a : List Char} (ha : a ≠ []) (b : List Char) :
    components ⟨a ++ '/' :: b⟩ = components ⟨a⟩ ++ bodyComponents (splitAtSlash b) := by
  have hsegments : segments ⟨a ++ '/' :: b⟩ = segments ⟨a⟩ ++ splitAtSlash b :=
    splitAtSlash_append_slash a b
  obtain ⟨body, hne, ha', hsplit⟩ | ⟨body, ha', hsplit⟩ | hsplit := segments_split ⟨a⟩
  · rw [ha', List.cons_append] at hsegments
    rw [components_eq, components_eq, hsplit,
      split_absolute hsegments (List.append_ne_nil_of_left_ne_nil hne _)]
    simp
  · rw [ha', List.cons_append] at hsegments
    rw [components_eq, components_eq, hsplit, split_dot hsegments]
    simp
  · -- the first segment is a name, as `a` is not empty, so the longer path is relative as well
    obtain ⟨s, ss, hs⟩ := List.exists_cons_of_ne_nil (splitAtSlash_ne_nil a)
    obtain ⟨hdot, hempty⟩ := head_of_relative hsplit hs
    have hne : s ≠ [] := by
      intro hnil
      have hjoin := joinSegments_splitAtSlash a
      rw [hs, hempty hnil, joinSegments_singleton, hnil] at hjoin
      exact ha hjoin.symm
    have hsegments' := hsegments
    rw [segments, segments, hs, List.cons_append] at hsegments'
    rw [components_eq, components_eq, hsplit, split_relative hsegments' ⟨hne, hdot⟩, segments, hs]
    simp [Lead.components, ← bodyComponents_append]

theorem components_slash (b : List Char) :
    components ⟨'/' :: b⟩ = .root :: bodyComponents (splitAtSlash b) := by
  have hsegments : segments ⟨'/' :: b⟩ = [] :: splitAtSlash b := by
    rw [segments, splitAtSlash, if_pos rfl]
  rw [components_eq, split_absolute hsegments (splitAtSlash_ne_nil b)]
  rfl

theorem components_behind_slash (a b : List Char) :
    components ⟨a ++ '/' :: b⟩ = components ⟨a ++ ['/']⟩ ++ bodyComponents (splitAtSlash b) := by
  by_cases ha : a = []
  · subst ha
    rw [List.nil_append, List.nil_append, components_slash, components_slash]
    rfl
  · rw [components_append_slash ha, components_append_slash ha]
    simp [splitAtSlash, bodyComponents, componentOf]

/-- A relative path adds its components to those of the path that it is joined to. -/
theorem components_join {d q : Path} (hd : d.chars ≠ []) (hq : q.isAbsolute = false) :
    (d.join q).components = d.components ++ bodyComponents q.segments := by
  have hrelative : ¬ q.isAbsolute = true := by simp [hq]
  rw [join, if_neg hrelative]
  split_ifs with hjoin
  · obtain ⟨front, hfront⟩ := List.getLast?_eq_some_iff.mp (hjoin.resolve_left hd)
    obtain ⟨chars⟩ := d
    obtain rfl : chars = front ++ ['/'] := hfront
    rw [List.append_assoc, List.singleton_append, components_behind_slash]
    rfl
  · rw [components_append_slash hd]
    rfl

/-- The path of a name in a directory has one component more than that of the directory. -/
theorem components_join_name (d : Path) {name : List Char} (hslash : '/' ∉ name)
    (hname : componentOf name = some (.name name)) :
    (d.join ⟨name⟩).components = d.components ++ [.name name] := by
  have hne : name ≠ [] ∧ name ≠ ['.'] := by
    constructor <;> rintro rfl <;> simp [componentOf] at hname
  have hrelative : isAbsolute ⟨name⟩ = false := by
    cases name with
    | nil => rfl
    | cons c cs =>
      have hc : c ≠ '/' := fun h => hslash (h ▸ List.mem_cons_self)
      simp [isAbsolute, hc]
  have hbody : bodyComponents [name] = [.name name] := by
    rw [bodyComponents, List.filterMap_cons_some hname]
    rfl
  have hsegments : segments ⟨name⟩ = [name] := splitAtSlash_plain hslash
  by_cases hd : d.chars = []
  · have hjoin : d.join ⟨name⟩ = ⟨name⟩ := by
      rw [join, hd, if_neg (by simp [hrelative]), if_pos (.inl rfl), List.nil_append]
    obtain ⟨chars⟩ := d
    obtain rfl : chars = [] := hd
    rw [hjoin, components_eq, split_relative hsegments hne, hbody]
    rfl
  · rw [components_join hd hrelative, hsegments, hbody]

/-! Parents -/

/-- A start and segments behind it, of which the first one says something if there is no start. -/
theorem components_unsplit (lead : Lead) {ss : List (List Char)} (hslash : ∀ s ∈ ss, '/' ∉ s)
    (hhead : lead = .relative → ∀ s ∈ ss.head?, s ≠ [] ∧ s ≠ ['.']) :
    (unsplit lead ss).components = lead.components ++ bodyComponents ss := by
  by_cases hne : ss = []
  · subst hne
    cases lead <;> rfl
  have hsegments := splitAtSlash_joinSegments hslash hne
  cases lead with
  | absolute =>
    rw [unsplit, components_slash, hsegments]
    rfl
  | relative =>
    obtain ⟨s, ss, rfl⟩ := List.exists_cons_of_ne_nil hne
    have hsplit : split ⟨joinSegments (s :: ss)⟩ = (.relative, s :: ss) :=
      split_relative hsegments (hhead rfl s rfl)
    rw [unsplit, components_eq, hsplit]
  | dot =>
    obtain ⟨s, ss, rfl⟩ := List.exists_cons_of_ne_nil hne
    have happend := components_append_slash (a := ['.']) (by decide) (joinSegments (s :: ss))
    rw [hsegments] at happend
    exact happend

/-- A parent has the components of the path but for the last one. -/
theorem components_parent {p q : Path} (h : p.parent? = some q) :
    ∃ c, p.components = q.components ++ [c] := by
  obtain ⟨hlead, hskipped, rfl⟩ | ⟨front, between, s, behind, hbody, hskipped, hs, rfl⟩ :=
    parent_eq_some h
  · refine ⟨.here, ?_⟩
    rw [components_eq, hlead, bodyComponents_skipped hskipped]
    rfl
  · obtain ⟨c, hc⟩ : ∃ c, componentOf s = some c := by
      rw [← Option.ne_none_iff_exists', ne_eq, componentOf_eq_none, hs]
      simp
    have hrest : bodyComponents (between ++ s :: behind) = [c] := by
      rw [bodyComponents_append, List.forall_mem_append] at *
      rw [bodyComponents_skipped hskipped.1, bodyComponents, List.filterMap_cons_some hc]
      exact congrArg (c :: ·) (bodyComponents_skipped hskipped.2)
    refine ⟨c, ?_⟩
    rw [components_eq, hbody, bodyComponents_append, hrest, components_unsplit, List.append_assoc]
    · intro x hx
      exact slash_notMem_of_mem_split (hbody ▸ List.mem_append_left _ hx)
    · -- the first segment of a relative path can be empty only if it is the whole path
      intro hlead x hx
      obtain ⟨front, rfl⟩ := List.head?_eq_some_iff.mp hx
      have hsplit := split_eq_relative hlead
      rw [hsplit] at hbody
      obtain ⟨hdot, hempty⟩ := head_of_relative hsplit hbody
      exact ⟨fun hnil => by simpa using hempty hnil, hdot⟩

theorem length_bodyComponents_le (ss : List (List Char)) :
    (bodyComponents ss).length ≤ (joinSegments ss).length := by
  have hone : ∀ s, (bodyComponents [s]).length ≤ s.length := by
    intro s
    cases s with
    | nil => rfl
    | cons c cs => exact le_trans (List.length_filterMap_le _ _) (Nat.succ_le_succ (Nat.zero_le _))
  induction ss with
  | nil => exact le_rfl
  | cons s ss ih =>
    have hcons : bodyComponents (s :: ss) = bodyComponents [s] ++ bodyComponents ss :=
      bodyComponents_append [s] ss
    have hs := hone s
    by_cases hne : ss = []
    · subst hne
      simpa using hs
    · rw [hcons, joinSegments_cons hne, List.length_append, List.length_append, List.length_cons]
      omega

theorem length_unsplit_ge (lead : Lead) (ss : List (List Char)) :
    lead.components.length + (joinSegments ss).length ≤ (unsplit lead ss).chars.length := by
  cases lead with
  | absolute => simp [Lead.components, unsplit, Nat.add_comm]
  | relative => simp [Lead.components, unsplit]
  | dot =>
    cases ss with
    | nil => simp [Lead.components, unsplit, joinSegments]
    | cons s ss =>
      simp only [Lead.components, unsplit, List.length_cons, List.length_nil]
      omega

theorem length_components_le (p : Path) : p.components.length ≤ p.chars.length := by
  have hbody := length_bodyComponents_le p.split.2
  have hlead := length_unsplit_ge p.split.1 p.split.2
  rw [unsplit_split] at hlead
  rw [components_eq, List.length_append]
  omega

/-! The way up -/

/-- A path, its parent and so on, up to a path without a parent. -/
inductive Lineage : Path → List Path → Prop where
  | top {p : Path} (last : p.parent? = none) : Lineage p [p]
  | step {p q : Path} {above : List Path} (parent : p.parent? = some q) (rest : Lineage q above) :
      Lineage p (p :: above)

theorem lineage_ancestorsWithin {fuel : ℕ} {p : Path} (h : p.components.length ≤ fuel) :
    Lineage p (ancestorsWithin fuel p) := by
  induction fuel generalizing p with
  | zero =>
    -- a parent would have a component less than none
    have hnil : p.components = [] := List.eq_nil_of_length_eq_zero (Nat.le_zero.mp h)
    refine .top (Option.eq_none_iff_forall_ne_some.mpr fun q hq => ?_)
    obtain ⟨c, hc⟩ := components_parent hq
    simp [hnil] at hc
  | succ fuel ih =>
    rw [ancestorsWithin]
    cases hparent : p.parent? with
    | none => exact .top hparent
    | some q =>
      obtain ⟨c, hc⟩ := components_parent hparent
      refine .step hparent (ih ?_)
      rw [hc, List.length_append, List.length_singleton] at h
      omega

/-- The ancestors are all there. -/
theorem lineage_ancestors (p : Path) : Lineage p p.ancestors :=
  lineage_ancestorsWithin (Nat.le_succ_of_le p.length_components_le)

theorem Lineage.isPrefix {p : Path} {dirs : List Path} (h : Lineage p dirs) :
    ∀ d ∈ dirs, d.components <+: p.components := by
  induction h with
  | top last =>
    intro d hd
    obtain rfl := List.mem_singleton.mp hd
    exact List.prefix_rfl
  | step parent _ ih =>
    intro d hd
    obtain rfl | hd := List.mem_cons.mp hd
    · exact List.prefix_rfl
    · obtain ⟨c, hc⟩ := components_parent parent
      exact (ih d hd).trans ⟨[c], hc.symm⟩

/-- A directory above a path has some of its components, from the start on, but not all. -/
def Above (upper lower : Path) : Prop :=
  upper.components <+: lower.components ∧ upper.components ≠ lower.components

/-- Every path on the way up is above all before it. -/
theorem Lineage.pairwise {p : Path} {dirs : List Path} (h : Lineage p dirs) :
    dirs.Pairwise fun lower upper => Above upper lower := by
  induction h with
  | top last => exact List.pairwise_singleton _ _
  | @step p q above parent rest ih =>
    refine List.pairwise_cons.mpr ⟨?_, ih⟩
    intro d hd
    obtain ⟨c, hc⟩ := components_parent parent
    have hfront := rest.isPrefix d hd
    have hlength := hfront.length_le
    refine ⟨hfront.trans ⟨[c], hc.symm⟩, fun heq => ?_⟩
    rw [heq, hc, List.length_append, List.length_singleton] at hlength
    omega

theorem Above.asymm {a b : Path} (h : Above a b) : ¬ Above b a := fun h' =>
  h.2 (h.1.eq_of_length_le h'.1.length_le)

/-- On the way up those that are above a path are behind it. -/
theorem Lineage.mem_above_iff {p h d : Path} {below above : List Path}
    (hp : Lineage p (below ++ h :: above)) (hd : d ∈ below ++ h :: above) : d ∈ above ↔ Above d h := by
  have hpairwise := hp.pairwise
  rw [List.pairwise_append, List.pairwise_cons] at hpairwise
  obtain ⟨-, ⟨hbehind, -⟩, hbefore⟩ := hpairwise
  refine ⟨hbehind d, fun habove => ?_⟩
  rcases List.mem_append.mp hd with hbelow | hd
  · exact absurd (hbefore d hbelow h List.mem_cons_self) habove.asymm
  · obtain rfl | hd := List.mem_cons.mp hd
    · exact absurd rfl habove.2
    · exact hd

end MediaCatalogue.Path
