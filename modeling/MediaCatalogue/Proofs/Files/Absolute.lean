import MediaCatalogue.Proofs.Files.Ancestors

/-! Absolute paths. What is joined to one is absolute, and so are the directories above one. -/

namespace MediaCatalogue.Path

variable {p q : Path}

theorem isAbsolute_iff : p.isAbsolute = true ↔ ∃ cs, p.chars = '/' :: cs := by
  simp [isAbsolute, List.head?_eq_some_iff]

theorem isAbsolute_join (hp : p.isAbsolute = true) (q : Path) : (p.join q).isAbsolute = true := by
  obtain ⟨cs, hcs⟩ := isAbsolute_iff.mp hp
  rw [join]
  split_ifs with hq
  · exact hq
  · simp [isAbsolute, hcs]
  · simp [isAbsolute, hcs]

theorem split_of_isAbsolute (hp : p.isAbsolute = true) : p.split.1 = .absolute := by
  obtain ⟨cs, hcs⟩ := isAbsolute_iff.mp hp
  have hsegments : p.segments = [] :: splitAtSlash cs := by
    rw [segments, hcs, splitAtSlash, if_pos rfl]
  rw [split_absolute hsegments (splitAtSlash_ne_nil cs)]

theorem isAbsolute_parent (hp : p.isAbsolute = true) (h : p.parent? = some q) :
    q.isAbsolute = true := by
  have hsplit := split_of_isAbsolute hp
  obtain ⟨hdot, -⟩ | ⟨front, _, _, _, -, -, -, rfl⟩ := parent_eq_some h
  · rw [hsplit] at hdot
    cases hdot
  · rw [hsplit]
    rfl

theorem Lineage.isAbsolute {dirs : List Path} (h : Lineage p dirs) (hp : p.isAbsolute = true) :
    ∀ d ∈ dirs, d.isAbsolute = true := by
  induction h with
  | top last =>
    intro d hd
    exact List.mem_singleton.mp hd ▸ hp
  | step parent _ ih => exact List.forall_mem_cons.mpr ⟨hp, ih (isAbsolute_parent hp parent)⟩

/-- A path that ends in a name has a parent. -/
theorem exists_parent_of_name {front : List Component} {name : List Char}
    (h : p.components = front ++ [.name name]) : ∃ q, p.parent? = some q := by
  rcases hsplit : p.split with ⟨lead, body⟩
  simp only [components_eq, hsplit] at h
  simp only [parent?, hsplit]
  split
  · next heq =>
    -- nothing but the start of the path stands for something, and this is no name
    have hbody : bodyComponents body = [] := by
      refine bodyComponents_skipped fun s hs => ?_
      exact List.dropWhile_eq_nil_iff.mp heq s (List.mem_reverse.mpr hs)
    rw [hbody, List.append_nil] at h
    cases lead <;> simp [Lead.components, List.singleton_eq_append_iff] at h
  · exact ⟨_, rfl⟩

end MediaCatalogue.Path
