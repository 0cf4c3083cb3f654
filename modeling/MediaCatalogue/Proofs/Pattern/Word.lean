import MediaCatalogue.Proofs.Pattern.Anchor

/-! Words as patterns. A letter stands for itself in a pattern, so a word of letters always compiles, between
anchors as well, as long as it is not so long that its automaton takes too much memory. -/

namespace MediaCatalogue.Pattern

def IsWord (cs : List Char) : Prop := ∀ c ∈ cs, c.isAlpha = true

def wordTree (cs : List Char) : Tree := .ofSequence (cs.map fun c => .literal { char := c })

def wordNode : List Char → Node
  | [] => .empty
  | [c] => .one (.single c)
  | c :: cs => .sequence (.one (.single c)) (wordNode cs)

section
variable {c : Char} {cs : List Char}

theorem isAlpha_le (h : c.isAlpha = true) : c.val ≤ 0x7f := by
  simp only [Char.isAlpha, Char.isUpper, Char.isLower, Bool.or_eq_true, Bool.and_eq_true,
    decide_eq_true_eq] at h
  rcases h with h | h
  · exact UInt32.le_trans h.2 (by decide)
  · exact UInt32.le_trans h.2 (by decide)

theorem readElement_letter (h : c.isAlpha = true) (r : Reading) :
    readElement r c cs = .ok (r.add (.literal { char := c }), cs) := by
  unfold readElement
  split
  case h_13 => rfl
  all_goals exact absurd h (by decide)

theorem run_word (h : IsWord cs) {r : Reading} (hverbose : r.verbose = false) :
    Run r cs { r with items := (cs.map fun c => .literal { char := c }).reverse ++ r.items } := by
  have hskip : ∀ cs, skip r.verbose cs = cs := by
    intro cs
    rw [hverbose]
    rfl
  induction cs generalizing r with
  | nil => exact .done (hskip [])
  | cons c cs ih =>
    refine .step (hskip (c :: cs)) (readElement_letter (h c List.mem_cons_self) r) ?_
    have hrest := ih (fun d hd => h d (List.mem_cons_of_mem c hd))
      (r := r.add (.literal { char := c })) hverbose hskip
    rwa [List.map_cons, List.reverse_cons, List.append_assoc]

theorem wordTree_cons (c d : Char) (cs : List Char) :
    wordTree (c :: d :: cs) = .sequence (.literal { char := c }) (wordTree (d :: cs)) := rfl

theorem depth_wordTree_sequence (cs : List Char) : (wordTree cs).depth .sequence = 0 := by
  induction cs with
  | nil => rfl
  | cons c cs ih =>
    cases cs with
    | nil => rfl
    | cons d cs =>
      rw [wordTree_cons, Tree.depth, ih]
      rfl

theorem depth_wordTree (cs : List Char) : (wordTree cs).depth .neither ≤ 1 := by
  cases cs with
  | nil => exact Nat.zero_le 1
  | cons c cs =>
    cases cs with
    | nil => exact Nat.zero_le 1
    | cons d cs =>
      rw [wordTree_cons, Tree.depth, depth_wordTree_sequence]
      exact le_rfl

theorem readTree_word (h : IsWord cs) : readTree cs = .ok (wordTree cs) := by
  have hrun : Run {} cs { items := (cs.map fun c => .literal { char := c }).reverse } := by
    simpa using run_word h (r := {}) rfl
  have hvalue : Reading.value { items := (cs.map fun c => .literal { char := c }).reverse } =
      wordTree cs := by
    simp [Reading.value, Tree.ofAlternatives, wordTree]
  have hdepth := depth_wordTree cs
  rw [readTree_of_run hrun, hvalue, if_neg (by simp), if_neg]
  exact Nat.not_lt.mpr (hdepth.trans (by decide))

theorem node_wordTree (cs : List Char) : ({} : Flags).node (wordTree cs) = .ok (wordNode cs, {}) := by
  induction cs with
  | nil => rfl
  | cons c cs ih =>
    cases cs with
    | nil => rfl
    | cons d cs =>
      have hletter : ({} : Flags).node (.literal { char := c }) = .ok (.one (.single c), {}) := rfl
      exact bind_eq_ok.mpr ⟨_, hletter, bind_eq_ok.mpr ⟨_, ih, rfl⟩⟩

theorem bytes_letter (h : c.isAlpha = true) : (CharSet.single c).bytes = stateBytes := by
  have hsize : c.utf8Size = 1 := Char.utf8Size_eq_one_iff.mpr (isAlpha_le h)
  rw [CharSet.single, CharSet.bytes, if_pos rfl, hsize, Nat.mul_one]

theorem bytes_wordNode (h : IsWord cs) : (wordNode cs).bytes ≤ stateBytes * (cs.length + 1) := by
  induction cs with
  | nil => exact le_rfl
  | cons c cs ih =>
    have hletter := bytes_letter (h c List.mem_cons_self)
    have hrest := ih fun d hd => h d (List.mem_cons_of_mem c hd)
    rw [List.length_cons, Nat.mul_succ]
    cases cs with
    | nil =>
      rw [wordNode, Node.bytes, hletter]
      exact Nat.le_add_left _ _
    | cons d cs =>
      have hnode : (wordNode (c :: d :: cs)).bytes = stateBytes + (wordNode (d :: cs)).bytes :=
        congrArg (· + (wordNode (d :: cs)).bytes) hletter
      rw [hnode, Nat.add_comm]
      exact Nat.add_le_add_right hrest stateBytes

/-- Two more states are left for the anchors. -/
theorem compile_word {word : String} (h : IsWord word.toList)
    (hshort : stateBytes * (word.toList.length + 3) ≤ maxBytes) (anchored : Bool) :
    ∃ node, compile word anchored = .ok node := by
  have hbytes : (wordNode word.toList).bytes + 2 * stateBytes ≤ maxBytes := by
    have hword := bytes_wordNode h
    rw [Nat.mul_add] at hshort hword
    omega
  have hbare : compile word false = .ok (wordNode word.toList) := by
    rw [compile_false, compileText_of_node (readTree_word h) (node_wordTree _), if_neg (by omega)]
  cases anchored with
  | false => exact ⟨_, hbare⟩
  | true =>
    rcases compile_anchored hbare with ⟨⟨front, back, hsplit, -⟩, -⟩ | ⟨hopen, -⟩
    · have hmark := h '#' (hsplit ▸ List.mem_append_right front List.mem_cons_self)
      cases hmark
    · have hdepth := depth_wordTree word.toList
      have hroom : LeavesRoom word (wordNode word.toList) :=
        ⟨hopen, ⟨_, readTree_word h, (Nat.add_le_add_right hdepth 2).trans (by decide)⟩, hbytes⟩
      exact ⟨_, compile_of_leavesRoom hbare hroom⟩

end

end MediaCatalogue.Pattern
