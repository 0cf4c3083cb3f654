import MediaCatalogue.Pattern.Basic
import MediaCatalogue.Proofs.Pattern.Matches
import MediaCatalogue.Proofs.Pattern.Run

/-! Patterns that have to span whole texts. Their text is put into a group between two anchors and read
again, which fails for a pattern that ends in a comment and for one that nests too deeply or takes too much
memory with the anchors. What is compiled in all other cases matches whole texts only. -/

namespace MediaCatalogue.Pattern

theorem readTree_of_run {cs : List Char} {r : Reading} (h : Run {} cs r) :
    readTree cs = if !r.outer.isEmpty then .error .groupUnclosed
      else if maxNesting < r.value.depth .neither then .error .nestedTooDeeply
      else .ok r.value := by
  rw [readTree, (readElements_iff (Nat.lt_succ_self cs.length)).mpr h]
  rfl

theorem run_of_readTree {cs : List Char} {t : Tree} (h : readTree cs = .ok t) :
    ∃ r, Run {} cs r ∧ r.outer = [] ∧ r.value = t := by
  obtain ⟨r, hread, hvalue⟩ := bind_eq_ok.mp h
  split_ifs at hvalue with houter hdepth
  refine ⟨r, (readElements_iff (Nat.lt_succ_self cs.length)).mp hread, ?_, Except.ok.inj hvalue⟩
  simpa using houter

/-- What is behind the text on its last line is not read. -/
def EndsInComment (cs : List Char) : Prop := ∀ more, '\n' ∉ more → readTree (cs ++ more) = readTree cs

def anchorGroup : OpenGroup :=
  { changes := [], items := [.assertion .lineStart], alternatives := [], verbose := false }

def Tree.anchored (t : Tree) : Tree :=
  .sequence (.assertion .lineStart) (.sequence (.group [] t) (.assertion .textEnd))

theorem depth_anchored (t : Tree) : t.anchored.depth .neither = t.depth .neither + 2 := by
  simp [Tree.anchored, Tree.depth]

theorem run_anchor {cs : List Char} {last : Reading}
    (h : Run (({} : Reading).inside anchorGroup) (cs ++ ")\\z".toList) last) : Run {} (anchor cs) last := by
  have hstart : readElement {} '^' ('(' :: '?' :: ':' :: (cs ++ ")\\z".toList)) =
    .ok (({} : Reading).add (.assertion .lineStart), '(' :: '?' :: ':' :: (cs ++ ")\\z".toList)) := rfl
  have hgroup : readElement (({} : Reading).add (.assertion .lineStart)) '('
      ('?' :: ':' :: (cs ++ ")\\z".toList)) =
    .ok (({} : Reading).inside anchorGroup, cs ++ ")\\z".toList) := rfl
  exact .step rfl hstart (.step rfl hgroup h)

/-- A parenthesis closes the group around what has been read. -/
theorem run_closing {r final : Reading} {more : List Char} (houter : r.outer = [])
    (h : Run { items := [.group [] r.value, .assertion .lineStart], names := r.names } more final) :
    Run (r.inside anchorGroup) (')' :: more) final := by
  obtain ⟨items, alternatives, outer, verbose, names⟩ := r
  obtain rfl : outer = [] := houter
  exact .step (skip_closing _ _) rfl h

/-- A pattern that is read to its end is still read at a parenthesis behind it, which then belongs to no
group. -/
theorem not_endsInComment {cs : List Char} {r : Reading} (houter : r.outer = [])
    (hread : readTree cs = .ok r.value)
    (hclosing : ∀ more final, Run (r.inside anchorGroup) (')' :: more) final →
      Run (({} : Reading).inside anchorGroup) (cs ++ ')' :: more) final) : ¬EndsInComment cs := by
  intro hcomment
  obtain ⟨bare, hbare, -, -⟩ := run_of_readTree ((hcomment [')'] (by decide)).trans hread)
  have houtside := hclosing [] _ (run_closing houter (.done rfl))
  have hlast := congrArg Reading.outer ((hbare.inside anchorGroup).unique houtside)
  exact List.append_ne_nil_of_right_ne_nil _ (List.cons_ne_nil _ _) hlast

theorem readTree_anchor {cs : List Char} {t : Tree} (h : readTree cs = .ok t) :
    (Marked cs ∧ EndsInComment cs ∧ readTree (anchor cs) = .error .groupUnclosed) ∨
      (¬EndsInComment cs ∧ readTree (anchor cs) =
        if maxNesting < t.depth .neither + 2 then .error .nestedTooDeeply else .ok t.anchored) := by
  obtain ⟨r, hrun, houter, rfl⟩ := run_of_readTree h
  rcases hrun.further anchorGroup with hclosing | ⟨hmarked, hmore⟩
  · refine .inr ⟨not_endsInComment houter h hclosing, ?_⟩
    have hend : Run { items := [.group [] r.value, .assertion .lineStart], names := r.names }
        "\\z".toList _ := .step rfl rfl (.done rfl)
    rw [readTree_of_run (run_anchor (hclosing _ _ (run_closing houter hend))), ← depth_anchored]
    rfl
  · refine .inl ⟨hmarked, fun more hline => ?_, ?_⟩
    · rw [readTree_of_run (hmore more hline), readTree_of_run hrun]
    · rw [readTree_of_run (run_anchor ((hmore _ (by decide)).inside anchorGroup))]
      simp [Reading.inside]

namespace Node

def anchored (n : Node) : Node := .sequence (.look .start) (.sequence n (.look .stop))

theorem bytes_anchored (n : Node) : n.anchored.bytes = n.bytes + 2 * stateBytes := by
  simp only [anchored, bytes]
  omega

/-- The anchors hold at the two ends of a text only. -/
theorem occursIn_anchored (n : Node) (text : List Char) : n.anchored.occursIn text = n.spans text := by
  rw [Bool.eq_iff_iff, occursIn_iff, spans_iff]
  constructor
  · rintro ⟨i, j, hi, k, ⟨rfl, hstart⟩, l, hmatch, rfl, hstop⟩
    obtain rfl : i = 0 := by
      cases i with
      | zero => rfl
      | succ i =>
        have hnone : text.length ≤ i := List.getElem?_eq_none_iff.mp (Option.isNone_iff_eq_none.mp hstart)
        omega
    have hl : text.length ≤ l := List.getElem?_eq_none_iff.mp (Option.isNone_iff_eq_none.mp hstop)
    have hlast := (n.advances text).within hi hmatch
    rwa [le_antisymm hl hlast]
  · intro h
    refine ⟨0, text.length, Nat.zero_le _, 0, ⟨rfl, rfl⟩, text.length, h, rfl, ?_⟩
    simp [Look.holds]

end Node

theorem node_anchored {t : Tree} {n : Node} {f : Flags} (h : ({} : Flags).node t = .ok (n, f)) :
    ({} : Flags).node t.anchored = .ok (n.anchored, {}) := by
  have hgroup : ({} : Flags).node (.group [] t) = .ok (n, {}) := bind_eq_ok.mpr ⟨(n, f), h, rfl⟩
  have htail : ({} : Flags).node (.sequence (.group [] t) (.assertion .textEnd)) =
      .ok (.sequence n (.look .stop), {}) := bind_eq_ok.mpr ⟨(n, {}), hgroup, rfl⟩
  exact bind_eq_ok.mpr ⟨(.look .start, {}), rfl, bind_eq_ok.mpr ⟨_, htail, rfl⟩⟩

theorem compileText_of_node {cs : List Char} {t : Tree} {n : Node} {f : Flags}
    (hread : readTree cs = .ok t) (hnode : ({} : Flags).node t = .ok (n, f)) :
    compileText cs = if maxBytes < n.bytes then .error .tooLarge else .ok n := by
  rw [compileText, hread]
  simp only [bind, Except.bind, hnode]
  rfl

theorem of_compileText {cs : List Char} {n : Node} (h : compileText cs = .ok n) :
    ∃ t f, readTree cs = .ok t ∧ ({} : Flags).node t = .ok (n, f) := by
  obtain ⟨t, hread, h⟩ := bind_eq_ok.mp h
  obtain ⟨⟨n', f⟩, hnode, h⟩ := bind_eq_ok.mp h
  simp only at h
  split_ifs at h
  obtain rfl := Except.ok.inj h
  exact ⟨t, f, hread, hnode⟩

theorem compile_false (pattern : String) : compile pattern false = compileText pattern.toList := by
  rw [compile]
  cases compileText pattern.toList <;> rfl

theorem compile_true {pattern : String} {n : Node} (h : compile pattern false = .ok n) :
    compile pattern true = compileText (anchor pattern.toList) := by
  rw [compile_false] at h
  rw [compile, h]
  rfl

/-- What becomes of a pattern that compiles on its own. -/
theorem compile_anchored {pattern : String} {n : Node} (h : compile pattern false = .ok n) :
    (Marked pattern.toList ∧ EndsInComment pattern.toList ∧ compile pattern true = .error .groupUnclosed) ∨
      (¬EndsInComment pattern.toList ∧ ∃ t, readTree pattern.toList = .ok t ∧
        compile pattern true =
          if maxNesting < t.depth .neither + 2 then .error .nestedTooDeeply
          else if maxBytes < n.bytes + 2 * stateBytes then .error .tooLarge
          else .ok n.anchored) := by
  rw [compile_true h]
  rw [compile_false] at h
  obtain ⟨t, f, hread, hnode⟩ := of_compileText h
  rcases readTree_anchor hread with ⟨hmarked, hcomment, hanchor⟩ | ⟨hcomment, hanchor⟩
  · refine .inl ⟨hmarked, hcomment, ?_⟩
    rw [compileText, hanchor]
    rfl
  · refine .inr ⟨hcomment, t, hread, ?_⟩
    split_ifs at hanchor ⊢ with hdepth hsize
    · rw [compileText, hanchor]
      rfl
    · rw [compileText_of_node hanchor (node_anchored hnode), Node.bytes_anchored, if_pos hsize]
    · rw [compileText_of_node hanchor (node_anchored hnode), Node.bytes_anchored, if_neg hsize]

/-- What a pattern that compiles on its own must leave to the anchors around it. What is small goes by the
count of `Node.bytes`, which leaves out case variants. -/
structure LeavesRoom (pattern : String) (n : Node) : Prop where
  uncommented : ¬EndsInComment pattern.toList
  shallow : ∃ t, readTree pattern.toList = .ok t ∧ t.depth .neither + 2 ≤ maxNesting
  small : n.bytes + 2 * stateBytes ≤ maxBytes

theorem compile_of_leavesRoom {pattern : String} {n : Node} (h : compile pattern false = .ok n)
    (hroom : LeavesRoom pattern n) : compile pattern true = .ok n.anchored := by
  obtain ⟨t, hread, hdepth⟩ := hroom.shallow
  rcases compile_anchored h with ⟨-, hcomment, -⟩ | ⟨-, t', hread', hanchored⟩
  · exact absurd hcomment hroom.uncommented
  · obtain rfl := Except.ok.inj (hread.symm.trans hread')
    rw [hanchored, if_neg (Nat.not_lt.mpr hdepth), if_neg (Nat.not_lt.mpr hroom.small)]

theorem compile_of_not_leavesRoom {pattern : String} {n : Node} (h : compile pattern false = .ok n)
    (hroom : ¬LeavesRoom pattern n) : ∃ fault, compile pattern true = .error fault := by
  rcases compile_anchored h with ⟨-, -, hanchored⟩ | ⟨hcomment, t, hread, hanchored⟩
  · exact ⟨_, hanchored⟩
  · split_ifs at hanchored with hdepth hsize
    · exact ⟨_, hanchored⟩
    · exact ⟨_, hanchored⟩
    · exact absurd ⟨hcomment, ⟨t, hread, Nat.not_lt.mp hdepth⟩, Nat.not_lt.mp hsize⟩ hroom

/-- Without anchors a pattern that compiles is true of the texts that it matches between any two positions.
With anchors it is true of those that it matches from end to end, unless it ends in a comment or leaves no
room for the anchors; then it does not compile. -/
theorem anchored_test_whole (pattern : String) (n : Node) (h : compile pattern false = .ok n) :
    (∀ text, ∃ found, test pattern false text = .ok found ∧
      (found = true ↔ ∃ i j, i ≤ text.toList.length ∧ n.Matches text.toList i j)) ∧
    (LeavesRoom pattern n → ∀ text, ∃ found, test pattern true text = .ok found ∧
      (found = true ↔ n.Matches text.toList 0 text.toList.length)) ∧
    (¬LeavesRoom pattern n → ∀ text, ∃ fault, test pattern true text = .error fault) ∧
    (EndsInComment pattern.toList → Marked pattern.toList) := by
  refine ⟨fun text => ?_, fun hroom text => ?_, fun hroom text => ?_, fun hcomment => ?_⟩
  · refine ⟨n.occursIn text.toList, ?_, n.occursIn_iff text.toList⟩
    rw [test, h]
    rfl
  · refine ⟨n.spans text.toList, ?_, n.spans_iff text.toList⟩
    rw [test, compile_of_leavesRoom h hroom, ← n.occursIn_anchored]
    rfl
  · obtain ⟨fault, hfault⟩ := compile_of_not_leavesRoom h hroom
    refine ⟨fault, ?_⟩
    rw [test, hfault]
    rfl
  · exact (compile_anchored h).elim (fun ⟨hmarked, _⟩ => hmarked) fun ⟨hopen, _⟩ => absurd hcomment hopen

theorem anchored_test_whole_alternation :
    compile "a|b" false = .ok (.alternation (.one (.single 'a')) (.one (.single 'b'))) ∧
      ∃ found, test "a|b" true "xa" = .ok found ∧
        (found = true ↔
          (Node.alternation (.one (.single 'a')) (.one (.single 'b'))).Matches ['x', 'a'] 0 2) := by
  have h : compile "a|b" false = .ok (.alternation (.one (.single 'a')) (.one (.single 'b'))) := rfl
  obtain ⟨-, hwhole, -, hmark⟩ := anchored_test_whole _ _ h
  refine ⟨h, hwhole ⟨fun hcomment => ?_, ⟨_, rfl, by decide⟩, by decide⟩ "xa"⟩
  obtain ⟨front, back, hsplit, -⟩ := hmark hcomment
  have hmem : '#' ∈ "a|b".toList := hsplit ▸ List.mem_append_right front (List.mem_cons_self ..)
  exact absurd hmem (by decide)

/-- The comment takes in the anchor and the parenthesis in front of it. -/
theorem anchor_in_comment :
    ¬∀ pattern n, compile pattern false = .ok n → ∃ m, compile pattern true = .ok m := by
  intro h
  obtain ⟨m, hm⟩ := h "(?x)a#b" (.sequence .empty (.one (.single 'a'))) rfl
  have herror : compile "(?x)a#b" true = .error .groupUnclosed := rfl
  rw [herror] at hm
  cases hm

end MediaCatalogue.Pattern
