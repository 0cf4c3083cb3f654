import MediaCatalogue.Proofs.CommandLine.Effect
import MediaCatalogue.Proofs.Query.Spelling

/-! Which patterns a search warns of. A pattern that a query writes out has compiled before the first record
is tried, so no trial finds it to be invalid, whatever is in the slot by then. What can be found to be
invalid is a pattern that a field of the record has put in the place of an operand. -/

namespace MediaCatalogue

/-- A test fails only by a pattern that does not compile; one that is in the slot does not fail. -/
theorem Pattern.compile_of_testSlot {slot : Option Slot} {pattern text : String} {anchored : Bool}
    {fault : Fault} (h : (testSlot slot pattern anchored text).1 = .error fault) :
    compile pattern anchored = .error fault := by
  unfold testSlot at h
  cases hc : compile pattern anchored with
  | error other =>
    cases slot with
    | none =>
      simp only [hc] at h
      cases h
      rfl
    | some held =>
      simp only [hc] at h
      split_ifs at h
      cases h
      rfl
  | ok node =>
    cases slot with
    | none => simp only [hc, reduceCtorEq] at h
    | some held =>
      simp only [hc] at h
      split_ifs at h

namespace Query

variable {slot : Option Pattern.Slot} {query : String} {criteria : Criteria} {c : Condition}
  {record : Record} {pattern : String} {fault : Pattern.Fault}

/-- The operator takes the text for a pattern, but it does not compile. -/
def Operator.Rejects (o : Operator) (pattern : String) (fault : Pattern.Fault) : Prop :=
  ∃ anchored, o.anchoring? = some anchored ∧
    Pattern.compile (trimText pattern) anchored = .error fault

/-- A field of the record has put a pattern in the place of the right operand, and it does not compile. -/
structure Condition.Substituted (c : Condition) (record : Record) (pattern : String)
    (fault : Pattern.Fault) : Prop where
  field : record c.right = .value pattern
  rejected : c.operator.Rejects pattern fault

theorem Operator.rejects_of_verdictSlot {o : Operator} {left right : String}
    (h : (o.verdictSlot slot left right).1 = .invalidPattern pattern fault) :
    pattern = right ∧ o.Rejects right fault := by
  unfold Operator.verdictSlot at h
  cases ha : o.anchoring? with
  | none =>
    rw [ha] at h
    cases hb : o.testPlain left right <;> rw [hb] at h <;> cases h
  | some anchored =>
    rw [ha] at h
    cases ht : (Pattern.testSlot slot (trimText right) anchored (trimText left)).1 with
    | ok found =>
      simp only [ht] at h
      cases found <;> cases h
    | error other =>
      simp only [ht] at h
      cases h
      exact ⟨rfl, anchored, ha, Pattern.compile_of_testSlot ht⟩

/-- The right operand of a condition that was read is a pattern if the operator takes one. -/
theorem not_rejects_right (h : Criteria.compile query = .ok criteria)
    (hc : c ∈ criteria.conditions) : ¬ c.operator.Rejects c.right fault := by
  obtain ⟨first, rest, hw, -, rfl⟩ := ofTokens_eq_ok_iff.mp (compile_eq_ok.mp h)
  obtain ⟨clause, hclause, rfl⟩ := List.mem_map.mp hc
  obtain ⟨left, operator, right, hread⟩ := hw.conditionOf hclause
  rintro ⟨anchored, hanchored, hinvalid⟩
  rcases conditionOf_cases left operator right with
    ⟨-, he⟩ | ⟨o, -, ⟨_, _, -, -, he⟩ | ⟨compiles, he⟩⟩
  · rw [he] at hread
    cases hread
  · rw [he] at hread
    cases hread
  · rw [he] at hread
    obtain ⟨-, hcondition⟩ := Prod.mk.inj (Except.ok.inj hread)
    rw [← hcondition] at hanchored hinvalid
    obtain ⟨node, hnode⟩ := compiles anchored hanchored
    rw [hnode] at hinvalid
    cases hinvalid

/-- A condition that was read finds a pattern to be invalid only if the record has substituted it. -/
theorem substituted_of_verdictSlot (h : Criteria.compile query = .ok criteria)
    (hc : c ∈ criteria.conditions)
    (hv : (c.verdictSlot slot record).1 = .invalidPattern pattern fault) :
    c.Substituted record pattern fault := by
  unfold Condition.verdictSlot at hv
  cases hleft : resolve record c.left with
  | none =>
    rw [hleft] at hv
    cases hv
  | some left =>
    cases hright : resolve record c.right with
    | none =>
      rw [hleft, hright] at hv
      cases hv
    | some right =>
      rw [hleft, hright] at hv
      obtain ⟨rfl, hrejects⟩ := Operator.rejects_of_verdictSlot hv
      unfold resolve at hright
      cases hlookup : record c.right with
      | value text =>
        rw [hlookup] at hright
        obtain rfl := Option.some.inj hright
        exact ⟨hlookup, hrejects⟩
      | undefined =>
        rw [hlookup] at hright
        cases hright
      | unknown =>
        rw [hlookup] at hright
        obtain rfl := Option.some.inj hright
        exact absurd hrejects (not_rejects_right h hc)

theorem Criteria.mem_verdictsSlot {cs : List Condition} {v : Verdict}
    (h : (c, v) ∈ cs.zip (verdictsSlot slot record cs).1) :
    ∃ slot, v = (c.verdictSlot slot record).1 := by
  induction cs generalizing slot with
  | nil => cases h
  | cons first cs ih =>
    rcases List.mem_cons.mp h with heq | h
    · obtain ⟨rfl, rfl⟩ := Prod.mk.inj heq
      exact ⟨slot, rfl⟩
    · exact ih h

namespace Attempt

/-- The answer to an attempt says what a condition has come to on a record. -/
inductive Tells : Attempt → Answer → Condition → Record → Verdict → Prop where
  | condition {c : Condition} {record : Record} {v : Verdict} :
      Tells (.condition c record) (.verdict v) c record v
  | criteria {criteria : Criteria} {record : Record} {t : Criteria.Trial} {c : Condition} {v : Verdict}
      (there : (c, v) ∈ criteria.conditions.zip t.verdicts) :
      Tells (.criteria criteria record) (.trial t) c record v

/-- Every answer in a history is the one that its attempt gives with some slot. -/
theorem mem_answersSlot {history : List Attempt} {a : Attempt} {answer : Answer}
    (h : (a, answer) ∈ history.zip (answersSlot slot history).1) :
    ∃ slot, answer = (a.answerSlot slot).1 := by
  induction history generalizing slot with
  | nil => cases h
  | cons first history ih =>
    rcases List.mem_cons.mp h with heq | h
    · obtain ⟨rfl, rfl⟩ := Prod.mk.inj heq
      exact ⟨slot, rfl⟩
    · exact ih h

theorem Tells.verdictSlot {a : Attempt} {v : Verdict}
    (h : a.Tells (a.answerSlot slot).1 c record v) : ∃ slot, v = (c.verdictSlot slot record).1 := by
  generalize hanswer : (a.answerSlot slot).1 = answer at h
  cases h with
  | condition => exact ⟨slot, (Answer.verdict.inj hanswer).symm⟩
  | criteria there =>
    obtain rfl := Answer.trial.inj hanswer
    exact Criteria.mem_verdictsSlot there

end Attempt

end Query

namespace CommandLine

open Query

/-- The warning of a pattern is the only one among the messages about trials. -/
theorem mem_trialMessages_warn {t : Criteria.Trial} {message : Log.Message}
    (h : message ∈ trialMessages t) (hwarn : message.level = .warn) :
    ∃ pattern fault, .invalidPattern pattern fault ∈ t.verdicts ∧
      message ∈ verdictMessages (.invalidPattern pattern fault) := by
  rcases List.mem_append.mp h with h | h
  · obtain ⟨v, hv, hmessage⟩ := List.mem_flatMap.mp h
    cases v with
    | invalidPattern pattern fault => exact ⟨pattern, fault, hv, hmessage⟩
    | holds => cases hmessage
    | fails => cases hmessage
  · obtain rfl := List.mem_singleton.mp h
    cases hwarn

theorem mem_tryAll_warn {α : Type} {criteria : Criteria} {mediaOf : α → Media} {candidates : List α}
    {message : Log.Message} (h : message ∈ (tryAll criteria mediaOf candidates).1)
    (hwarn : message.level = .warn) :
    ∃ a ∈ candidates, ∃ c ∈ criteria.conditions, ∃ pattern fault,
      (c.verdictSlot none (mediaOf a).record).1 = .invalidPattern pattern fault ∧
        message ∈ verdictMessages (.invalidPattern pattern fault) := by
  have htrials := (Criteria.trialsSlot_faithful Pattern.faithful_none criteria
    (candidates.map fun a => (mediaOf a).record)).1
  simp only [tryAll, htrials, List.mem_flatMap, List.map_map, List.mem_map] at h
  obtain ⟨t, ⟨a, ha, rfl⟩, hmessage⟩ := h
  obtain ⟨pattern, fault, hverdict, hmessage⟩ := mem_trialMessages_warn hmessage hwarn
  obtain ⟨c, hc, hv⟩ := List.mem_map.mp hverdict
  refine ⟨a, ha, c, hc, pattern, fault, ?_, hmessage⟩
  rw [(Condition.verdictSlot_faithful Pattern.faithful_none c _).1, hv]

/-- Whatever is in the slot and whatever was tried before, a condition of criteria that compile never finds
its right operand to be an invalid pattern where that is no field of the record. So in any history of
trials, and in what is logged of a search, a pattern is told to be invalid only if a field of the record
at hand has put it there. -/
theorem invalid_patterns_are_substituted {query : String} {criteria : Criteria}
    (h : Criteria.compile query = .ok criteria) :
    (∀ c ∈ criteria.conditions, ∀ record : Record, record c.right = .unknown →
      ∀ slot pattern fault, (c.verdictSlot slot record).1 ≠ .invalidPattern pattern fault) ∧
    (∀ slot (history : List Attempt), ∀ made ∈ history.zip (Attempt.answersSlot slot history).1,
      ∀ c ∈ criteria.conditions, ∀ record pattern fault,
        made.1.Tells made.2 c record (.invalidPattern pattern fault) →
          c.Substituted record pattern fault) ∧
    ∀ (α : Type) (mediaOf : α → Media) (candidates : List α),
      ∀ message ∈ (tryAll criteria mediaOf candidates).1, message.level = .warn →
        ∃ a ∈ candidates, ∃ c ∈ criteria.conditions, ∃ pattern fault,
          c.Substituted (mediaOf a).record pattern fault ∧
            message ∈ verdictMessages (.invalidPattern pattern fault) := by
  refine ⟨?_, ?_, ?_⟩
  · intro c hc record hunknown slot pattern fault hv
    have hfield := (substituted_of_verdictSlot h hc hv).field
    rw [hunknown] at hfield
    cases hfield
  · rintro slot history ⟨a, answer⟩ hmade c hc record pattern fault htells
    obtain ⟨slot', rfl⟩ := Attempt.mem_answersSlot hmade
    obtain ⟨slot'', hv⟩ := htells.verdictSlot
    exact substituted_of_verdictSlot h hc hv.symm
  · intro α mediaOf candidates message hmessage hwarn
    obtain ⟨a, ha, c, hc, pattern, fault, hv, htold⟩ := mem_tryAll_warn hmessage hwarn
    exact ⟨a, ha, c, hc, pattern, fault, substituted_of_verdictSlot h hc hv, htold⟩

/-- A film by the name of an opening bracket, which is then looked for in itself. -/
theorem invalid_patterns_are_substituted_title :
    ∃ criteria, Criteria.compile "title find title" = .ok criteria ∧
      ∀ c ∈ criteria.conditions, c.Substituted (recordOf [("title", "(")]) "(" .groupUnclosed := by
  have h : Criteria.compile "title find title" =
      .ok ⟨[⟨"title", .find, "title"⟩], ⟨"(A)".toList, ['A'], .var 0⟩⟩ := by cbv
  obtain ⟨-, hhistory, -⟩ := invalid_patterns_are_substituted h
  refine ⟨_, h, fun c hc => ?_⟩
  obtain rfl := List.mem_singleton.mp hc
  have hverdict : (Condition.verdictSlot none ⟨"title", .find, "title"⟩ (recordOf [("title", "(")])).1 =
      .invalidPattern "(" .groupUnclosed := by cbv
  exact hhistory none [.condition ⟨"title", .find, "title"⟩ (recordOf [("title", "(")])] (_, _)
    List.mem_cons_self _ hc _ _ _ (hverdict ▸ .condition)

end CommandLine

end MediaCatalogue
