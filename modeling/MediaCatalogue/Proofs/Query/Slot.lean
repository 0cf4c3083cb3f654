import MediaCatalogue.Query.Criteria

/-! The pattern that was compiled last is at hand in every trial. What a slot holds was compiled from
its text, and that is kept from one test to the next; so every test comes to what it would come to
without the slot, whatever was tested before. -/

namespace MediaCatalogue

namespace Pattern

/-- What a slot holds is what its text compiles to. -/
def Faithful (slot : Option Slot) : Prop :=
  ∀ s, slot = some s → compile s.source s.anchored = .ok s.node

theorem faithful_none : Faithful none := by
  rintro s ⟨⟩

theorem faithful_compiled {pattern : String} {anchored : Bool} {node : Node}
    (h : compile pattern anchored = .ok node) : Faithful (some ⟨pattern, anchored, node⟩) := by
  rintro s ⟨⟩
  exact h

theorem testSlot_faithful {slot : Option Slot} (h : Faithful slot) (pattern : String)
    (anchored : Bool) (text : String) :
    (testSlot slot pattern anchored text).1 = test pattern anchored text ∧
      Faithful (testSlot slot pattern anchored text).2 := by
  unfold testSlot test
  cases slot with
  | none =>
    cases hc : compile pattern anchored with
    | error fault => exact ⟨rfl, h⟩
    | ok node => exact ⟨rfl, faithful_compiled hc⟩
  | some held =>
    by_cases hheld : held.anchored = anchored ∧ held.source = pattern
    · have hnode := h held rfl
      rw [hheld.1, hheld.2] at hnode
      simp only [if_pos hheld, hnode]
      exact ⟨rfl, h⟩
    · simp only [if_neg hheld]
      cases hc : compile pattern anchored with
      | error fault => exact ⟨rfl, h⟩
      | ok node => exact ⟨rfl, faithful_compiled hc⟩

/-- A pattern that does not compile leaves the slot as it is, whatever the slot holds. -/
theorem testSlot_of_error {pattern : String} {anchored : Bool} {fault : Fault}
    (h : compile pattern anchored = .error fault) (slot : Option Slot) (text : String) :
    (testSlot slot pattern anchored text).2 = slot := by
  unfold testSlot
  rw [h]
  cases slot with
  | none => rfl
  | some held =>
    dsimp only
    split <;> rfl

end Pattern

namespace Query

open Pattern (Faithful faithful_none)

variable {slot : Option Pattern.Slot}

theorem Operator.verdictSlot_faithful (h : Faithful slot) (o : Operator) (left right : String) :
    (o.verdictSlot slot left right).1 = o.verdict left right ∧
      Faithful (o.verdictSlot slot left right).2 := by
  unfold Operator.verdictSlot Operator.verdict
  cases o.anchoring? with
  | none => exact ⟨rfl, h⟩
  | some anchored =>
    obtain ⟨htest, hslot⟩ := Pattern.testSlot_faithful h (trimText right) anchored (trimText left)
    exact ⟨congrArg (Verdict.ofPatternTest right) htest, hslot⟩

/-- The verdict of a condition on a record; one that asks for an undefined field fails. -/
def Condition.verdict (c : Condition) (record : Record) : Verdict :=
  match resolve record c.left, resolve record c.right with
  | some left, some right => c.operator.verdict left right
  | _, _ => .fails

theorem Condition.toBool_verdict (c : Condition) (record : Record) :
    (c.verdict record).toBool = c.test record := by
  unfold Condition.verdict Condition.test
  cases resolve record c.left with
  | none => rfl
  | some left => cases resolve record c.right <;> rfl

theorem Condition.verdictSlot_faithful (h : Faithful slot) (c : Condition) (record : Record) :
    (c.verdictSlot slot record).1 = c.verdict record ∧ Faithful (c.verdictSlot slot record).2 := by
  unfold Condition.verdictSlot Condition.verdict
  cases resolve record c.left with
  | none => exact ⟨rfl, h⟩
  | some left =>
    cases resolve record c.right with
    | none => exact ⟨rfl, h⟩
    | some right => exact Operator.verdictSlot_faithful h c.operator left right

namespace Criteria

theorem verdictsSlot_faithful (h : Faithful slot) (record : Record) (cs : List Condition) :
    (verdictsSlot slot record cs).1 = cs.map (·.verdict record) ∧
      Faithful (verdictsSlot slot record cs).2 := by
  induction cs generalizing slot with
  | nil => exact ⟨rfl, h⟩
  | cons c cs ih =>
    obtain ⟨hverdict, hslot⟩ := Condition.verdictSlot_faithful h c record
    obtain ⟨hverdicts, hlast⟩ := ih hslot
    refine ⟨?_, hlast⟩
    rw [List.map_cons, ← hverdict, ← hverdicts]
    rfl

/-- What the criteria come to on one record, every pattern being compiled anew. -/
def trial (c : Criteria) (record : Record) : Trial :=
  { verdicts := c.conditions.map (·.verdict record), accepted := c.accepts record }

theorem trialSlot_faithful (h : Faithful slot) (c : Criteria) (record : Record) :
    (c.trialSlot slot record).1 = c.trial record ∧ Faithful (c.trialSlot slot record).2 := by
  obtain ⟨hverdicts, hslot⟩ := verdictsSlot_faithful h record c.conditions
  have hbits : (c.conditions.map (·.verdict record)).map (·.toBool) = c.bits record := by
    rw [List.map_map, bits]
    exact List.map_congr_left fun condition _ => condition.toBool_verdict record
  refine ⟨?_, hslot⟩
  simp only [trialSlot, trial, accepts, hverdicts, hbits]

theorem trialsSlot_faithful (h : Faithful slot) (c : Criteria) (records : List Record) :
    (c.trialsSlot slot records).1 = records.map c.trial ∧
      Faithful (c.trialsSlot slot records).2 := by
  induction records generalizing slot with
  | nil => exact ⟨rfl, h⟩
  | cons r rs ih =>
    obtain ⟨htrial, hslot⟩ := trialSlot_faithful h c r
    obtain ⟨htrials, hlast⟩ := ih hslot
    refine ⟨?_, hlast⟩
    rw [List.map_cons, ← htrial, ← htrials]
    rfl

end Criteria

/-- Something that is tested with the pattern compiled last at hand. -/
inductive Attempt where
  | pattern (source : String) (anchored : Bool) (text : String)
  | operator (o : Operator) (left right : String)
  | condition (c : Condition) (record : Record)
  | criteria (c : Criteria) (record : Record)

inductive Answer where
  | found (outcome : Except Pattern.Fault Bool)
  | verdict (v : Verdict)
  | trial (t : Criteria.Trial)

namespace Attempt

/-- The answer with every pattern compiled anew. -/
def answer : Attempt → Answer
  | pattern source anchored text => .found (Pattern.test source anchored text)
  | operator o left right => .verdict (o.verdict left right)
  | condition c record => .verdict (c.verdict record)
  | criteria c record => .trial (c.trial record)

def answerSlot (slot : Option Pattern.Slot) : Attempt → Answer × Option Pattern.Slot
  | pattern source anchored text => (Pattern.testSlot slot source anchored text).map .found id
  | operator o left right => (o.verdictSlot slot left right).map .verdict id
  | condition c record => (c.verdictSlot slot record).map .verdict id
  | criteria c record => (c.trialSlot slot record).map .trial id

/-- The answers to attempts in order, and the pattern that was compiled last. -/
def answersSlot (slot : Option Pattern.Slot) : List Attempt → List Answer × Option Pattern.Slot
  | [] => ([], slot)
  | a :: rest =>
    let (answer, slot) := a.answerSlot slot
    let (answers, slot) := answersSlot slot rest
    (answer :: answers, slot)

theorem answerSlot_faithful (h : Faithful slot) (a : Attempt) :
    (a.answerSlot slot).1 = a.answer ∧ Faithful (a.answerSlot slot).2 := by
  cases a with
  | pattern source anchored text =>
    obtain ⟨htest, hslot⟩ := Pattern.testSlot_faithful h source anchored text
    exact ⟨congrArg Answer.found htest, hslot⟩
  | operator o left right =>
    obtain ⟨hverdict, hslot⟩ := Operator.verdictSlot_faithful h o left right
    exact ⟨congrArg Answer.verdict hverdict, hslot⟩
  | condition c record =>
    obtain ⟨hverdict, hslot⟩ := Condition.verdictSlot_faithful h c record
    exact ⟨congrArg Answer.verdict hverdict, hslot⟩
  | criteria c record =>
    obtain ⟨htrial, hslot⟩ := Criteria.trialSlot_faithful h c record
    exact ⟨congrArg Answer.trial htrial, hslot⟩

theorem answersSlot_faithful (h : Faithful slot) (history : List Attempt) :
    (answersSlot slot history).1 = history.map answer ∧ Faithful (answersSlot slot history).2 := by
  induction history generalizing slot with
  | nil => exact ⟨rfl, h⟩
  | cons a rest ih =>
    obtain ⟨hanswer, hslot⟩ := answerSlot_faithful h a
    obtain ⟨hanswers, hlast⟩ := ih hslot
    refine ⟨?_, hlast⟩
    rw [List.map_cons, ← hanswer, ← hanswers]
    rfl

/-- Whatever has been attempted since the slot was empty, every answer is the one that patterns compiled
anew give, and the criteria come to the same on every record as they would at the start. -/
theorem answersSlot_eq_answers (history : List Attempt) :
    (answersSlot none history).1 = history.map answer ∧
      (∀ source anchored fault, Pattern.compile source anchored = .error fault →
        ∀ text, (Pattern.testSlot (answersSlot none history).2 source anchored text).2 =
          (answersSlot none history).2) ∧
      ∀ (c : Criteria) (record : Record),
        (c.trialSlot (answersSlot none history).2 record).1 = c.trial record := by
  obtain ⟨hanswers, hslot⟩ := answersSlot_faithful faithful_none history
  exact ⟨hanswers, fun _ _ _ h text => Pattern.testSlot_of_error h _ text,
    fun c record => (Criteria.trialSlot_faithful hslot c record).1⟩

end Attempt

end Query

end MediaCatalogue
