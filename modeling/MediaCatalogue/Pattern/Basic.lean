import MediaCatalogue.Pattern.Matcher
import MediaCatalogue.Pattern.Meaning
import MediaCatalogue.Pattern.Reader
import MediaCatalogue.Pattern.Size

/-! Compiling patterns and testing texts against them. -/

namespace MediaCatalogue.Pattern

def compileText (text : List Char) : Except Fault Node := do
  let (node, _) ← ({} : Flags).node (← readTree text)
  if maxBytes < node.bytes then .error .tooLarge else return node

/-- The text of a pattern that has to span a whole text. -/
def anchor (text : List Char) : List Char := "^(?:".toList ++ text ++ ")\\z".toList

/-- Compiles a pattern. One that has to span whole texts must compile on its own as well, so that it
cannot close the group around it. -/
def compile (text : String) (anchored : Bool) : Except Fault Node := do
  let node ← compileText text.toList
  if anchored then compileText (anchor text.toList) else return node

def test (pattern : String) (anchored : Bool) (text : String) : Except Fault Bool := do
  return (← compile pattern anchored).occursIn text.toList

/-- The pattern compiled last, with its text and its anchoring. -/
structure Slot where
  source : String
  anchored : Bool
  node : Node

/-- Does what `test` does, but compiles only a pattern that is not in the slot. A pattern that does
not compile leaves the slot as it is. -/
def testSlot (slot : Option Slot) (pattern : String) (anchored : Bool) (text : String) :
    Except Fault Bool × Option Slot :=
  let compiled : Except Fault Bool × Option Slot :=
    match compile pattern anchored with
    | .error fault => (.error fault, slot)
    | .ok node => (.ok (node.occursIn text.toList), some { source := pattern, anchored, node })
  match slot with
  | none => compiled
  | some held =>
    if held.anchored = anchored ∧ held.source = pattern then
      (.ok (held.node.occursIn text.toList), slot)
    else compiled

end MediaCatalogue.Pattern
