import MediaCatalogue.Text.Ligature
import MediaCatalogue.Unicode.Property

/-! The terminal columns that a text fills. -/

namespace MediaCatalogue

/-- A Khmer sign that is drawn as three letters. -/
def khmerBeyyal : Char := '\u17D8'

def charColumns (c : Char) : Nat :=
  if c.toNat ≤ 0xA0 then 1
  else if c == khmerBeyyal then 3
  else if Unicode.zeroWidth.contains c then 0
  else if Unicode.wide.contains c then 2
  else 1

def emojiSelector : Char := '\uFE0F'

def zeroWidthJoiner : Char := '\u200D'

def isEmoji (c : Char) : Bool :=
  Unicode.emojiPresentation.contains c && !Unicode.regionalIndicator.contains c

/-- Whether a character becomes an emoji by the one behind it: by a selector or by a colour of skin. -/
def becomesEmoji (c next : Char) : Bool :=
  (next == emojiSelector && Unicode.emoji.contains c && !Unicode.regionalIndicator.contains c) ||
    (Unicode.emojiModifier.contains next && Unicode.emojiModifierBase.contains c)

/-- What a character follows. -/
inductive Behind where
  | text
  /-- An emoji, which takes a colour of skin or not. -/
  | emoji (modifiable : Bool)
  /-- An emoji and a joiner. -/
  | joiner
  /-- The first letter of a ligature and some of its further parts. -/
  | ligature (kind : Ligature) (read : Nat)
  deriving DecidableEq

namespace Behind

/-- What a character comes to that starts anew. -/
def fresh (c : Char) : Behind :=
  match Ligature.ofFirst? c with
  | some l => ligature l 0
  | none => text

/-- Whether an emoji shares the columns of the one in front of it. -/
def holds (b : Behind) (c : Char) : Bool :=
  match b with
  | emoji modifiable => modifiable && Unicode.emojiModifier.contains c
  | joiner => true
  | _ => false

/-- The columns that a character adds which is no emoji, and what it leaves behind. The last letter of
a ligature adds none. -/
def add (b : Behind) (c : Char) : Nat × Behind :=
  match b with
  | emoji _ =>
    if c == zeroWidthJoiner then (0, joiner)
    else if c == emojiSelector then (0, emoji false)
    else (charColumns c, fresh c)
  | ligature l read =>
    match l.role read c with
    | .last => (0, text)
    | .inner read => (charColumns c, ligature l read)
    | .other => (charColumns c, fresh c)
  | _ => (charColumns c, fresh c)

end Behind

/-- The columns of a text behind other text. An emoji and what modifies it or is joined to it fill two
columns together. -/
def columnsBehind : Behind → List Char → Nat
  | _, [] => 0
  | behind, c :: cs =>
    if isEmoji c || (cs.head?.map (becomesEmoji c)).getD false then
      (if behind.holds c then 0 else 2) +
        columnsBehind (.emoji (Unicode.emojiModifierBase.contains c)) cs
    else (behind.add c).1 + columnsBehind (behind.add c).2 cs

def columns (cs : List Char) : Nat := columnsBehind .text cs

end MediaCatalogue
