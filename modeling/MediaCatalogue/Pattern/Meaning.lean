import MediaCatalogue.Pattern.Fault
import MediaCatalogue.Pattern.Node
import MediaCatalogue.Pattern.Tree

/-! What a pattern means: its flags are applied from left to right and each reaches to the end of its
group. -/

namespace MediaCatalogue.Pattern

structure Flags where
  ignoreCase : Bool := false
  multiLine : Bool := false
  dotMatchesNewLine : Bool := false
  crlf : Bool := false
  unicode : Bool := true
  deriving DecidableEq

namespace Flags

/-- Greed decides what a match spans and verbose mode how a text is read, not whether it matches. -/
def set (f : Flags) (change : Flag × Bool) : Flags :=
  match change with
  | (.ignoreCase, on) => { f with ignoreCase := on }
  | (.multiLine, on) => { f with multiLine := on }
  | (.dotMatchesNewLine, on) => { f with dotMatchesNewLine := on }
  | (.crlf, on) => { f with crlf := on }
  | (.unicode, on) => { f with unicode := on }
  | (.swapGreed, _) => f
  | (.verbose, _) => f

def change (f : Flags) (changes : FlagChanges) : Flags := changes.foldl set f

end Flags

/-- The loose spelling of property names: ASCII without case, blanks, underscores and hyphens, and
without a leading `is`. -/
def looseName (name : List Char) : String :=
  let plain (cs : List Char) : List Char :=
    (cs.filter fun c => c.val < 0x80 && c != ' ' && c != '_' && c != '-').map Char.toLower
  match name with
  | a :: b :: rest =>
    if a.toLower == 'i' && b.toLower == 's' then
      if plain rest == ['c'] then "isc" else String.ofList (plain rest)
    else String.ofList (plain name)
  | _ => String.ofList (plain name)

def categorySet? (name : String) : Option CharSet :=
  if name == "any" then some .all
  else if name == "ascii" then some (.range '\x00' '\x7f')
  else if name == "assigned" then some (.complement (.category ⟨"cn", [], ["Cn"]⟩))
  else (Unicode.categoryGroup? name).map .category

/-- Abbreviations that name a category although they also abbreviate a property. -/
def ambiguousNames : List String := ["cf", "sc", "lc"]

def singlePropertySet? (name : String) : Option CharSet :=
  let property := if ambiguousNames.contains name then none else Unicode.property? name
  (property.map .codes).or ((categorySet? name).or ((Unicode.script? name).map .script))

def valuedPropertySet? (name value : String) : Option CharSet :=
  if name == "gc" || name == "generalcategory" then categorySet? value
  else if name == "sc" || name == "script" then (Unicode.script? value).map .script
  else if name == "scx" || name == "scriptextensions" then (Unicode.script? value).map .usedInScript
  else none

def propertySet? : Property → Option CharSet
  | .single name => singlePropertySet? (looseName name)
  | .valued name value => valuedPropertySet? (looseName name) (looseName value)

def namedSet : NamedClass → CharSet
  | .alnum => .union .asciiDigits .asciiLetters
  | .alpha => .asciiLetters
  | .ascii => .range '\x00' '\x7f'
  | .blank => .union (.single '\t') (.single ' ')
  | .cntrl => .union (.range '\x00' '\x1f') (.single '\x7f')
  | .digit => .asciiDigits
  | .graph => .range '!' '~'
  | .lower => .range 'a' 'z'
  | .print => .range ' ' '~'
  | .punct => .ofList [.range '!' '/', .range ':' '@', .range '[' (Char.ofNat 0x60), .range '\x7b' '~']
  | .space => .asciiSpace
  | .upper => .range 'A' 'Z'
  | .word => .asciiWord
  | .xdigit => .ofList [.asciiDigits, .range 'a' 'f', .range 'A' 'F']

def shorthandSet (unicode : Bool) : Shorthand → CharSet
  | .digit => if unicode then .digits else .asciiDigits
  | .space => if unicode then .space else .asciiSpace
  | .word => if unicode then .word else .asciiWord

namespace Flags

def fold (f : Flags) (s : CharSet) : CharSet :=
  if f.ignoreCase then (if f.unicode then .anyCase s else .anyAsciiCase s) else s

/-- The complement of a set of bytes would hold bytes that are no characters. -/
def sign (f : Flags) (negated : Bool) (s : CharSet) : Except Fault CharSet :=
  if negated then (if f.unicode then .ok (.complement s) else .error .invalidUtf8) else .ok s

/-- The character a literal stands for, unless it is a byte that is no character. -/
def scalarOf (f : Flags) (l : Literal) : Except Fault Char :=
  if !f.unicode && l.byte && 0x80 ≤ l.char.val then .error .invalidUtf8 else .ok l.char

/-- A member of a class; without Unicode a class holds ASCII only. -/
def memberOf (f : Flags) (l : Literal) : Except Fault Char := do
  let c ← f.scalarOf l
  if !f.unicode && 0x80 ≤ c.val then .error .unicodeDisabled else return c

def property (f : Flags) (p : Property) (negated : Bool) : Except Fault CharSet :=
  if f.unicode then
    match propertySet? p with
    | some s => f.sign negated (f.fold s)
    | none => .error .propertyUnknown
  else .error .unicodeDisabled

def classSet (f : Flags) : ClassTree → Except Fault CharSet
  | .empty => .ok .none
  | .literal l => do return .single (← f.memberOf l)
  | .range first last => do return .range (← f.memberOf first) (← f.memberOf last)
  | .shorthand s negated => f.sign negated (shorthandSet f.unicode s)
  | .named n negated => f.sign negated (f.fold (namedSet n))
  | .property p negated => f.property p negated
  | .bracket negated inner => do f.sign negated (f.fold (← f.classSet inner))
  | .union l r => do return .union (← f.classSet l) (← f.classSet r)
  | .operation o l r => do
    let l := f.fold (← f.classSet l)
    let r := f.fold (← f.classSet r)
    match o with
    | .intersection => return .intersection l r
    | .difference => return .difference l r
    | .symmetricDifference => return .union (.difference l r) (.difference r l)

def literalNode (f : Flags) (l : Literal) : Except Fault Node := do
  return .one (f.fold (.single (← f.scalarOf l)))

def dotNode (f : Flags) : Except Fault Node :=
  if !f.unicode then .error .invalidUtf8
  else if f.dotMatchesNewLine then .ok (.one .all)
  else if f.crlf then .ok (.one (.complement (.union (.single '\n') (.single '\r'))))
  else .ok (.one (.complement (.single '\n')))

def look (f : Flags) : Assertion → Look
  | .lineStart => if f.multiLine then (if f.crlf then .crlfLineStart else .lineStart) else .start
  | .lineEnd => if f.multiLine then (if f.crlf then .crlfLineStop else .lineStop) else .stop
  | .textStart => .start
  | .textEnd => .stop
  | .wordBoundary => .boundary f.unicode
  | .notWordBoundary => .noBoundary f.unicode
  | .wordStart => .wordStart f.unicode
  | .wordEnd => .wordStop f.unicode
  | .wordStartHalf => .wordStartHalf f.unicode
  | .wordEndHalf => .wordStopHalf f.unicode

/-- The node of a tree, and the flags behind it. -/
def node (f : Flags) : Tree → Except Fault (Node × Flags)
  | .empty => .ok (.empty, f)
  | .flags changes => .ok (.empty, f.change changes)
  | .literal l => do return (← f.literalNode l, f)
  | .dot => do return (← f.dotNode, f)
  | .assertion a => .ok (.look (f.look a), f)
  | .shorthand s negated => do return (.one (← f.sign negated (shorthandSet f.unicode s)), f)
  | .property p negated => do return (.one (← f.property p negated), f)
  | .bracket negated inner => do
    return (.one (← f.sign negated (f.fold (← f.classSet inner))), f)
  | .repetition least most body => do
    let (n, f) ← f.node body
    return (.repetition least most n, f)
  | .group changes body => do
    let (n, _) ← (f.change changes).node body
    return (n, f)
  | .sequence l r => do
    let (a, f) ← f.node l
    let (b, f) ← f.node r
    return (.sequence a b, f)
  | .alternation l r => do
    let (a, f) ← f.node l
    let (b, f) ← f.node r
    return (.alternation a b, f)

end Flags

end MediaCatalogue.Pattern
