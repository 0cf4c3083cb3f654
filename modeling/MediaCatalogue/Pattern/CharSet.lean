import MediaCatalogue.Unicode.CaseVariant
import MediaCatalogue.Unicode.Category
import MediaCatalogue.Unicode.Property
import MediaCatalogue.Unicode.Script

/-! Sets of characters, as descriptions with a membership test. -/

namespace MediaCatalogue.Pattern

inductive CharSet where
  | none
  | range (first last : Char)
  | codes (s : Unicode.CodeSet)
  | category (g : Unicode.CategoryGroup)
  | script (code : String)
  | usedInScript (code : String)
  | union (l r : CharSet)
  | intersection (l r : CharSet)
  | complement (s : CharSet)
  /-- The set with every case variant of its members. -/
  | anyCase (s : CharSet)
  /-- The set with the other case of each of its ASCII letters. -/
  | anyAsciiCase (s : CharSet)

namespace CharSet

def otherAsciiCase (c : Char) : Char := if c.isUpper then c.toLower else c.toUpper

def contains (s : CharSet) (c : Char) : Bool :=
  match s with
  | none => false
  | range first last => first ≤ c && c ≤ last
  | codes s => s.contains c
  | category g => g.contains c
  | script code => Unicode.script c == code
  | usedInScript code => Unicode.usedInScript code c
  | union l r => l.contains c || r.contains c
  | intersection l r => l.contains c && r.contains c
  | complement s => !s.contains c
  | anyCase s => s.contains c || (Unicode.caseVariants c).any s.contains
  | anyAsciiCase s => s.contains c || s.contains (otherAsciiCase c)

def single (c : Char) : CharSet := range c c

def all : CharSet := complement none

def difference (l r : CharSet) : CharSet := intersection l (complement r)

def ofList (sets : List CharSet) : CharSet := sets.foldr union none

def asciiDigits : CharSet := range '0' '9'

def asciiLetters : CharSet := union (range 'a' 'z') (range 'A' 'Z')

def asciiWord : CharSet := ofList [asciiDigits, asciiLetters, single '_']

def asciiSpace : CharSet := union (range '\t' '\r') (single ' ')

def digits : CharSet := category ⟨"nd", [], ["Nd"]⟩

def space : CharSet := codes Unicode.whiteSpace

/-- The characters of words: letters, marks, decimal digits, connectors and joiners. -/
def word : CharSet :=
  ofList [codes Unicode.alphabetic, category ⟨"", [], ["Mn", "Mc", "Me", "Nd", "Pc"]⟩,
    codes Unicode.joinControl]

end CharSet

end MediaCatalogue.Pattern
