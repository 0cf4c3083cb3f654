import MediaCatalogue.Unicode.Category
import MediaCatalogue.Unicode.Property

/-! Text between double quotes, with escapes for what would not show. -/

namespace MediaCatalogue

/-- Categories whose characters do not show, the space apart. -/
def unseenCategories : List String := ["Cc", "Cf", "Cs", "Co", "Cn", "Zl", "Zp", "Zs"]

def showsAlone (c : Char) : Bool :=
  c == ' ' || (!unseenCategories.contains (Unicode.category c) && !Unicode.graphemeExtend.contains c)

def hexText (n : Nat) : String := String.ofList (Nat.toDigits 16 n)

def escapeChar (c : Char) : String :=
  match c with
  | '\x00' => "\\0"
  | '\t' => "\\t"
  | '\r' => "\\r"
  | '\n' => "\\n"
  | '"' => "\\\""
  | '\\' => "\\\\"
  | c => if showsAlone c then c.toString else "\\u\x7b" ++ hexText c.toNat ++ "\x7d"

def quoted (s : String) : String := "\"" ++ String.join (s.toList.map escapeChar) ++ "\""

end MediaCatalogue
