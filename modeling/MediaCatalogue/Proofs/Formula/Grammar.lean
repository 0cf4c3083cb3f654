import MediaCatalogue.Formula.Expr
import MediaCatalogue.Formula.Token

/-! The grammar of formulas, apart from how they are read: what may stand between the parentheses of
a section, and which tree that stands for. -/

namespace MediaCatalogue

namespace Formula

/-- What a section consists of, once its empty groups are dropped and every other group stands as one
operand. -/
inductive Part where
  | not
  | connective (c : Connective)
  | operand (e : Expr)

/-- The part that a token is by itself; a parenthesis is none. -/
def Token.part? : Token → Option Part
  | .variable i => some (.operand (.var i))
  | .connective c => some (.connective c)
  | .not => some .not
  | .opening | .closing => none

def nots (n : Nat) : List Part := List.replicate n .not

/-- An operand behind `n` negations, of which every two cancel. -/
def signed (n : Nat) (e : Expr) : Expr := if n % 2 = 1 then .not e else e

/-- The gap between two operands, with negations on either side of its connective, and the operand
behind it. -/
structure Link where
  before : Nat
  connective : Connective
  after : Nat
  operand : Expr

def Link.parts (l : Link) : List Part :=
  nots l.before ++ .connective l.connective :: (nots l.after ++ [.operand l.operand])

/-- Negations, a first operand, one link for each further operand, and negations behind the last. -/
structure Chain where
  signs : Nat
  first : Expr
  links : List Link
  trailing : Nat

namespace Chain

def parts (c : Chain) : List Part :=
  nots c.signs ++ .operand c.first :: (c.links.flatMap Link.parts ++ nots c.trailing)

def join (e : Expr) (l : Link) : Expr :=
  .binary l.connective e (signed (l.before + l.after) l.operand)

def expr (c : Chain) : Expr := c.links.foldl join (signed c.signs c.first)

def snoc (c : Chain) (k : Connective) (n : Nat) (e : Expr) : Chain :=
  { c with links := c.links ++ [⟨c.trailing, k, n, e⟩], trailing := 0 }

end Chain

/-- The two shapes of a section, with the tree that it stands for: an even number of negations, which
is nothing, or operands with one connective in every gap. -/
inductive Shape : List Part → Option Expr → Prop where
  | empty {n : Nat} (even : n % 2 = 0) : Shape (nots n) none
  | joined (c : Chain) (even : c.trailing % 2 = 0) : Shape c.parts (some c.expr)

/-- `Content d ts ps`: a section may hold the tokens `ts` between its parentheses. It has the parts
`ps`, and its groups nest `d` deep. -/
inductive Content : Nat → List Token → List Part → Prop where
  | nil : Content 0 [] []
  | plain {d : Nat} {ts : List Token} {ps : List Part} {t : Token} {p : Part}
      (before : Content d ts ps) (part : t.part? = some p) : Content d (ts ++ [t]) (ps ++ [p])
  | group {d d' : Nat} {ts us : List Token} {ps qs : List Part} {root : Option Expr}
      (before : Content d ts ps) (inner : Content d' us qs) (shape : Shape qs root) :
      Content (max d (d' + 1)) (ts ++ .opening :: (us ++ [.closing]))
        (ps ++ (root.map Part.operand).toList)

namespace Content

variable {d : Nat} {ts : List Token} {ps : List Part}

theorem not (h : Content d ts ps) : Content d (ts ++ [.not]) (ps ++ [.not]) := h.plain rfl

theorem connective (h : Content d ts ps) (c : Connective) :
    Content d (ts ++ [.connective c]) (ps ++ [.connective c]) := h.plain rfl

theorem «variable» (h : Content d ts ps) (i : Nat) :
    Content d (ts ++ [.variable i]) (ps ++ [.operand (.var i)]) := h.plain rfl

/-- Tokens without parentheses are parts one by one. -/
theorem plains {us : List Token} {qs : List Part} (h : Content d ts ps)
    (parts : us.map Token.part? = qs.map some) : Content d (ts ++ us) (ps ++ qs) := by
  induction us generalizing ts ps qs with
  | nil =>
    obtain rfl := List.map_eq_nil_iff.mp parts.symm
    simpa using h
  | cons u us ih =>
    cases qs with
    | nil => cases parts
    | cons q qs =>
      obtain ⟨hu, parts⟩ := List.cons.inj parts
      simpa using ih (h.plain hu) parts

end Content

end Formula

end MediaCatalogue
