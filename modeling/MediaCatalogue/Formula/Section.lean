import MediaCatalogue.Formula.Error
import MediaCatalogue.Formula.Expr
import MediaCatalogue.Formula.Token

/-! Reading a token list as one parenthesised section. Operands combine strictly from left to right;
the state of every section that is still open waits on a stack. -/

namespace MediaCatalogue

namespace Formula

/-- Parentheses may nest this deep below the outermost pair. -/
def maxDepth : Nat := 256

/-- The state of a section that is not closed yet. -/
structure Frame where
  /-- The position of the opening parenthesis. -/
  opened : Nat
  /-- The expression read so far. -/
  node : Option Expr := none
  /-- A connective that waits for its right operand. -/
  pending : Option Connective := none
  /-- Whether the next operand is negated. -/
  negated : Bool := false
  deriving DecidableEq

namespace Frame

def negate (f : Frame) : Frame := { f with negated := !f.negated }

/-- Takes in a connective; there must be an operand to its left and none pending. -/
def connect (f : Frame) (c : Connective) : Except Fault Frame :=
  match f.node, f.pending with
  | none, _ => .error (.noLeftOperand c)
  | some _, some p => .error (.noOperandBetween c p)
  | some _, none => .ok { f with pending := some c }

/-- Takes in an operand, negated if a negation is due. -/
def operand (f : Frame) (e : Expr) : Except Fault Frame :=
  let e := if f.negated then .not e else e
  match f.node, f.pending with
  | none, _ => .ok { opened := f.opened, node := some e }
  | some l, some c => .ok { opened := f.opened, node := some (.binary c l e) }
  | some _, none => .error .missingConnective

/-- What the section holds, once it is closed; an empty section holds nothing. -/
def close (f : Frame) : Except Fault (Option Expr) :=
  match f.pending with
  | some c => .error (.noRightOperand c)
  | none => if f.negated then .error .danglingNegation else .ok f.node

end Frame

/-- How far the reading of a token list has come. -/
inductive Reading where
  | start
  /-- Inside the section `inner`, itself inside the sections `outer`, the nearest first. -/
  | inside (inner : Frame) (outer : List Frame)
  /-- Behind the outermost section. -/
  | done (root : Option Expr)
  deriving DecidableEq

/-- A fault and the position of the token to blame. -/
abbrev Blame := Fault × Nat

def blame (position : Nat) {α : Type} : Except Fault α → Except Blame α
  | .ok a => .ok a
  | .error fault => .error (fault, position)

namespace Reading

/-- Hands what a closed section holds to the section around it. An operand that does not fit is
blamed on its opening parenthesis. -/
def leave (opened : Nat) (root : Option Expr) : List Frame → Except Blame Reading
  | [] => .ok (.done root)
  | outer :: rest =>
    match root with
    | none => .ok (.inside outer rest)
    | some e => (blame opened (outer.operand e)).map (.inside · rest)

/-- Reads the token at `position`. -/
def step (position : Nat) : Reading → Token → Except Blame Reading
  | .start, .opening => .ok (.inside { opened := position } [])
  | .start, _ => .error (.expectedOpening, position)
  | .done _, _ => .error (.trailingContent, position)
  | .inside f outer, .opening =>
    if outer.length < maxDepth then .ok (.inside { opened := position } (f :: outer))
    else .error (.nestedTooDeeply, position)
  | .inside f outer, .closing => do
    let root ← blame position f.close
    leave f.opened root outer
  | .inside f outer, .connective c => (blame position (f.connect c)).map (.inside · outer)
  | .inside f outer, .not => .ok (.inside f.negate outer)
  | .inside f outer, .variable i => (blame position (f.operand (.var i))).map (.inside · outer)

def run (position : Nat) (state : Reading) : List Token → Except Blame Reading
  | [] => .ok state
  | t :: ts => do (← state.step position t).run (position + 1) ts

/-- What the list that ends here holds. -/
def finish : Reading → Except Blame Expr
  | .start => .error (.expectedOpening, 0)
  | .inside f _ => .error (.unclosed, f.opened)
  | .done none => .error (.empty, 0)
  | .done (some e) => .ok e

end Reading

def readTokens (tokens : List Token) : Except Blame Expr := do
  (← Reading.start.run 0 tokens).finish

def parseTokens (tokens : List Token) (source : List Char) : Except Error Expr :=
  match readTokens tokens with
  | .ok e => .ok e
  | .error (fault, position) => .error (.malformed fault source position)

end Formula

end MediaCatalogue
