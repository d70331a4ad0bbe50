/-
Expressions and patterns. They are checked for their form and written back,
so all that is kept of one is its tokens and what decides how reading goes on
behind it.
-/
import TypedId.Syntax.Path

namespace TypedId

/-- How tightly an operator binds, loosest first. -/
inductive Precedence where
  | jump
  | assign
  | range
  | or
  | and
  | compare
  | bitOr
  | bitXor
  | bitAnd
  | shift
  | sum
  | product
  | cast
deriving DecidableEq, Repr

namespace Precedence

def rank : Precedence → Nat
  | .jump => 0
  | .assign => 1
  | .range => 2
  | .or => 3
  | .and => 4
  | .compare => 5
  | .bitOr => 6
  | .bitXor => 7
  | .bitAnd => 8
  | .shift => 9
  | .sum => 10
  | .product => 11
  | .cast => 12

/-- The binary operators, those with more characters before their beginnings. -/
def operators : List (String × Precedence) :=
  [("+=", .assign), ("-=", .assign), ("*=", .assign), ("/=", .assign), ("%=", .assign),
   ("^=", .assign), ("&=", .assign), ("|=", .assign), ("<<=", .assign), (">>=", .assign),
   ("&&", .and), ("||", .or), ("<<", .shift), (">>", .shift), ("==", .compare),
   ("<=", .compare), ("!=", .compare), (">=", .compare), ("+", .sum), ("-", .sum),
   ("*", .product), ("/", .product), ("%", .product), ("^", .bitXor), ("&", .bitAnd),
   ("|", .bitOr), ("<", .compare), (">", .compare)]

end Precedence

inductive ExpressionKind where
  /-- A range and the place of its dots. -/
  | range (dots : Span)
  | comparison
  /-- Ends a statement by itself: a block, a branch or a loop. -/
  | blockLike
  | bracedCall
  | otherCall
  /-- A path without attributes. -/
  | path (owner : Tokens) (path : Path)
  /-- An expression that another macro put in. -/
  | group (blockLike : Bool)
  /-- Kept as it stood in the input. -/
  | verbatim
  | other
deriving Repr, Inhabited

structure Expression where
  tokens : Tokens
  kind : ExpressionKind
deriving Repr, Inhabited

namespace Expression

def plain (tokens : Tokens) : Expression := ⟨tokens, .other⟩

def isRange (e : Expression) : Bool :=
  match e.kind with
  | .range _ => true
  | _ => false

def isComparison (e : Expression) : Bool :=
  match e.kind with
  | .comparison => true
  | _ => false

def isBlockLike (e : Expression) : Bool :=
  match e.kind with
  | .blockLike => true
  | _ => false

/-- Whether an expression at the front of a statement can be the left side of more. -/
def goesOn (e : Expression) : Bool :=
  match e.kind with
  | .blockLike => false
  | .group blockLike => !blockLike
  | _ => true

/-- Whether a statement needs a semicolon behind the expression. -/
def needsSemicolon (e : Expression) : Bool :=
  match e.kind with
  | .blockLike => false
  | .bracedCall => false
  | _ => true

/-- Whether the last token is a group in braces. -/
def endsInBrace (e : Expression) : Bool :=
  match e.tokens.getLast? with
  | some (.group .brace _ _) => true
  | _ => false

/-- Puts attributes in front; an expression that is kept as it stood takes none. -/
def attributed (attributes : Tokens) (e : Expression) : Expression :=
  if attributes.isEmpty then e
  else
    match e.kind with
    | .path _ _ => ⟨attributes ++ e.tokens, .other⟩
    | .verbatim => e
    | kind => ⟨attributes ++ e.tokens, kind⟩

end Expression

inductive PatternKind where
  /-- The pattern `..`. -/
  | rest
  /-- A range without one of its ends, and the place of its dots. -/
  | openRange (dots : Span)
  | other
deriving Repr, Inhabited

structure Pattern where
  tokens : Tokens
  kind : PatternKind
deriving Repr, Inhabited

def Pattern.plain (tokens : Tokens) : Pattern := ⟨tokens, .other⟩

end TypedId
