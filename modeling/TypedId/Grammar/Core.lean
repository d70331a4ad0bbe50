/-
The recursive parts of the grammar. Types, bounds, expressions, patterns,
statements and declarations contain one another, so every reader below is
written over a `Grammar`, a record of readers for the parts it contains. The
record is built from itself in `TypedId.Grammar.Whole`.
-/
import TypedId.Reader
import TypedId.Syntax.Item
import TypedId.Syntax.Expression

namespace TypedId

inductive BoundKind where
  | trait
  | lifetime
  /-- A list of captured parameters. -/
  | capture
  /-- A bound on constness, kept as it stood. -/
  | verbatim
deriving DecidableEq, Repr

/-- One bound of a parameter or a trait object. -/
structure Bound where
  tokens : Tokens
  kind : BoundKind
  /-- Where a complaint about a bound that is no trait ends. -/
  place : Span
deriving Repr

structure Grammar where
  /-- A type; `plus` allows a sum of bounds, `generic` arguments behind an invisible group. -/
  type (plus generic : Bool) : Reader RawType
  /-- A bound; `capture` and `const` say which special forms may stand there. -/
  bound (capture const : Bool) : Reader Bound
  /-- An expression; `braces` allows struct expressions. -/
  expression (braces : Bool) : Reader Expression
  unary (braces : Bool) : Reader Expression
  /-- The operators behind a left side that bind as tightly as `base`. -/
  climb (braces : Bool) (base : Precedence) (left : Expression) : Reader Expression
  /-- An expression that ends where a block does. -/
  early : Reader Expression
  pattern : Reader Pattern
  statements : Reader Tokens
  item : Reader Item
  /-- Named fields with the commas behind them, up to the end of the scope. -/
  fields : Reader (List (Field × Tokens))
  /-- A tree of imports, and whether one of its paths starts at the root where only its parent
  may. -/
  imports (root : Bool) : Reader (Tokens × Bool)

namespace Grammar

/-- Every part refuses to read. -/
def stuck : Grammar where
  type _ _ := Reader.complain .stuck
  bound _ _ := Reader.complain .stuck
  expression _ := Reader.complain .stuck
  unary _ := Reader.complain .stuck
  climb _ _ _ := Reader.complain .stuck
  early := Reader.complain .stuck
  pattern := Reader.complain .stuck
  statements := Reader.complain .stuck
  item := Reader.complain .stuck
  fields := Reader.complain .stuck
  imports _ := Reader.complain .stuck

end Grammar

end TypedId
