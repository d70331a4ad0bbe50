/-
Attributes: a path with nothing behind it, with a delimited list of tokens
that nobody has looked into yet, or with a value.
-/
import TypedId.Syntax.Path

namespace TypedId

inductive AttributeBody where
  | bare
  | list (delimiter : Delimiter) (content : Tokens) (place : Span)
  /-- A value and the place of the equals sign before it. -/
  | value (equals : Span) (tokens : Tokens)
deriving Repr, Inhabited

def AttributeBody.tokens : AttributeBody → Tokens
  | .bare => []
  | .list d content s => [.group d content s]
  | .value s ts => .punct '=' false s :: ts

structure Attribute where
  hash : Span
  /-- The place of the exclamation mark of an inner attribute. -/
  bang : Option Span
  bracket : Span
  path : Path
  body : AttributeBody
deriving Repr, Inhabited

namespace Attribute

def tokens (a : Attribute) : Tokens :=
  .punct '#' false a.hash ::
    ((a.bang.map fun s => [Token.punct '!' false s]).getD [] ++
      [.group .bracket (a.path.tokens ++ a.body.tokens) a.bracket])

/-- Whether the path is `derive` and nothing more. -/
def isDerive (a : Attribute) : Bool := a.path.isIdent "derive"

/-- How the attribute would be written with arguments, for messages. -/
def withArguments (a : Attribute) : String :=
  (if a.bang.isSome then "#!" else "#") ++ "[" ++ a.path.qualifiedName ++ "(...)]"

end Attribute

end TypedId
