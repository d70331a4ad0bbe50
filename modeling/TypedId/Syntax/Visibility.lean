/-
Visibilities: none written, `pub`, or `pub` restricted to a path.
-/
import TypedId.Syntax.Path

namespace TypedId

inductive Visibility where
  | inherited
  | everywhere (pub : Span)
  /-- `pub(…)`: the places of `pub`, of the parentheses and of the word `in` if it is there. -/
  | restricted (pub parens : Span) (within : Option Span) (path : Path)
deriving Repr, Inhabited

namespace Visibility

def tokens : Visibility → Tokens
  | .inherited => []
  | .everywhere s => [.ident "pub" s]
  | .restricted s parens within p =>
    [.ident "pub" s, .group .parenthesis
      ((within.map fun s => [Token.ident "in" s]).getD [] ++ p.tokens) parens]

def isInherited : Visibility → Bool
  | .inherited => true
  | _ => false

end Visibility

end TypedId
