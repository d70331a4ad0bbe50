/-
Declarations. Of a struct everything is kept that decides whether it can
become an identifier; of any other declaration only its tokens.
-/
import TypedId.Syntax.Attribute
import TypedId.Syntax.RawType
import TypedId.Syntax.Visibility

namespace TypedId

/-- Generic parameters: how many there are, and the tokens from `<` to `>`. -/
structure Generics where
  count : Nat
  tokens : Tokens
deriving Repr, Inhabited

/-- A where clause: the place of the word, and the tokens if there is a predicate. -/
structure WhereClause where
  place : Span
  tokens : Tokens
deriving Repr, Inhabited

structure Field where
  attributes : List Attribute
  visibility : Visibility
  /-- None in a tuple struct. -/
  name : Option Ident
  type : RawType
deriving Repr, Inhabited

/-- A field as it is written back. -/
def Field.tokens (f : Field) : Tokens :=
  f.attributes.flatMap Attribute.tokens ++ f.visibility.tokens ++
    (f.name.map fun i => i.token :: .punct ':' false i.span :: []).getD [] ++ f.type.tokens

/-- The name of a field, or the type of a tuple field. -/
def Field.span (f : Field) : Span :=
  match f.name with
  | some name => name.span
  | none => f.type.span

structure StructItem where
  attributes : List Attribute
  visibility : Visibility
  name : Ident
  generics : Generics
  whereClause : Option WhereClause
  fields : List Field
deriving Repr, Inhabited

inductive Item where
  /-- A struct, and its tokens as they are written back. -/
  | struct (decl : StructItem) (tokens : Tokens)
  | other (tokens : Tokens)
deriving Repr, Inhabited

namespace Item

def tokens : Item → Tokens
  | .struct _ ts => ts
  | .other ts => ts

/-- From the first token, attributes included, to the last. -/
def span (i : Item) : Span := i.tokens.span

end Item

end TypedId
