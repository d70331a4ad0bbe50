/-
Types, as far as a declaration of an identifier looks into them. A type is
written back as it was read; the shapes that later stages tell apart have
constructors, everything else is kept as its tokens. `core` takes away the
layers that only wrap a type.
-/
import TypedId.Syntax.Path

namespace TypedId

inductive RawType where
  /-- The placeholder `_`. -/
  | infer (place : Span)
  /-- The type `!`. -/
  | never (place : Span)
  /-- The empty tuple. -/
  | unit (place : Span)
  | paren (inner : RawType) (place : Span)
  /-- A type that another macro put in. -/
  | group (inner : RawType) (place : Span)
  /-- A path; `owner` holds the tokens of a qualifying `<T as U>::` in front of it. -/
  | path (owner : Tokens) (path : Path)
  /-- One trait bound that stands for its trait object, in parentheses or not. -/
  | bound (parens : Option Span) (inner : Tokens)
  | other (tokens : Tokens)
deriving Repr, Inhabited

namespace RawType

def tokens : RawType → Tokens
  | .infer s => [.ident "_" s]
  | .never s => [.punct '!' false s]
  | .unit s => [.group .parenthesis [] s]
  | .paren t s => [.group .parenthesis t.tokens s]
  | .group t s => [.group .invisible t.tokens s]
  | .path owner p => owner ++ p.tokens
  | .bound (some s) ts => [.group .parenthesis ts s]
  | .bound none ts => ts
  | .other ts => ts

/-- From the first token to the last. -/
def span (t : RawType) : Span := t.tokens.span

/-- The type under all parentheses and invisible groups. -/
def core : RawType → RawType
  | .paren t _ => t.core
  | .group t _ => t.core
  | t => t

/-- The identifier of a type that is a path of just that. -/
def ident? : RawType → Option Ident
  | .path [] p => p.ident?
  | _ => none

@[simp] theorem core_paren (t : RawType) (s : Span) : (RawType.paren t s).core = t.core := rfl

@[simp] theorem core_group (t : RawType) (s : Span) : (RawType.group t s).core = t.core := rfl

end RawType

end TypedId
