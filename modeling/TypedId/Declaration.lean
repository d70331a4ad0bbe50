/-
What is asked for: an identifier type with its name, its raw type and what it
shall be capable of. Both ways of asking lead to this.
-/
import TypedId.Diagnostic
import TypedId.Grammar.Whole
import TypedId.Token.Lexer

namespace TypedId

/-! ## Capabilities -/

/-- A trait to be derived. -/
structure Capability where
  path : Path
deriving Repr, Inhabited

namespace Capability

/-- The name of the trait, without the path before it. -/
def name (c : Capability) : String := c.path.last.ident.text

/-- All identifiers of the path, which tell apart traits of one name. -/
def qualifiedName (c : Capability) : String := c.path.qualifiedName

def span (c : Capability) : Span := c.path.last.ident.span

end Capability

/-! ## Names -/

/-- The name as it was written; it may turn out to be no identifier. -/
structure Name where
  text : String
  span : Span
deriving DecidableEq, Repr, Inhabited

namespace Name

def ofIdent (i : Ident) : Name := ⟨i.text, i.span⟩

/-- The one identifier that the text is made of, blanks and comments around it aside. -/
def toIdent (n : Name) : Except Fault Ident :=
  match Lexer.lex "" n.text with
  | none => .error (.placed n.span .notTokens)
  | some ts =>
    match Reader.run Reader.identifier ts with
    | .ok i => .ok ⟨i.text, n.span⟩
    | .error f => .error { f with span := n.span }

end Name

/-! ## Declarations -/

/-- Whether a new type is declared, or one that is written out. -/
inductive Form where
  | freestanding
  | attached
deriving DecidableEq, Repr

structure Declaration where
  name : Name
  rawType : RawType
  /-- In the order they were asked for. -/
  capabilities : List Capability
  visibility : Visibility
  /-- The attributes of the type, those that derive traits apart. -/
  attributes : List Attribute
  form : Form
  /-- Where the generated code finds the library, if this was said. -/
  cratePath : Option Path
deriving Repr

end TypedId
