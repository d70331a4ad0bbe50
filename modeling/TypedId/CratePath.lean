/-
The path under which generated code finds the library it needs. It is given
as the text of a string literal; whatever is wrong with that text is reported
at the literal.
-/
import TypedId.Declaration

namespace TypedId

/-- A string literal: its text, the suffix behind it, and its place. -/
structure TextLiteral where
  text : String
  suffix : String
  span : Span
deriving DecidableEq, Repr

/-- Reads a string literal. -/
def Reader.textLiteral : Reader TextLiteral := do
  let ts ← literalOf .stringLiteral
  let (text, suffix) := match ts with
    | [.literal written _] => (Token.Literal.stringValue? written).getD ("", "")
    | _ => ("", "")
  return ⟨text, suffix, Tokens.span ts⟩

namespace CratePath

/-- The path that holds if none is given. -/
def standard : Path := .ofIdent ⟨"identity", .callSite⟩

def orStandard (given : Option Path) : Path := given.getD standard

/-- The path in a literal. A suffix is only looked at when the text is a path. -/
def ofLiteral (l : TextLiteral) : Except Fault Path :=
  let invalid (cause : String) : Except Fault Path := .error (.placed l.span (.cratePath cause))
  match Lexer.lex "" l.text with
  | none => invalid Complaint.notTokens.text
  | some ts =>
    match Reader.runIn ⟨l.span, .invisible⟩ Grammar.anyPath (Tokens.moveTo l.span ts) with
    | .error f => invalid f.message
    | .ok p => if l.suffix.isEmpty then .ok p else invalid (Complaint.suffix l.suffix).text

end CratePath

end TypedId
