/-
Why reading stops. A fault names what was wrong with the tokens at one place;
at the end of the tokens the message says so first. The wording of every
fault is in `Complaint.text` and `Fault.message`.
-/
import TypedId.Token.Sign

namespace TypedId

inductive Complaint where
  /-- One of these signs had to follow; none of them means that nothing could. -/
  | expected (signs : List Sign)
  /-- Something had to follow that no single sign stands for. -/
  | wanted (what : String)
  /-- A keyword stood where a plain identifier belongs. -/
  | keywordForIdentifier (keyword : String)
  /-- Tokens were left over when a group, or the input, had been read. -/
  | leftOver (closing : Delimiter)
  /-- A statement ran on without its semicolon. -/
  | missingSemicolon
  | metaLiteral
  | metaToken
  | attributeInAttribute
  | chainedComparison
  | castFollowed (what : String)
  | traitlessObject
  | traitlessImpl
  | captureNotAllowed
  | constNotAllowed (written : String)
  | binderWithRelaxed
  | attributedRange
  | unparenthesisedRange
  | labelledBreak
  | secondReceiver
  | lateReceiver
  | negativeInherent
  | badIndex
  | largeIndex
  | bareAttribute (written : String)
  | valuedAttribute (written : String)
  /-- An option that its macro does not take; `allowed` lists those it does. -/
  | unsupportedOption (allowed : String)
  /-- The text of a crate path is none. -/
  | cratePath (cause : String)
  | suffix (text : String)
  /-- The text is no token sequence. -/
  | notTokens
  /-- The reading took no token where it had to. -/
  | stuck
deriving DecidableEq, Repr

namespace Complaint

def text : Complaint → String
  | .expected [] => "unexpected token"
  | .expected [a] => "expected " ++ a.name
  | .expected [a, b] => "expected " ++ a.name ++ " or " ++ b.name
  | .expected signs => "expected one of: " ++ ", ".intercalate (signs.map Sign.name)
  | .wanted what => "expected " ++ what
  | .keywordForIdentifier kw => "expected identifier, found keyword `" ++ kw ++ "`"
  | .leftOver .invisible => "unexpected token"
  | .leftOver d => "unexpected token, expected `" ++ d.close ++ "`"
  | .missingSemicolon => "unexpected token, expected `;`"
  | .metaLiteral => "unexpected literal in nested attribute, expected ident"
  | .metaToken => "unexpected token in nested attribute, expected ident"
  | .attributeInAttribute => "unexpected attribute inside of attribute"
  | .chainedComparison => "comparison operators cannot be chained"
  | .castFollowed what => "casts cannot be followed by " ++ what
  | .traitlessObject => "at least one trait is required for an object type"
  | .traitlessImpl => "at least one trait must be specified"
  | .captureNotAllowed => "`use<...>` precise capturing syntax is not allowed here"
  | .constNotAllowed written => "`" ++ written ++ "` is not allowed here"
  | .binderWithRelaxed => "`for<...>` binder not allowed with `?` trait polarity modifier"
  | .attributedRange => "attributes are not allowed on range expressions starting with `..`"
  | .unparenthesisedRange => "range pattern is not allowed unparenthesized inside slice pattern"
  | .labelledBreak => "parentheses required"
  | .secondReceiver => "unexpected second method receiver"
  | .lateReceiver => "unexpected method receiver"
  | .negativeInherent => "inherent impls cannot be negative"
  | .badIndex => "invalid digit found in string"
  | .largeIndex => "number too large to fit in target type"
  | .bareAttribute written => "expected attribute arguments in parentheses: " ++ written
  | .valuedAttribute written => "expected parentheses: " ++ written
  | .unsupportedOption allowed => "unsupported identifier option; " ++ allowed
  | .cratePath cause => "invalid crate path: " ++ cause
  | .suffix text => "unexpected suffix `" ++ text ++ "` on string literal"
  | .notTokens => "cannot parse string into token stream"
  | .stuck => "unexpected token"

end Complaint

structure Fault where
  complaint : Complaint
  span : Span
  /-- Whether the tokens had ended where more were needed. -/
  atEnd : Bool
deriving DecidableEq, Repr

namespace Fault

def message (f : Fault) : String :=
  if f.atEnd then
    if f.complaint = .expected [] then "unexpected end of input"
    else "unexpected end of input, " ++ f.complaint.text
  else f.complaint.text

/-- A fault at a place known beforehand. -/
def placed (span : Span) (complaint : Complaint) : Fault := ⟨complaint, span, false⟩

/-- A fault at the next token, or at the closing place if there is none. -/
def before (close : Span) (rest : Tokens) (complaint : Complaint) : Fault :=
  match rest with
  | [] => ⟨complaint, close, true⟩
  | t :: _ => ⟨complaint, t.errorSpan, false⟩

end Fault

end TypedId
