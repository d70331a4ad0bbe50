/-
Token trees. A group holds its contents between delimiters; the invisible
delimiters stand around tokens that another macro put in, and reading mostly
looks through them. A punctuation mark is joint when the next one follows it
directly, so that `::` is a joint colon and a plain one. A raw identifier
keeps its `r#` in its text.
-/
import TypedId.Span

namespace TypedId

inductive Delimiter where
  | parenthesis
  | bracket
  | brace
  | invisible
deriving DecidableEq, Repr, Inhabited

namespace Delimiter

/-- What a delimited group is called in messages. -/
def description : Delimiter → String
  | .parenthesis => "parentheses"
  | .bracket => "square brackets"
  | .brace => "curly braces"
  | .invisible => "invisible group"

/-- The written closing delimiter. -/
def close : Delimiter → String
  | .parenthesis => ")"
  | .bracket => "]"
  | .brace => "\x7d"
  | .invisible => ""

end Delimiter

inductive Token where
  | group (delimiter : Delimiter) (content : List Token) (span : Span)
  | ident (text : String) (span : Span)
  | punct (char : Char) (joint : Bool) (span : Span)
  | literal (text : String) (span : Span)
deriving Repr, Inhabited

abbrev Tokens := List Token

/-- An identifier with its place. -/
structure Ident where
  text : String
  span : Span
deriving DecidableEq, Repr, Inhabited

def Ident.token (i : Ident) : Token := .ident i.text i.span

namespace Token

def span : Token → Span
  | .group _ _ s => s
  | .ident _ s => s
  | .punct _ _ s => s
  | .literal _ s => s

/-- Where an error at this token points: a group is pointed at by its opening delimiter. -/
def errorSpan : Token → Span
  | .group _ _ s => s.opening
  | t => t.span

/-- Whether no space follows this token. -/
def isJoint : Token → Bool
  | .punct _ joint _ => joint
  | _ => false

/-- Puts the token, with all it holds, at one place. -/
def moveTo (place : Span) : Token → Token
  | .group d ts _ => .group d (ts.map (moveTo place)) place
  | .ident x _ => .ident x place
  | .punct c j _ => .punct c j place
  | .literal x _ => .literal x place

mutual

/-- The number of tokens, a group counting one more than its contents. -/
def weight : Token → Nat
  | .group _ ts _ => weightAll ts + 1
  | _ => 1

def weightAll : List Token → Nat
  | [] => 0
  | t :: ts => t.weight + weightAll ts

end

mutual

/-- The shown text of a token. -/
def shown : Token → String
  | .group .parenthesis ts _ => "(" ++ shownAll ts ++ ")"
  | .group .bracket ts _ => "[" ++ shownAll ts ++ "]"
  | .group .brace [] _ => "\x7b \x7d"
  | .group .brace (t :: ts) _ => "\x7b " ++ shownAll (t :: ts) ++ " \x7d"
  | .group .invisible ts _ => shownAll ts
  | .ident x _ => x
  | .punct c _ _ => String.singleton c
  | .literal x _ => x

/-- Tokens are parted by one space, except after a joint mark. -/
def shownAll : List Token → String
  | [] => ""
  | [t] => t.shown
  | t :: u :: ts => t.shown ++ (if t.isJoint then "" else " ") ++ shownAll (u :: ts)

end

mutual

/-- A token freed of the invisible groups that hide it: its own contents if it is one. -/
def entered : Token → List Token
  | .group .invisible ts _ => enterAll ts
  | t => [t]

/-- The tokens with the invisible groups at their front taken apart, until a token shows. -/
def enterAll : List Token → List Token
  | [] => []
  | t :: ts =>
    match t.entered with
    | [] => enterAll ts
    | inner => inner ++ ts

end

end Token

namespace Tokens

/-- The shown text of a token sequence. -/
def shown (ts : Tokens) : String := Token.shownAll ts

def weight (ts : Tokens) : Nat := Token.weightAll ts

/-- Takes apart the invisible groups in front. -/
def enter (ts : Tokens) : Tokens := Token.enterAll ts

def moveTo (place : Span) (ts : Tokens) : Tokens := ts.map (Token.moveTo place)

/-- From the first token to the last, or the call site for no tokens. -/
def span : Tokens → Span
  | [] => .callSite
  | t :: ts => t.span.join ((t :: ts).getLast (by simp)).span

/-- The tokens of an operator: its marks are joint up to the last. -/
def operator (place : Span) : List Char → Tokens
  | [] => []
  | [c] => [.punct c false place]
  | c :: cs => .punct c true place :: operator place cs

@[simp] theorem span_singleton (t : Token) : span [t] = t.span := Span.join_self t.span

@[simp] theorem weight_nil : weight [] = 0 := rfl

@[simp] theorem weight_cons (t : Token) (ts : Tokens) : weight (t :: ts) = t.weight + weight ts := rfl

@[simp] theorem weight_append (a b : Tokens) : weight (a ++ b) = weight a + weight b := by
  induction a with
  | nil => simp
  | cons t ts ih => simp [ih, Nat.add_assoc]

@[simp] theorem weight_group (d : Delimiter) (ts : Tokens) (s : Span) :
    (Token.group d ts s).weight = weight ts + 1 := rfl

theorem weight_pos (t : Token) : 0 < t.weight := by
  cases t <;> simp [Token.weight]

end Tokens

end TypedId
