/-
What a literal token says: its kind, and for string literals the text between
the quotes and the suffix behind them. A literal is told apart by its first
characters, since the lexer has already checked its form.
-/
import TypedId.Text.IdentifierChars
import TypedId.Token.Escape

namespace TypedId.Token

inductive LiteralKind where
  | string
  | integer
  | float
  /-- Characters, bytes, byte strings and the like. -/
  | other
deriving DecidableEq, Repr

namespace Literal

/-- A number in base ten is a float if it has a point or an exponent with a digit. -/
def isFloat : List Char → Bool
  | '0' :: 'x' :: _ | '0' :: 'o' :: _ | '0' :: 'b' :: _ => false
  | digits =>
    match digits.dropWhile fun c => c.isDigit || c == '_' with
    | '.' :: _ => true
    | e :: rest =>
      (e == 'e' || e == 'E') &&
        ((rest.takeWhile fun c => c.isDigit || c == '_').any Char.isDigit ||
          rest.any fun c => c == '+' || c == '-')
    | [] => false

def kind (text : String) : LiteralKind :=
  match text.toList with
  | '"' :: _ => .string
  | 'r' :: _ => .string
  | '-' :: rest => if isFloat rest then .float else .integer
  | c :: rest => if c.isDigit then if isFloat (c :: rest) then .float else .integer else .other
  | [] => .other

/-- Splits the text behind an opening quote at the closing one, with the escapes replaced. -/
def unescape : List Char → List Char × List Char
  | [] => ([], [])
  | '"' :: rest => ([], rest)
  | '\\' :: 'x' :: rest =>
    let (content, suffix) := unescape (rest.drop 2)
    (Char.ofNat ((Escape.byteValue? rest).getD 0) :: content, suffix)
  | '\\' :: 'u' :: rest =>
    let (value, length) := (Escape.unicode? rest).getD (0, 0)
    let (content, suffix) := unescape (rest.drop length)
    (Char.ofNat value :: content, suffix)
  | '\\' :: '\n' :: rest => unescape (rest.drop ((Escape.continuation? rest).getD 0))
  | '\\' :: '\r' :: rest => unescape (rest.drop ((Escape.continuation? ('\r' :: rest)).getD 1 - 1))
  | '\\' :: c :: rest =>
    let (content, suffix) := unescape rest
    (Escape.simpleValue c :: content, suffix)
  | '\r' :: '\n' :: rest =>
    let (content, suffix) := unescape rest
    ('\n' :: content, suffix)
  | c :: rest =>
    let (content, suffix) := unescape rest
    (c :: content, suffix)
termination_by text => text.length

/-- The content and the suffix of a raw string, given the text behind its `r`. -/
def rawContent (text : List Char) : List Char × List Char :=
  let hashes := (text.takeWhile (· == '#')).length
  let behind := text.reverse.takeWhile (· != '"')
  let content := (text.drop (hashes + 1)).take (text.length - behind.length - hashes - 2)
  (content, behind.reverse.drop hashes)

/-- The text of a string literal and its suffix; none for a literal of another kind. -/
def stringValue? (text : String) : Option (String × String) :=
  match text.toList with
  | '"' :: rest =>
    let (content, suffix) := unescape rest
    some (String.ofList content, String.ofList suffix)
  | 'r' :: rest =>
    let (content, suffix) := rawContent rest
    some (String.ofList content, String.ofList suffix)
  | _ => none

/-- The value of a digit, in bases up to sixteen. -/
def digit? (base : Nat) (c : Char) : Option Nat :=
  let value :=
    if c.isDigit then some (c.toNat - '0'.toNat)
    else if 'a' ≤ c && c ≤ 'f' then some (c.toNat - 'a'.toNat + 10)
    else if 'A' ≤ c && c ≤ 'F' then some (c.toNat - 'A'.toNat + 10)
    else none
  value.filter (· < base)

/-- Reads digits, skipping underscores; gives the value and what follows. -/
def numeral (base value : Nat) : List Char → Nat × List Char
  | [] => (value, [])
  | c :: rest =>
    if c == '_' then numeral base value rest
    else
      match digit? base c with
      | some d => numeral base (value * base + d) rest
      | none => (value, c :: rest)

/-- The value of an integer and its suffix; a negative number has no value here. -/
def integer (text : String) : Option Nat × String :=
  match text.toList with
  | '-' :: rest => (none, String.ofList (unsigned rest).2)
  | rest =>
    let (value, suffix) := unsigned rest
    (some value, String.ofList suffix)
where
  unsigned : List Char → Nat × List Char
    | '0' :: 'x' :: rest => numeral 16 0 rest
    | '0' :: 'o' :: rest => numeral 8 0 rest
    | '0' :: 'b' :: rest => numeral 2 0 rest
    | rest => numeral 10 0 rest

/-- Whether the literal can stand behind a minus sign as one negative number. -/
def isNumber (text : String) : Bool :=
  text.toList.head?.any Char.isDigit

end Literal

end TypedId.Token
