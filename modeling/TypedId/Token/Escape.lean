/-
Escapes inside literals. Each function looks at the characters after the
backslash and says how many of them belong to the escape, so that a scanner
can go on behind it; for the two escapes that carry a number there is its
value too. A backslash before a line end swallows the blanks that follow.
-/
import TypedId.Text.Hexadecimal

namespace TypedId.Token.Escape

/-- The value of the two digits of `\x`. -/
def byteValue? : List Char → Option Nat
  | a :: b :: _ => Text.hexNumber? 0 [a, b]
  | _ => none

/-- The digits of `\u` up to the closing brace: at most six, underscores between them are free.
Gives the value and the number of characters read. -/
def unicodeDigits (value digits read : Nat) : List Char → Option (Nat × Nat)
  | [] => none
  | c :: rest =>
    match Text.hexDigit? c with
    | some d => if digits = 6 then none else unicodeDigits (value * 16 + d) (digits + 1) (read + 1) rest
    | none =>
      if digits = 0 then none
      else if c = '_' then unicodeDigits value digits (read + 1) rest
      else if c = '\x7d' && value.isValidChar then some (value, read + 1)
      else none

/-- What follows `\u`: the value and the length, braces included. -/
def unicode? : List Char → Option (Nat × Nat)
  | '\x7b' :: rest => unicodeDigits 0 0 1 rest
  | _ => none

/-- The blanks swallowed after a backslash at a line end. A carriage return needs its line feed,
and the text must go on behind the blanks. -/
def continuation? : List Char → Option Nat
  | [] => none
  | '\r' :: '\n' :: rest => (continuation? rest).map (· + 2)
  | c :: rest =>
    if c = '\r' then none
    else if c = ' ' || c = '\t' || c = '\n' then (continuation? rest).map (· + 1)
    else some 0

/-- Characters that stand for themselves or for a control after a backslash. -/
def isSimple (c : Char) : Bool :=
  c == 'n' || c == 'r' || c == 't' || c == '\\' || c == '\x27' || c == '"'

/-- The kinds of literal that differ in the escapes they allow. -/
inductive Alphabet where
  /-- Any Unicode character. -/
  | text
  /-- Bytes. -/
  | bytes
  /-- Any Unicode character but NUL. -/
  | nulFree
deriving DecidableEq, Repr

/-- The length of an escape of one character, without the backslash. -/
def single? (alphabet : Alphabet) : List Char → Option Nat
  | 'x' :: rest => do
    let v ← byteValue? rest
    match alphabet with
    | .text => if v < 0x80 then some 3 else none
    | .bytes => some 3
    | .nulFree => if v = 0 then none else some 3
  | 'u' :: rest => do
    let (v, n) ← unicode? rest
    match alphabet with
    | .text => some (n + 1)
    | .bytes => none
    | .nulFree => if v = 0 then none else some (n + 1)
  | '0' :: _ => if alphabet = .nulFree then none else some 1
  | c :: _ => if isSimple c then some 1 else none
  | [] => none

/-- The length of an escape inside a quoted text, where a line end may be escaped too. -/
def inText? (alphabet : Alphabet) : List Char → Option Nat
  | '\n' :: rest => continuation? ('\n' :: rest)
  | '\r' :: rest => continuation? ('\r' :: rest)
  | rest => single? alphabet rest

/-- The character that a simple escape stands for. -/
def simpleValue (c : Char) : Char :=
  if c = 'n' then '\n'
  else if c = 'r' then '\r'
  else if c = 't' then '\t'
  else if c = '0' then '\x00'
  else c

end TypedId.Token.Escape
