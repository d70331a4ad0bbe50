/-
Quoted texts: what stands between the quotes. Three characters have a letter
of their own after the backslash, the backslash and the quote are written
after a backslash, and a character that cannot be shown is written by its
number. The settings differ between a quoted text, a quoted character and a
literal made for generated code.
-/
import TypedId.Text.Printable

namespace TypedId.Text

/-- Lower-case hexadecimal digits without leading zeros. -/
def hexText (n : Nat) : String :=
  String.ofList (Nat.toDigits 16 n)

/-- A character by its number. -/
def numbered (c : Char) : String :=
  "\\u\x7b" ++ hexText c.toNat ++ "\x7d"

/-- The form of one character inside quotes, where `quoted` says which quotes are escaped. -/
def escapeChar (quoted : Char → Bool) (c : Char) : String :=
  if c == '\x00' then "\\0"
  else if c == '\t' then "\\t"
  else if c == '\r' then "\\r"
  else if c == '\n' then "\\n"
  else if c == '\\' then "\\\\"
  else if quoted c then String.ofList ['\\', c]
  else if isGraphemeExtend c || !isPrintable c then numbered c
  else String.singleton c

/-- A quoted text, as debugging output shows it. -/
def quoteText (text : String) : String :=
  "\"" ++ String.join (text.toList.map (escapeChar (· == '"'))) ++ "\""

/-- A quoted character, as debugging output shows it. -/
def quoteChar (c : Char) : String :=
  "'" ++ escapeChar (· == '\x27') c ++ "'"

/-- The body of a string literal in generated code: NUL takes two digits where a digit that
could continue it follows. -/
def escapeLiteral : List Char → String
  | [] => ""
  | c :: rest =>
    (if c == '\x00' && (rest.head?.any fun d => '0' ≤ d && d ≤ '7') then "\\x00"
     else escapeChar (· == '"') c) ++ escapeLiteral rest

/-- A string literal in generated code. -/
def stringLiteral (text : String) : String :=
  "\"" ++ escapeLiteral text.toList ++ "\""

end TypedId.Text
