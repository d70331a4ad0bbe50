/-
Data that says of itself what it is, as it stands in a document. A reader that
wants data of one kind says what it got and what it wanted instead.
-/
import TypedId.Decimal.Layout
import TypedId.Text.Escaped
import TypedId.Uuid.Reading

namespace TypedId

inductive Data where
  | null
  | bool (b : Bool)
  | integer (n : Int)
  | float (x : Float)
  | text (s : String)
  | list (items : List Data)
  /-- Values under keys, no key twice. -/
  | map (fields : List (String × Data))
deriving Inhabited

namespace Data

/-- What a message calls the data. -/
def describe : Data → String
  | .null => "null"
  | .bool b => "boolean `" ++ toString b ++ "`"
  | .integer n => "integer `" ++ toString n ++ "`"
  | .float x => "floating point `" ++ Decimal.Layout.standard.float x ++ "`"
  | .text s => "string " ++ Text.quoteText s
  | .list _ => "sequence"
  | .map _ => "map"

/-! ## Mismatches -/

/-- Why data cannot be read as a value, or a value not be put as data. -/
inductive Fault where
  /-- Data of another kind than was wanted. -/
  | kind (got : Data) (wanted : String)
  /-- Data of the right kind that stands for no value. -/
  | value (got : Data) (wanted : String)
  | length (got : Nat) (wanted : String)
  | missingField (name : String)
  | uuid (f : Uuid.Fault)
  /-- An integer that has no place in a document. -/
  | outOfRange

def Fault.message : Fault → String
  | .kind got wanted => "invalid type: " ++ got.describe ++ ", expected " ++ wanted
  | .value got wanted => "invalid value: " ++ got.describe ++ ", expected " ++ wanted
  | .length got wanted => "invalid length " ++ toString got ++ ", expected " ++ wanted
  | .missingField name => "missing field `" ++ name ++ "`"
  | .uuid f => "UUID parsing failed: " ++ f.message
  | .outOfRange => "number out of range"

/-! ## Documents -/

/-- A character inside the quotes of a document. -/
def escapeChar (c : Char) : List Char :=
  if c = '"' then ['\\', '"']
  else if c = '\\' then ['\\', '\\']
  else if c = '\x08' then ['\\', 'b']
  else if c = '\x0c' then ['\\', 'f']
  else if c = '\n' then ['\\', 'n']
  else if c = '\r' then ['\\', 'r']
  else if c = '\t' then ['\\', 't']
  else if c.toNat < 0x20 then ['\\', 'u'] ++ Text.hexDigits 4 c.toNat
  else [c]

def quote (s : String) : String :=
  "\"" ++ String.ofList (s.toList.flatMap escapeChar) ++ "\""

mutual

/-- The data without blanks. -/
def compact : Data → String
  | .null => "null"
  | .bool b => toString b
  | .integer n => toString n
  | .float x => Decimal.Layout.standard.float x
  | .text s => quote s
  | .list items => "[" ++ String.intercalate "," (compactItems items) ++ "]"
  | .map fields => "\x7b" ++ String.intercalate "," (compactFields fields) ++ "\x7d"

def compactItems : List Data → List String
  | [] => []
  | d :: ds => compact d :: compactItems ds

def compactFields : List (String × Data) → List String
  | [] => []
  | (key, d) :: rest => (quote key ++ ":" ++ compact d) :: compactFields rest

end

end Data

end TypedId
