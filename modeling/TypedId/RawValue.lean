/-
What an identifier can wrap: integers of every kind, truth values, characters,
texts and UUIDs. A raw value is read from a text and shown as one, has a place
in an order, and is put as data and read from data.
-/
import TypedId.Data
import TypedId.Integer.Reading

namespace TypedId

namespace RawValue

/-- Why a text is no raw value. -/
inductive Fault where
  | integer (f : Integer.Fault)
  | noTruthValue
  | noCharacter
  | manyCharacters
  | uuid (f : Uuid.Fault)
deriving DecidableEq, Repr

def Fault.message : Fault → String
  | .integer f => f.message
  | .noTruthValue => "provided string was not `true` or `false`"
  | .noCharacter => "cannot parse char from empty string"
  | .manyCharacters => "too many characters in string"
  | .uuid f => f.message

end RawValue

class RawValue (α : Type) where
  read : String → Except RawValue.Fault α
  text : α → String
  /-- The text in debugging output. -/
  debug : α → String
  order : α → α → Ordering
  toData : α → Except Data.Fault Data
  ofData : Data → Except Data.Fault α

namespace RawValue

/-! ## Integers -/

/-- Documents have no integers beyond 64 bits. -/
def integerToData (n : Int) : Except Data.Fault Data :=
  if IntegerKind.i64.min ≤ n ∧ n ≤ IntegerKind.u64.max then .ok (.integer n)
  else .error .outOfRange

def integerOfData (k : IntegerKind) : Data → Except Data.Fault (Integer k)
  | .integer n =>
    match Integer.ofInt? n with
    | some n => .ok n
    | none => .error (.value (.integer n) k.name)
  | d => .error (.kind d k.name)

instance (k : IntegerKind) : RawValue (Integer k) where
  read s := (Integer.read s).mapError .integer
  text n := n.text
  debug n := n.text
  order m n := compare m.val n.val
  toData n := integerToData n.val
  ofData := integerOfData k

/-! ## Truth values -/

def readBool : String → Except Fault Bool
  | "true" => .ok true
  | "false" => .ok false
  | _ => .error .noTruthValue

def boolOfData : Data → Except Data.Fault Bool
  | .bool b => .ok b
  | d => .error (.kind d "a boolean")

instance : RawValue Bool where
  read := readBool
  text b := toString b
  debug b := toString b
  order := compare
  toData b := .ok (.bool b)
  ofData := boolOfData

/-! ## Characters -/

def readChar (s : String) : Except Fault Char :=
  match s.toList with
  | [] => .error .noCharacter
  | [c] => .ok c
  | _ => .error .manyCharacters

def charOfData : Data → Except Data.Fault Char
  | .text s =>
    match s.toList with
    | [c] => .ok c
    | _ => .error (.value (.text s) "a character")
  | d => .error (.kind d "a character")

instance : RawValue Char where
  read := readChar
  text c := String.singleton c
  debug c := Text.quoteChar c
  order c d := compare c.toNat d.toNat
  toData c := .ok (.text (String.singleton c))
  ofData := charOfData

/-! ## Texts -/

def textOfData : Data → Except Data.Fault String
  | .text s => .ok s
  | d => .error (.kind d "a string")

instance : RawValue String where
  read s := .ok s
  text s := s
  debug s := Text.quoteText s
  order := compare
  toData s := .ok (.text s)
  ofData := textOfData

/-! ## UUIDs -/

def uuidOfData : Data → Except Data.Fault Uuid
  | .text s => (Uuid.read s).mapError .uuid
  | d => .error (.kind d "a formatted UUID string")

instance : RawValue Uuid where
  read s := (Uuid.read s).mapError .uuid
  text u := u.text
  debug u := u.text
  order u v := compare u.bits.toNat v.bits.toNat
  toData u := .ok (.text u.text)
  ofData := uuidOfData

/-! ## Order -/

/-- The values in ascending order, each one once. -/
def ascending {α : Type} [RawValue α] [DecidableEq α] (values : List α) : List α :=
  (values.mergeSort fun a b => (order a b).isLE).eraseReps

end RawValue

end TypedId
