/-
Reading integers: an optional plus, or a minus where the kind has a sign, and
at least one decimal digit. Digits are taken from the left, and the first
thing wrong is reported: a character that is no digit, or the digit that
leaves the range.
-/
import TypedId.Integer

namespace TypedId.Integer

/-- Why a text is no integer of a kind. -/
inductive Fault where
  | empty
  | invalidDigit
  | tooLarge
  | tooSmall
deriving DecidableEq, Repr

def Fault.message : Fault → String
  | .empty => "cannot parse integer from empty string"
  | .invalidDigit => "invalid digit found in string"
  | .tooLarge => "number too large to fit in target type"
  | .tooSmall => "number too small to fit in target type"

variable {k : IntegerKind}

def digit? (c : Char) : Option Nat :=
  if c.isDigit then some (c.toNat - '0'.toNat) else none

/-- One more digit behind those already read; behind a minus it counts downwards. -/
def append (negative : Bool) (n : Integer k) (digit : Nat) : Except Fault (Integer k) :=
  match ofInt? (if negative then n.val * 10 - digit else n.val * 10 + digit) with
  | some n => .ok n
  | none => .error (if negative then .tooSmall else .tooLarge)

def readDigits (negative : Bool) (n : Integer k) : List Char → Except Fault (Integer k)
  | [] => .ok n
  | c :: cs =>
    match digit? c with
    | none => .error .invalidDigit
    | some d =>
      match append negative n d with
      | .ok n => readDigits negative n cs
      | .error f => .error f

/-- At least one digit. -/
def readMagnitude (negative : Bool) : List Char → Except Fault (Integer k)
  | [] => .error .invalidDigit
  | cs => readDigits negative zero cs

/-- The integer that a text denotes. -/
def read (text : String) : Except Fault (Integer k) :=
  match text.toList with
  | [] => .error .empty
  | '+' :: cs => readMagnitude false cs
  | '-' :: cs => if k.signed then readMagnitude true cs else .error .invalidDigit
  | cs => readMagnitude false cs

end TypedId.Integer
