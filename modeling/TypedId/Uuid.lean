/-
Universally unique identifiers: 128 bits, written as 32 hexadecimal digits in
five groups with hyphens between them. Random ones are of version 4, which
leaves 122 bits to chance.
-/
import TypedId.Text.Hexadecimal

namespace TypedId

structure Uuid where
  bits : BitVec 128
deriving DecidableEq, Repr

namespace Uuid

/-! ## Text -/

/-- How many digits the groups have. -/
def groupSizes : List Nat := [8, 4, 4, 4, 12]

def digits (u : Uuid) : List Char := Text.hexDigits 32 u.bits.toNat

/-- Digits in groups of the given sizes, with hyphens between the groups. -/
def hyphenate : List Nat → List Char → List Char
  | [], ds => ds
  | [_], ds => ds
  | size :: sizes, ds => ds.take size ++ '-' :: hyphenate sizes (ds.drop size)

/-- The digits in groups, in lower case. -/
def text (u : Uuid) : String := String.ofList (hyphenate groupSizes u.digits)

/-! ## Random identifiers -/

/-- Bits with a mark for version 4 and for the variant that has versions. -/
def ofRandomBits (bits : BitVec 128) : Uuid :=
  let version : BitVec 128 := 0xf <<< 76
  let variant : BitVec 128 := 0x3 <<< 62
  ⟨bits &&& ~~~version &&& ~~~variant ||| 0x4 <<< 76 ||| 0x2 <<< 62⟩

def version (u : Uuid) : Nat := u.bits.toNat / Nat.pow 2 76 % 16

/-- A random identifier, and the generator for the next one. -/
def random {γ : Type} [RandomGen γ] (g : γ) : Uuid × γ :=
  let (n, g) := randNat g 0 (Nat.pow 2 128 - 1)
  (ofRandomBits (BitVec.ofNat 128 n), g)

end Uuid

end TypedId
