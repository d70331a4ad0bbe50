/-
How numbers with a fraction are written. A number of middling size is written
out with a point; any other has one digit before the point and the power of
ten behind it.
-/
import TypedId.Decimal.Shortest

namespace TypedId.Decimal

/-- The powers of ten of the first digit for which a number is written out. -/
structure Layout where
  least : Int
  greatest : Int
deriving DecidableEq, Repr

namespace Layout

/-- The layout in messages and documents. -/
def standard : Layout := ⟨-5, 15⟩

def zeros (n : Nat) : List Char := List.replicate n '0'

/-- Digits with a point, where the first digit stands for `10 ^ lead`. -/
def positional (lead : Int) (ds : List Char) : List Char :=
  if lead < 0 then '0' :: '.' :: zeros (-lead - 1).toNat ++ ds
  else
    let whole := ds.take (lead.toNat + 1)
    let fraction := ds.drop (lead.toNat + 1)
    whole ++ zeros (lead.toNat + 1 - ds.length) ++
      '.' :: (if fraction.isEmpty then ['0'] else fraction)

/-- One digit, the others behind a point, and a power of ten that always has a sign. -/
def scientific (lead : Int) : List Char → List Char
  | [] => []
  | d :: ds =>
    d :: (if ds.isEmpty then [] else '.' :: ds) ++
      'e' :: (if lead < 0 then '-' else '+') :: (toString lead.natAbs).toList

def decimal (l : Layout) (d : Decimal) : List Char :=
  let ds := (toString d.digits).toList
  let lead := d.exponent + ds.length - 1
  if l.least ≤ lead ∧ lead ≤ l.greatest then positional lead ds else scientific lead ds

/-- A finite number by its shortest decimal. -/
def float (l : Layout) (x : Float) : String :=
  let bits := x.toBits.toNat
  let sign := if bits / Nat.pow 2 63 = 1 then "-" else ""
  let magnitude := Binary.ofBits bits
  let shown := if magnitude.significand = 0 then "0.0".toList else l.decimal (shortest magnitude)
  sign ++ String.ofList shown

end Layout

end TypedId.Decimal
