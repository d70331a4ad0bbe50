/-
The shortest decimal of a binary floating-point number: of all decimals that
are read back as the number, one with the fewest digits, and of these the one
nearest to the number. All arithmetic is exact.
-/

namespace TypedId

/-- The value `digits * 10 ^ exponent`. -/
structure Decimal where
  digits : Nat
  exponent : Int
deriving DecidableEq, Repr

namespace Decimal

/-! ## Binary numbers -/

/-- The value `significand * 2 ^ exponent`; below some powers of two the next number is only half
as far away as above. -/
structure Binary where
  significand : Nat
  exponent : Int
  narrowBelow : Bool
deriving DecidableEq, Repr

/-- The magnitude of a finite number from its 64 bits. -/
def Binary.ofBits (bits : Nat) : Binary :=
  let biased := bits / Nat.pow 2 52 % Nat.pow 2 11
  let fraction := bits % Nat.pow 2 52
  if biased = 0 then ⟨fraction, -1074, false⟩
  else ⟨fraction + Nat.pow 2 52, Int.ofNat biased - 1075, fraction = 0 ∧ 1 < biased⟩

/-! ## Comparison -/

/-- Compares `a * 2 ^ p` with `b * 10 ^ q`. -/
def compareScaled (a : Nat) (p : Int) (b : Nat) (q : Int) : Ordering :=
  compare (a * Nat.pow 2 p.toNat * Nat.pow 10 (-q).toNat)
    (b * Nat.pow 10 q.toNat * Nat.pow 2 (-p).toNat)

/-- The whole part of `a * 2 ^ p / 10 ^ q`. -/
def floorScaled (a : Nat) (p q : Int) : Nat :=
  a * Nat.pow 2 p.toNat * Nat.pow 10 (-q).toNat / (Nat.pow 10 q.toNat * Nat.pow 2 (-p).toNat)

/-- Whether a decimal lies between the halfway points to the two neighbours of a number; the
points themselves count if the significand is even. -/
def readsBack (x : Binary) (d : Decimal) : Bool :=
  let below := compareScaled (4 * x.significand - if x.narrowBelow then 1 else 2)
    (x.exponent - 2) d.digits d.exponent
  let above := compareScaled (4 * x.significand + 2) (x.exponent - 2) d.digits d.exponent
  if x.significand % 2 = 0 then below.isLE && above.isGE else below.isLT && above.isGT

/-! ## Selection -/

/-- The least power of ten above a number. -/
def scale (x : Binary) : Int :=
  let powers := (List.range 634).map fun i => Int.ofNat i - 324
  (powers.find? fun k => (compareScaled x.significand x.exponent 1 k).isLT).getD 310

/-- The decimal nearest to a number of those with the given exponent that are read back; of two
that are equally near, the even one. -/
def onGrid? (x : Binary) (exponent : Int) : Option Decimal :=
  let low := floorScaled x.significand x.exponent exponent
  let candidates := [low, low + 1].filter fun d => readsBack x ⟨d, exponent⟩
  match candidates with
  | [] => none
  | [d] => some ⟨d, exponent⟩
  | _ =>
    match compareScaled (2 * x.significand) x.exponent (2 * low + 1) exponent with
    | .lt => some ⟨low, exponent⟩
    | .gt => some ⟨low + 1, exponent⟩
    | .eq => some ⟨low + low % 2, exponent⟩

/-- The same value without zeros at the end of its digits. -/
def strip : Nat → Decimal → Decimal
  | 0, d => d
  | fuel + 1, d =>
    if d.digits ≠ 0 ∧ d.digits % 10 = 0 then strip fuel ⟨d.digits / 10, d.exponent + 1⟩ else d

/-- The exact value, which has many digits. -/
def exact (x : Binary) : Decimal :=
  ⟨x.significand * Nat.pow 2 x.exponent.toNat * Nat.pow 5 (-x.exponent).toNat,
    -(-x.exponent).toNat⟩

/-- The shortest decimal of a number other than zero. -/
def shortest (x : Binary) : Decimal :=
  let k := scale x
  let found := (List.range 17).findSome? fun n => onGrid? x (k - Int.ofNat (n + 1))
  strip 20 (found.getD (exact x))

end Decimal

end TypedId
