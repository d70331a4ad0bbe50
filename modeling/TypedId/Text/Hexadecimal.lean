/-
Numbers in base 16. Digits are written in lower case and read in either case;
as many digits as asked for are written, and reading them gives the number
back if it has no more.
-/

namespace TypedId.Text

/-- The value of a hexadecimal digit of either case. -/
def hexDigit? (c : Char) : Option Nat :=
  if '0' ≤ c && c ≤ '9' then some (c.toNat - '0'.toNat)
  else if 'a' ≤ c && c ≤ 'f' then some (c.toNat - 'a'.toNat + 10)
  else if 'A' ≤ c && c ≤ 'F' then some (c.toNat - 'A'.toNat + 10)
  else none

/-- The number that digits denote behind those already read. -/
def hexNumber? (n : Nat) : List Char → Option Nat
  | [] => some n
  | c :: cs => (hexDigit? c).bind fun d => hexNumber? (n * 16 + d) cs

/-- The last digits of a number, as many as asked for. -/
def hexDigits : Nat → Nat → List Char
  | 0, _ => []
  | count + 1, n => hexDigits count (n / 16) ++ [Nat.digitChar (n % 16)]

theorem hexDigit?_digitChar : ∀ d, d < 16 → hexDigit? (Nat.digitChar d) = some d := by decide

theorem length_hexDigits (count n : Nat) : (hexDigits count n).length = count := by
  induction count generalizing n with
  | zero => rfl
  | succ count ih => simp [hexDigits, ih]

theorem hexNumber?_append (m : Nat) (cs ds : List Char) :
    hexNumber? m (cs ++ ds) = (hexNumber? m cs).bind fun n => hexNumber? n ds := by
  induction cs generalizing m with
  | nil => rfl
  | cons c cs ih => cases h : hexDigit? c <;> simp [hexNumber?, h, ih]

theorem hexNumber?_hexDigits (count n : Nat) :
    hexNumber? 0 (hexDigits count n) = some (n % Nat.pow 16 count) := by
  induction count generalizing n with
  | zero => simp [hexDigits, hexNumber?, Nat.mod_one]
  | succ count ih =>
    rw [hexDigits, hexNumber?_append, ih]
    simp only [Option.bind_some, hexNumber?, hexDigit?_digitChar _ (Nat.mod_lt n (by decide : 0 < 16))]
    have power : Nat.pow 16 (count + 1) = 16 * Nat.pow 16 count := Nat.pow_succ'
    rw [power, Nat.mod_mul]
    simp only [Option.some.injEq]
    omega

end TypedId.Text
