/-
Integers of a fixed width. A kind has a name and a range; an integer of a kind
carries the proof that it lies in that range, so nothing wraps around.
-/

namespace TypedId

/-! ## Kinds -/

/-- The kinds of integers. Those named for a size are as wide as a word of 64 bits. -/
inductive IntegerKind where
  | u8 | u16 | u32 | u64 | u128 | usize
  | i8 | i16 | i32 | i64 | i128 | isize
deriving DecidableEq, Repr

namespace IntegerKind

def all : List IntegerKind :=
  [.u8, .u16, .u32, .u64, .u128, .usize, .i8, .i16, .i32, .i64, .i128, .isize]

theorem mem_all (k : IntegerKind) : k ∈ all := by cases k <;> simp [all]

def name : IntegerKind → String
  | .u8 => "u8"
  | .u16 => "u16"
  | .u32 => "u32"
  | .u64 => "u64"
  | .u128 => "u128"
  | .usize => "usize"
  | .i8 => "i8"
  | .i16 => "i16"
  | .i32 => "i32"
  | .i64 => "i64"
  | .i128 => "i128"
  | .isize => "isize"

def signed : IntegerKind → Bool
  | .u8 | .u16 | .u32 | .u64 | .u128 | .usize => false
  | .i8 | .i16 | .i32 | .i64 | .i128 | .isize => true

def bits : IntegerKind → Nat
  | .u8 | .i8 => 8
  | .u16 | .i16 => 16
  | .u32 | .i32 => 32
  | .u64 | .i64 | .usize | .isize => 64
  | .u128 | .i128 => 128

def min (k : IntegerKind) : Int :=
  if k.signed then -Int.pow 2 (k.bits - 1) else 0

def max (k : IntegerKind) : Int :=
  if k.signed then Int.pow 2 (k.bits - 1) - 1 else Int.pow 2 k.bits - 1

theorem min_le_zero (k : IntegerKind) : k.min ≤ 0 := by cases k <;> decide

theorem one_lt_max (k : IntegerKind) : 1 < k.max := by cases k <;> decide

/-- The kind of a name. -/
def ofName? (name : String) : Option IntegerKind :=
  all.find? fun k => k.name == name

end IntegerKind

/-! ## Integers -/

structure Integer (k : IntegerKind) where
  val : Int
  min_le : k.min ≤ val
  le_max : val ≤ k.max
deriving DecidableEq, Repr

namespace Integer

variable {k : IntegerKind}

@[ext] theorem ext {m n : Integer k} (h : m.val = n.val) : m = n := by
  cases m
  cases n
  cases h
  rfl

/-- The integer of a value, if it is in range. -/
def ofInt? (n : Int) : Option (Integer k) :=
  if h : k.min ≤ n ∧ n ≤ k.max then some ⟨n, h.1, h.2⟩ else none

@[simp] theorem ofInt?_val (n : Integer k) : ofInt? n.val = some n := by
  simp [ofInt?, n.min_le, n.le_max]

theorem val_of_ofInt? {n : Int} {m : Integer k} (h : ofInt? n = some m) : m.val = n := by
  unfold ofInt? at h
  split at h
  · cases h
    rfl
  · simp at h

def zero : Integer k :=
  ⟨0, k.min_le_zero, by have := k.one_lt_max; omega⟩

def one : Integer k :=
  ⟨1, by have := k.min_le_zero; omega, by have := k.one_lt_max; omega⟩

/-- The greatest integer of its kind. -/
def top : Integer k :=
  ⟨k.max, by have := k.min_le_zero; have := k.one_lt_max; omega, Int.le_refl _⟩

/-- The decimal digits, after a minus for what is below zero. -/
def text (n : Integer k) : String := toString n.val

end Integer

end TypedId
