/-
Texts of integers. `Integer.read_eq_ok_iff`: a text is read as an integer if it
is written as digits behind a sign or none, and as nothing else. The range
never gets in the way of that: digits that denote an integer of the kind have
in front of them only numbers that are nearer to zero.
-/
import TypedId.Integer.Reading

namespace TypedId.Integer

variable {k : IntegerKind} {negative : Bool}

/-- A number on one side of zero. -/
def signed (negative : Bool) (m : Nat) : Int := if negative then -m else m

/-! ## Digits -/

theorem digit?_eq_some_iff {c : Char} {d : Nat} :
    digit? c = some d ↔ c.isDigit = true ∧ d = c.toNat - '0'.toNat := by
  rw [digit?]
  by_cases h : c.isDigit = true
  · rw [if_pos h, Option.some.injEq, eq_comm]
    exact (and_iff_right h).symm
  · rw [if_neg h]
    exact iff_of_false nofun fun hd => h hd.1

/-- Digits lead away from zero. -/
theorem le_ofDigitChars (cs : List Char) (m : Nat) : m ≤ Nat.ofDigitChars 10 cs m := by
  rw [Nat.ofDigitChars_eq_ofDigitChars_zero]
  have := Nat.le_mul_of_pos_left m (Nat.pow_pos (n := cs.length) (by decide : 0 < 10))
  omega

/-- What is nearer to zero than an integer of the kind is one too. -/
theorem exists_signed {m m' : Nat} (h : m ≤ m') {n : Integer k} (hn : n.val = signed negative m') :
    ∃ n' : Integer k, n'.val = signed negative m := by
  have least := n.min_le
  have greatest := n.le_max
  have := k.min_le_zero
  have := k.one_lt_max
  rw [hn] at least greatest
  refine ⟨⟨signed negative m, ?_, ?_⟩, rfl⟩ <;> cases negative <;>
    simp only [signed, if_true, Bool.false_eq_true, if_false] at least greatest ⊢ <;> omega

theorem append_eq_ok_iff {acc n : Integer k} {m : Nat} (h : acc.val = signed negative m) {d : Nat} :
    append negative acc d = .ok n ↔ n.val = signed negative (10 * m + d) := by
  have value : (if negative then acc.val * 10 - d else acc.val * 10 + d) =
      signed negative (10 * m + d) := by
    rw [h]
    cases negative <;> simp [signed] <;> omega
  rw [append, value]
  constructor
  · intro hn
    split at hn
    · next hv => cases hn; exact val_of_ofInt? hv
    · cases hn
  · intro hn
    rw [← hn, ofInt?_val]

/-- Behind a number that was read, the digits of the text give the rest of it. -/
theorem readDigits_eq_ok_iff {acc n : Integer k} {m : Nat} {cs : List Char}
    (h : acc.val = signed negative m) :
    readDigits negative acc cs = .ok n ↔
      (∀ c ∈ cs, c.isDigit = true) ∧ n.val = signed negative (Nat.ofDigitChars 10 cs m) := by
  induction cs generalizing acc m with
  | nil =>
    rw [readDigits, Nat.ofDigitChars_nil, ← h, Except.ok.injEq, eq_comm, ← Integer.ext_iff]
    exact ⟨fun same => ⟨List.forall_mem_nil _, same⟩, fun same => same.2⟩
  | cons c cs ih =>
    rw [readDigits, Nat.ofDigitChars_cons, List.forall_mem_cons]
    cases hd : digit? c with
    | none =>
      refine iff_of_false nofun fun ⟨⟨digit, _⟩, _⟩ => ?_
      rw [digit?, if_pos digit] at hd
      cases hd
    | some d =>
      obtain ⟨digit, rfl⟩ := digit?_eq_some_iff.mp hd
      cases ha : append negative acc (c.toNat - '0'.toNat) with
      | ok acc' =>
        simp only [ha, digit, true_and]
        exact ih ((append_eq_ok_iff h).mp ha)
      | error f =>
        simp only [ha]
        refine iff_of_false nofun fun ⟨_, value⟩ => ?_
        -- the number is out of range here already, and all digits denote one farther from zero
        obtain ⟨n', hn'⟩ := exists_signed (le_ofDigitChars cs _) value
        rw [(append_eq_ok_iff h).mpr hn'] at ha
        cases ha

/-! ## Signs -/

/-- At least one digit, and nothing else. -/
def IsDigits (cs : List Char) : Prop := cs ≠ [] ∧ ∀ c ∈ cs, c.isDigit = true

theorem readMagnitude_eq_ok_iff {n : Integer k} {cs : List Char} :
    readMagnitude negative cs = .ok n ↔
      IsDigits cs ∧ n.val = signed negative (Nat.ofDigitChars 10 cs 0) := by
  have start : (zero : Integer k).val = signed negative 0 := by simp [zero, signed]
  cases cs with
  | nil => simp [readMagnitude, IsDigits]
  | cons c cs =>
    have more := @readDigits_eq_ok_iff k negative zero n 0 (c :: cs) start
    simpa [readMagnitude, IsDigits] using more

/-- How an integer can be written: as digits, with a plus before them or without, or behind a minus
where the kind has signs. Zeros may stand in front. -/
inductive Writes (n : Integer k) : List Char → Prop
  | plain {ds : List Char} (digits : IsDigits ds) (value : n.val = Nat.ofDigitChars 10 ds 0) :
      Writes n ds
  | plus {ds : List Char} (digits : IsDigits ds) (value : n.val = Nat.ofDigitChars 10 ds 0) :
      Writes n ('+' :: ds)
  | minus {ds : List Char} (signed : k.signed = true) (digits : IsDigits ds)
      (value : n.val = -Nat.ofDigitChars 10 ds 0) : Writes n ('-' :: ds)

theorem IsDigits.head {c : Char} {cs : List Char} (h : IsDigits (c :: cs)) : c.isDigit = true :=
  h.2 c (List.mem_cons_self ..)

/-- **Which texts are integers.** -/
theorem read_eq_ok_iff {s : String} {n : Integer k} : read s = .ok n ↔ n.Writes s.toList := by
  rw [read]
  generalize s.toList = cs
  constructor
  · intro h
    split at h
    · cases h
    · obtain ⟨digits, value⟩ := readMagnitude_eq_ok_iff.mp h
      exact .plus digits value
    · next ds =>
      by_cases hk : k.signed = true
      · rw [if_pos hk] at h
        obtain ⟨digits, value⟩ := readMagnitude_eq_ok_iff.mp h
        exact .minus hk digits value
      · rw [if_neg hk] at h
        cases h
    · obtain ⟨digits, value⟩ := readMagnitude_eq_ok_iff.mp h
      exact .plain digits value
  · rintro (⟨digits, value⟩ | ⟨digits, value⟩ | ⟨hk, digits, value⟩)
    · split
      · exact absurd rfl digits.1
      · exact absurd digits.head (by decide)
      · exact absurd digits.head (by decide)
      · exact readMagnitude_eq_ok_iff.mpr ⟨digits, value⟩
    · exact readMagnitude_eq_ok_iff.mpr ⟨digits, value⟩
    · simp only [hk, if_true]
      exact readMagnitude_eq_ok_iff.mpr ⟨digits, value⟩

/-! ## The text of an integer -/

theorem isDigits_toDigits (m : Nat) : IsDigits (Nat.toDigits 10 m) :=
  ⟨Nat.toDigits_ne_nil, fun _ => Nat.isDigit_of_mem_toDigits (by decide) (by decide)⟩

theorem signed_of_val_neg {n : Integer k} (h : n.val < 0) : k.signed = true := by
  have least := n.min_le
  rw [IntegerKind.min] at least
  split at least
  · assumption
  · omega

theorem writes_text (n : Integer k) : n.Writes n.text.toList := by
  rw [text, Int.toString_eq_repr, Int.repr_eq_if]
  split
  · next nonneg =>
    rw [Nat.toList_repr]
    refine .plain (isDigits_toDigits _) ?_
    rw [Nat.ofDigitChars_ten_toDigits]
    omega
  · next below =>
    have chars : ("-" ++ (-n.val).toNat.repr).toList = '-' :: Nat.toDigits 10 (-n.val).toNat := by
      simp [Nat.toList_repr]
    rw [chars]
    have negative : n.val < 0 := by omega
    refine .minus (signed_of_val_neg negative) (isDigits_toDigits _) ?_
    rw [Nat.ofDigitChars_ten_toDigits]
    omega

theorem read_text (n : Integer k) : read n.text = .ok n := read_eq_ok_iff.mpr n.writes_text

end TypedId.Integer
