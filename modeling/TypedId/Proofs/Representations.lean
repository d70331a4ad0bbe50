/-
Identifiers outside of the program: as texts, and as data. Both go through the
raw value, so what is asked of a type of raw values is that its texts and its
data are read as what they came from (`IdentifierType.survives_of`). Integers
beyond 64 bits have no place in a document; they are the only raw values that
are not put as data (`identifiers_survive`).
-/
import TypedId.Identifier
import TypedId.Proofs.Representations.Integers
import TypedId.Proofs.Representations.Uuids

namespace TypedId

/-! ## Integers in documents -/

namespace Integer

variable {k : IntegerKind}

/-- Documents have a place for the integer. -/
def InDocument (n : Integer k) : Prop :=
  IntegerKind.i64.min ≤ n.val ∧ n.val ≤ IntegerKind.u64.max

instance (n : Integer k) : Decidable n.InDocument := inferInstanceAs (Decidable (_ ∧ _))

theorem range_of_bits {k : IntegerKind} (h : k.bits ≤ 64) :
    IntegerKind.i64.min ≤ k.min ∧ k.max ≤ IntegerKind.u64.max := by
  revert h
  cases k <;> decide

theorem inDocument_of_bits (h : k.bits ≤ 64) (n : Integer k) : n.InDocument :=
  ⟨Int.le_trans (range_of_bits h).1 n.min_le, Int.le_trans n.le_max (range_of_bits h).2⟩

end Integer

namespace RawValue

variable {k : IntegerKind}

theorem read_text_integer (n : Integer k) : read (text n) = .ok n := by
  show (Integer.read n.text).mapError _ = _
  rw [n.read_text]
  rfl

theorem read_eq_ok_iff_integer {s : String} {n : Integer k} :
    read s = .ok n ↔ n.Writes s.toList := by
  rw [← Integer.read_eq_ok_iff]
  show (Integer.read s).mapError _ = _ ↔ _
  cases (Integer.read s : Except _ (Integer k)) <;> simp [Except.mapError]

theorem read_text_uuid (u : Uuid) : read (text u) = .ok u := by
  show (Uuid.read u.text).mapError _ = _
  rw [u.read_text]
  rfl

theorem toData_integer {n : Integer k} (h : n.InDocument) : toData n = .ok (.integer n.val) :=
  if_pos h

theorem toData_beyond {n : Integer k} (h : ¬ n.InDocument) : toData n = .error .outOfRange :=
  if_neg h

theorem ofData_integer (n : Integer k) : ofData (.integer n.val) = .ok n := by
  show integerOfData k _ = _
  simp only [integerOfData, Integer.ofInt?_val]

theorem ofData_uuid (u : Uuid) : ofData (.text u.text) = .ok u := by
  show uuidOfData _ = _
  rw [uuidOfData, u.read_text]
  rfl

end RawValue

/-! ## Identifiers -/

namespace Identifier

variable {α : Type} [RawValue α] {T : IdentifierType α}

theorem parse_eq_ok_iff {s : String} {r : α} :
    parse T s = (.ok ⟨r⟩, []) ↔ RawValue.read s = .ok r := by
  rw [parse]
  cases (RawValue.read s : Except _ α) <;> simp

theorem parse_eq_error_iff {s : String} {f : RawValue.Fault} :
    parse T s = (.error ⟨T.qualifiedName, s, f⟩, [⟨.debug, "identifier parse failed",
      [("identifier", T.qualifiedName), ("input", s), ("error", f.message)]⟩]) ↔
    (RawValue.read s : Except _ α) = .error f := by
  rw [parse]
  cases (RawValue.read s : Except _ α) with
  | ok r => simp
  | error f' =>
    simp only [Prod.mk.injEq, Except.error.injEq, ParseError.mk.injEq, true_and]
    refine ⟨And.left, ?_⟩
    rintro rfl
    exact ⟨rfl, rfl⟩

end Identifier

open Identifier

/-- The identifiers of a type, as texts and as data. -/
structure IdentifierType.Survives {α : Type} [RawValue α] (T : IdentifierType α)
    (HasData : α → Prop) : Prop where
  /-- The text of a raw value is read as its identifier, and nothing is logged. -/
  parsed : ∀ r, parse T (RawValue.text r) = (.ok ⟨r⟩, [])
  /-- An identifier is put as the data that its raw value is put as, and if that is refused, it is
  refused in the same way. -/
  bare : ∀ r : α, (⟨r⟩ : Identifier T).toBareData = RawValue.toData r
  restored : ∀ r, HasData r → ∃ d, RawValue.toData r = .ok d ∧ ofBareData T d = .ok ⟨r⟩
  refused : ∀ r, ¬ HasData r → RawValue.toData r = .error .outOfRange
  /-- A text is an identifier if it is a raw value, -/
  accepted : ∀ s r, parse T s = (.ok ⟨r⟩, []) ↔ RawValue.read s = .ok r
  /-- and if not, the error and the one event say what the text is, what for, and what is wrong. -/
  rejected : ∀ s f, parse T s = (.error ⟨T.qualifiedName, s, f⟩, [⟨.debug, "identifier parse failed",
      [("identifier", T.qualifiedName), ("input", s), ("error", f.message)]⟩]) ↔
    (RawValue.read s : Except _ α) = .error f

/-- It is enough that raw values survive. -/
theorem IdentifierType.survives_of {α : Type} [RawValue α] {HasData : α → Prop}
    (text : ∀ r : α, RawValue.read (RawValue.text r) = .ok r)
    (data : ∀ r : α, HasData r → ∃ d, RawValue.toData r = .ok d ∧ RawValue.ofData d = .ok r)
    (none : ∀ r : α, ¬ HasData r → RawValue.toData r = .error .outOfRange)
    (T : IdentifierType α) : T.Survives HasData where
  parsed r := parse_eq_ok_iff.mpr (text r)
  bare _ := rfl
  restored r h := by
    obtain ⟨d, hd, hr⟩ := data r h
    refine ⟨d, hd, ?_⟩
    rw [ofBareData, hr]
    rfl
  refused := none
  accepted _ _ := parse_eq_ok_iff
  rejected _ _ := parse_eq_error_iff

/-- **Identifiers survive** as texts and as data, whatever their type is called: over integers of
every kind, texts and UUIDs. Only integers that take more than 64 bits are no data, and an
identifier of one is refused as the integer itself is. The texts that are identifiers over integers
are the decimal numbers of the kind. -/
theorem identifiers_survive :
    (∀ k (T : IdentifierType (Integer k)), T.Survives Integer.InDocument ∧
      ∀ s n, parse T s = (.ok ⟨n⟩, []) ↔ n.Writes s.toList) ∧
    (∀ k : IntegerKind, k.bits ≤ 64 → ∀ n : Integer k, n.InDocument) ∧
    (∀ T : IdentifierType String, T.Survives fun _ => True) ∧
    ∀ T : IdentifierType Uuid, T.Survives fun _ => True := by
  refine ⟨fun k T => ⟨?_, fun s n => ?_⟩, fun _ => Integer.inDocument_of_bits, ?_, ?_⟩
  · refine T.survives_of RawValue.read_text_integer (fun n h => ?_) fun n => RawValue.toData_beyond
    exact ⟨_, RawValue.toData_integer h, RawValue.ofData_integer n⟩
  · exact parse_eq_ok_iff.trans RawValue.read_eq_ok_iff_integer
  · refine IdentifierType.survives_of (fun _ => rfl) (fun s _ => ?_) fun _ h => absurd trivial h
    exact ⟨.text s, rfl, rfl⟩
  · refine IdentifierType.survives_of RawValue.read_text_uuid (fun u _ => ?_)
      fun _ h => absurd trivial h
    exact ⟨_, rfl, RawValue.ofData_uuid u⟩

/-- Identifiers over integers of 64 bits with a sign. -/
def accountId : IdentifierType (Integer .i64) := ⟨"accounts", "AccountId", false⟩

def least : Integer .i64 := ⟨-9223372036854775808, by decide, by decide⟩

/-- Identifiers over integers of 128 bits. -/
def blockId : IdentifierType (Integer .u128) := ⟨"blocks", "BlockId", false⟩

/-- The first integer that takes more than 64 bits. -/
def beyond : Integer .u128 := ⟨18446744073709551616, by decide, by decide⟩

theorem identifiers_survive_least :
    IntegerKind.i64.bits ≤ 64 ∧ least.InDocument ∧ ¬ beyond.InDocument ∧
    parse accountId "-9223372036854775808" = (.ok ⟨least⟩, []) ∧
    (∃ d, RawValue.toData least = .ok d ∧ ofBareData accountId d = .ok ⟨least⟩) ∧
    (⟨beyond⟩ : Identifier blockId).toBareData = .error .outOfRange := by
  have wide : ¬ beyond.InDocument := by decide
  have narrow : IntegerKind.i64.bits ≤ 64 := by decide
  obtain ⟨integers, documents, -⟩ := identifiers_survive
  have inside := documents .i64 narrow least
  refine ⟨narrow, inside, wide, ?_, (integers .i64 accountId).1.restored least inside, ?_⟩
  · have shown : RawValue.text least = "-9223372036854775808" := by decide +kernel
    rw [← shown]
    exact (integers .i64 accountId).1.parsed least
  · rw [(integers .u128 blockId).1.bare]
    exact (integers .u128 blockId).1.refused beyond wide

/-- An identifier that no data stands for. -/
theorem lost_beyond_64_bits :
    (⟨beyond⟩ : Identifier blockId).toBareData = .error .outOfRange ∧
    ¬ ∃ d, (⟨beyond⟩ : Identifier blockId).toBareData = .ok d ∧
      ofBareData blockId d = .ok ⟨beyond⟩ := by
  have refused : (⟨beyond⟩ : Identifier blockId).toBareData = .error .outOfRange :=
    RawValue.toData_beyond (by decide)
  refine ⟨refused, ?_⟩
  rintro ⟨d, hd, -⟩
  rw [refused] at hd
  cases hd

end TypedId
