/-
Texts of UUIDs. The text has the length of digits in groups, no digit is a
hyphen, and so the text falls apart at its hyphens into the groups that it was
put together from (`groups_hyphenate`); the digits of all groups are the number
again. `Uuid.read_text` puts this together.
-/
import Mathlib
import TypedId.Uuid.Reading

namespace TypedId

namespace Text

theorem exists_of_mem_hexDigits {c : Char} {count n : Nat} (h : c ∈ hexDigits count n) :
    ∃ d < 16, c = Nat.digitChar d := by
  induction count generalizing n with
  | zero => cases h
  | succ count ih =>
    rw [hexDigits, List.mem_append, List.mem_singleton] at h
    rcases h with front | rfl
    · exact ih front
    · exact ⟨n % 16, Nat.mod_lt n (by decide), rfl⟩

theorem utf8Size_digitChar : ∀ d < 16, (Nat.digitChar d).utf8Size = 1 := by decide

theorem digitChar_ne_hyphen : ∀ d < 16, Nat.digitChar d ≠ '-' := by decide

theorem not_hyphen_of_mem {c : Char} {count n : Nat} (h : c ∈ hexDigits count n) : c ≠ '-' := by
  obtain ⟨d, hd, rfl⟩ := exists_of_mem_hexDigits h
  exact digitChar_ne_hyphen d hd

end Text

namespace Uuid

/-! ## Groups -/

theorem groups_cons {c : Char} (h : c ≠ '-') {cs g : List Char} {gs : List (List Char)}
    (hg : groups cs = g :: gs) : groups (c :: cs) = (c :: g) :: gs := by
  rw [groups, if_neg h, hg]

theorem groups_append_hyphen {ds : List Char} (h : ∀ c ∈ ds, c ≠ '-') (rest : List Char) :
    groups (ds ++ '-' :: rest) = ds :: groups rest := by
  induction ds with
  | nil => simp [groups]
  | cons c ds ih =>
    rw [List.forall_mem_cons] at h
    exact groups_cons h.1 (ih h.2)

theorem groups_of_noHyphen {ds : List Char} (h : ∀ c ∈ ds, c ≠ '-') : groups ds = [ds] := by
  induction ds with
  | nil => rfl
  | cons c ds ih =>
    rw [List.forall_mem_cons] at h
    exact groups_cons h.1 (ih h.2)

/-- The groups that digits are put into are found again, with the sizes that were asked for. -/
theorem groups_hyphenate {sizes : List Nat} (some' : sizes ≠ []) {ds : List Char}
    (h : ∀ c ∈ ds, c ≠ '-') (enough : ds.length = sizes.sum) :
    (groups (hyphenate sizes ds)).map List.length = sizes ∧
      (groups (hyphenate sizes ds)).flatten = ds := by
  induction sizes generalizing ds with
  | nil => exact absurd rfl some'
  | cons size sizes ih =>
    cases sizes with
    | nil =>
      rw [hyphenate, groups_of_noHyphen h]
      simpa using enough
    | cons next sizes =>
      have front : ∀ c ∈ ds.take size, c ≠ '-' := fun c hc => h c (List.mem_of_mem_take hc)
      have behind : ∀ c ∈ ds.drop size, c ≠ '-' := fun c hc => h c (List.mem_of_mem_drop hc)
      rw [List.sum_cons] at enough
      obtain ⟨lengths, digits⟩ := ih (List.cons_ne_nil _ _) behind
        (by rw [List.length_drop]; omega)
      rw [hyphenate, groups_append_hyphen front, List.map_cons, List.flatten_cons, lengths, digits,
        List.take_append_drop, List.length_take, Nat.min_eq_left (by omega)]
      · exact ⟨rfl, rfl⟩
      · exact List.cons_ne_nil _ _

/-! ## The text of an identifier -/

theorem byteCount_eq_length {cs : List Char} (h : ∀ c ∈ cs, c.utf8Size = 1) :
    byteCount cs = cs.length := by
  rw [byteCount, String.utf8ByteSize_ofList]
  induction cs with
  | nil => rfl
  | cons c cs ih =>
    rw [List.forall_mem_cons] at h
    rw [String.utf8Len_cons, ih h.2, h.1, List.length_cons]

theorem mem_hyphenate {sizes : List Nat} {c : Char} {ds : List Char}
    (h : c ∈ hyphenate sizes ds) : c ∈ ds ∨ c = '-' := by
  fun_induction hyphenate sizes ds with
  | case1 | case2 => exact .inl h
  | case3 ds size sizes _ ih =>
    rcases List.mem_append.mp h with front | behind
    · exact .inl (List.mem_of_mem_take front)
    · rcases List.mem_cons.mp behind with rfl | more
      · exact .inr rfl
      · exact (ih more).imp_left List.mem_of_mem_drop

theorem length_hyphenate {sizes : List Nat} (some' : sizes ≠ []) {ds : List Char}
    (enough : ds.length = sizes.sum) :
    (hyphenate sizes ds).length + 1 = ds.length + sizes.length := by
  induction sizes generalizing ds with
  | nil => exact absurd rfl some'
  | cons size sizes ih =>
    cases sizes with
    | nil => rfl
    | cons next sizes =>
      rw [List.sum_cons] at enough
      have later := @ih (List.cons_ne_nil _ _) (ds.drop size) (by rw [List.length_drop]; omega)
      rw [hyphenate, List.length_append, List.length_cons, List.length_take]
      · rw [List.length_drop] at later
        simp only [List.length_cons] at later ⊢
        omega
      · exact List.cons_ne_nil _ _

theorem byteCount_text (u : Uuid) : byteCount u.text.toList = 36 := by
  rw [text, String.toList_ofList, byteCount_eq_length]
  · have length := @length_hyphenate groupSizes (List.cons_ne_nil _ _) u.digits
      (Text.length_hexDigits 32 _)
    rw [digits, Text.length_hexDigits] at length
    simpa [groupSizes, digits] using length
  · intro c hc
    rcases mem_hyphenate hc with digit | rfl
    · obtain ⟨d, hd, rfl⟩ := Text.exists_of_mem_hexDigits digit
      exact Text.utf8Size_digitChar d hd
    · decide

theorem ofDigits?_digits (u : Uuid) : ofDigits? u.digits = some u := by
  have power : u.bits.toNat % Nat.pow 16 32 = u.bits.toNat := Nat.mod_eq_of_lt u.bits.isLt
  rw [ofDigits?, digits, if_pos (Text.length_hexDigits 32 _), Text.hexNumber?_hexDigits, power]
  simp

theorem read_text (u : Uuid) : read u.text = .ok u := by
  have shape : form u.text.toList = (.hyphenated, u.text.toList) := by
    rw [form, byteCount_text]
    rfl
  obtain ⟨lengths, whole⟩ := @groups_hyphenate groupSizes (List.cons_ne_nil _ _) u.digits
    (fun _ => Text.not_hyphen_of_mem) (Text.length_hexDigits 32 _)
  have found : ofHyphenated? u.text.toList = some u := by
    rw [text, String.toList_ofList, ofHyphenated?, if_pos lengths, whole, ofDigits?_digits]
  rw [read, shape]
  simp only [found]

end Uuid

end TypedId
