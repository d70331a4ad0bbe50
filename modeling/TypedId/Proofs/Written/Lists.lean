/-
Lists of written pieces, read where they are written: parted by commas up to
the end of a group (`commaTokens_parted`) or up to a closing angle bracket
(`angleList_parted`).
-/
import TypedId.Proofs.Written.Paths

namespace TypedId

open Reader

/-- The tokens are read as something that is written with the same tokens, in front of anything
that ends it. -/
def Reader.ReadsBack {α : Type} (p : Reader α) (written : α → Tokens) (ends : Tokens → Prop)
    (ts : Tokens) : Prop :=
  ∀ s rest, ends rest → ∃ a, p s ⟨ts ++ rest, none⟩ = .ok (a, ⟨rest, none⟩) ∧ written a = ts

/-! ## Commas -/

namespace Tokens

/-- Pieces, each with the comma behind it; the last one may have none. -/
inductive Parted : List (Tokens × Tokens) → Prop
  | nil : Parted []
  | last (ts : Tokens) : Parted [(ts, [])]
  | cons (ts : Tokens) (place : Span) {more : List (Tokens × Tokens)} (h : Parted more) :
      Parted ((ts, [.punct ',' false place]) :: more)

theorem parted_cons_iff {ts comma : Tokens} {more : List (Tokens × Tokens)} :
    Parted ((ts, comma) :: more) ↔ comma = [] ∧ more = [] ∨
      ∃ place, comma = [.punct ',' false place] ∧ Parted more := by
  constructor
  · intro h
    cases h with
    | last => exact .inl ⟨rfl, rfl⟩
    | cons _ place h => exact .inr ⟨place, rfl, h⟩
  · rintro (⟨rfl, rfl⟩ | ⟨place, rfl, h⟩)
    · exact .last ts
    · exact .cons ts place h

/-- The tokens of such pieces. -/
def listed (items : List (Tokens × Tokens)) : Tokens := items.flatMap fun p => p.1 ++ p.2

theorem listed_cons (p : Tokens × Tokens) (items : List (Tokens × Tokens)) :
    listed (p :: items) = p.1 ++ (p.2 ++ listed items) := by
  rw [listed, List.flatMap_cons, List.append_assoc]
  rfl

/-- Nothing, or a comma. -/
def AtComma (ts : Tokens) : Prop := ts = [] ∨ ∃ place more, ts = .punct ',' false place :: more

end Tokens

namespace Reader

variable {s : Scope}

theorem operator_comma (place : Span) (rest : Tokens) :
    operator "," s ⟨.punct ',' false place :: rest, none⟩ =
      .ok ([.punct ',' false place], ⟨rest, none⟩) := rfl

theorem commaList_ends {α : Type} {item : Reader α} {written : α → Tokens}
    {items : List (Tokens × Tokens)} (parted : Tokens.Parted items)
    (h : ∀ p ∈ items, p.1 ≠ [] ∧ item.ReadsBack written Tokens.AtComma p.1)
    (read : List (α × Tokens)) :
    ∃ n as, n ≤ items.length + 1 ∧ Ends (fun read => do
      if ← atEnd then return .done read
      let a ← item
      if ← atEnd then return .done (read ++ [(a, [])])
      let comma ← operator ","
      return .again (read ++ [(a, comma)])) s n read
      ⟨Tokens.listed items, none⟩ (.ok (read ++ as, ⟨[], none⟩)) ∧
      as.map (fun a => (written a.1, a.2)) = items := by
  induction parted generalizing read with
  | nil => exact ⟨1, [], Nat.le_refl 1, .done (by rw [List.append_nil]; rfl), rfl⟩
  | last ts =>
    obtain ⟨begun, only⟩ := List.forall_mem_singleton.mp h
    obtain ⟨a, ha, same⟩ := only s [] (.inl rfl)
    refine ⟨1, [(a, [])], Nat.le_add_left 1 _, .done ?_, by simp [same]⟩
    obtain ⟨t, ts, rfl⟩ := List.exists_cons_of_ne_nil begun
    rw [Tokens.listed_cons]
    simp only [atEnd_bind, List.cons_append, List.isEmpty_cons, Bool.false_eq_true, if_false]
    rw [← List.cons_append, bind_apply]
    erw [ha]
    rfl
  | cons ts place parted ih =>
    next items =>
    rw [List.forall_mem_cons] at h
    obtain ⟨⟨begun, first⟩, h⟩ := h
    obtain ⟨a, ha, same⟩ := first s (.punct ',' false place :: Tokens.listed items)
      (.inr ⟨place, _, rfl⟩)
    obtain ⟨n, as, few, later, rest⟩ := ih h (read ++ [(a, [.punct ',' false place])])
    rw [List.append_assoc, List.singleton_append] at later
    refine ⟨n + 1, (a, [.punct ',' false place]) :: as, Nat.succ_le_succ few, .again ?_ later, ?_⟩
    · obtain ⟨t, ts, rfl⟩ := List.exists_cons_of_ne_nil begun
      rw [Tokens.listed_cons, List.singleton_append]
      simp only [atEnd_bind, List.cons_append, List.isEmpty_cons, Bool.false_eq_true, if_false]
      simp only [← List.cons_append, bind_apply, ha]
      rfl
    · simp [same, rest]

/-- **Lists up to the end** of a group are read back. -/
theorem commaTokens_parted {item : Reader Tokens} {items : List (Tokens × Tokens)}
    (parted : Tokens.Parted items)
    (h : ∀ p ∈ items, p.1 ≠ [] ∧ item.ReadsBack id Tokens.AtComma p.1) (s : Scope) :
    commaTokens item s ⟨Tokens.listed items, none⟩ =
      .ok (Tokens.listed items, ⟨[], none⟩) := by
  obtain ⟨n, as, few, ends, same⟩ := commaList_ends (s := s) parted h []
  have enough : n ≤ (Cursor.mk (Tokens.listed items) none).weight + 1 :=
    Nat.le_trans few (Nat.succ_le_succ (Tokens.length_le_weight fun p hp =>
      List.append_ne_nil_of_left_ne_nil (h p hp).1 _))
  have list : commaList item s ⟨Tokens.listed items, none⟩ = .ok (as, ⟨[], none⟩) :=
    loop_of_ends ends enough
  rw [commaTokens, bind_apply, list]
  replace same : as = items := by simpa using same
  rw [same]
  rfl

end Reader

/-! ## Angle brackets -/

/-- A closing angle bracket, or a comma. -/
def Tokens.AtAngle (ts : Tokens) : Prop :=
  ∃ c place more, (c = ',' ∨ c = '>') ∧ ts = .punct c false place :: more

namespace Grammar

variable {s : Scope}

theorem angleList_ends {item : Reader (Bool × Tokens)} {items : List Listed}
    (parted : Tokens.Parted (items.map (·.2)))
    (h : ∀ i ∈ items, (∀ ts, (Sign.operator ">").shows (i.2.1 ++ ts) = false) ∧
      ∀ s ts, Tokens.AtAngle ts → item s ⟨i.2.1 ++ ts, none⟩ = .ok ((i.1, i.2.1), ⟨ts, none⟩))
    (read : List Listed) (place : Span) (rest : Tokens) :
    ∃ n, n ≤ items.length + 1 ∧ Ends (fun read => do
      if ← peek (.operator ">") then return .done read
      let (isLifetime, ts) ← item
      if ← peek (.operator ">") then return .done (read ++ [(isLifetime, ts, [])])
      let comma ← operator ","
      return .again (read ++ [(isLifetime, ts, comma)])) s n read
      ⟨Tokens.listed (items.map (·.2)) ++ .punct '>' false place :: rest, none⟩
      (.ok (read ++ items, ⟨.punct '>' false place :: rest, none⟩)) := by
  induction items generalizing read with
  | nil => exact ⟨1, Nat.le_refl 1, .done (by rw [List.append_nil]; rfl)⟩
  | cons i items ih =>
    rw [List.forall_mem_cons] at h
    obtain ⟨isLifetime, ts, comma⟩ := i
    obtain ⟨⟨stays, first⟩, h⟩ := h
    rw [List.map_cons, Tokens.parted_cons_iff] at parted
    rcases parted with ⟨rfl, alone⟩ | ⟨at_, rfl, parted⟩
    · obtain rfl := List.map_eq_nil_iff.mp alone
      have ha := first s (.punct '>' false place :: rest) ⟨_, _, _, .inr rfl, rfl⟩
      refine ⟨1, Nat.le_add_left 1 _, .done ?_⟩
      rw [List.map_cons, Tokens.listed_cons, List.append_assoc]
      simp only [peek_bind, stays, Bool.false_eq_true, if_false]
      rw [bind_apply]
      erw [ha]
      rfl
    · have ha := first s (.punct ',' false at_ :: (Tokens.listed (items.map (·.2)) ++
        .punct '>' false place :: rest)) ⟨_, _, _, .inl rfl, rfl⟩
      obtain ⟨n, few, later⟩ := ih parted h (read ++ [(isLifetime, ts, [.punct ',' false at_])])
      rw [List.append_assoc, List.singleton_append] at later
      refine ⟨n + 1, Nat.succ_le_succ few, .again ?_ later⟩
      rw [List.map_cons, Tokens.listed_cons, List.append_assoc]
      simp only [peek_bind, stays, Bool.false_eq_true, if_false]
      rw [bind_apply]
      erw [ha]
      rfl

/-- **Lists up to a closing bracket** are read back. -/
theorem angleList_parted {item : Reader (Bool × Tokens)} {items : List Listed}
    (parted : Tokens.Parted (items.map (·.2)))
    (h : ∀ i ∈ items, i.2.1 ≠ [] ∧ (∀ ts, (Sign.operator ">").shows (i.2.1 ++ ts) = false) ∧
      ∀ s ts, Tokens.AtAngle ts → item s ⟨i.2.1 ++ ts, none⟩ = .ok ((i.1, i.2.1), ⟨ts, none⟩))
    (s : Scope) (place : Span) (rest : Tokens) :
    angleList item s ⟨Tokens.listed (items.map (·.2)) ++ .punct '>' false place :: rest, none⟩ =
      .ok (items, ⟨.punct '>' false place :: rest, none⟩) := by
  obtain ⟨n, few, ends⟩ := angleList_ends parted (fun i hi => (h i hi).2) [] place rest
  have long : items.length ≤ (Tokens.listed (items.map (·.2))).weight := by
    rw [Tokens.listed, List.flatMap_map]
    exact Tokens.length_le_weight fun i hi => List.append_ne_nil_of_left_ne_nil (h i hi).1 _
  refine loop_of_ends ends ?_
  rw [Cursor.weight, Tokens.weight_append]
  omega

/-! ## Lifetimes first -/

theorem comma_of_parted {before behind : List (Tokens × Tokens)}
    (parted : Tokens.Parted (before ++ behind)) (more : behind ≠ []) :
    ∀ p ∈ before, p.2 ≠ [] := by
  induction before with
  | nil => exact nofun
  | cons p before ih =>
    obtain ⟨ts, comma⟩ := p
    rw [List.forall_mem_cons]
    rcases Tokens.parted_cons_iff.mp parted with ⟨-, alone⟩ | ⟨place, rfl, later⟩
    · exact absurd (List.append_eq_nil_iff.mp alone).2 more
    · exact ⟨List.cons_ne_nil _ _, ih later⟩

/-- What stands with its lifetimes first is written as it stands. -/
theorem lifetimesFirst_sorted {lifetimes others : List (Tokens × Tokens)}
    (parted : Tokens.Parted (lifetimes ++ others)) :
    lifetimesFirst (lifetimes.map (true, ·) ++ others.map (false, ·)) =
      Tokens.listed (lifetimes ++ others) := by
  have front : (lifetimes.map (Prod.mk true) ++ others.map (Prod.mk false)).filter (·.1) =
      lifetimes.map (Prod.mk true) := by
    rw [List.filter_append, List.filter_eq_self.mpr (by simp), List.filter_eq_nil_iff.mpr (by simp),
      List.append_nil]
  have back : (lifetimes.map (Prod.mk true) ++ others.map (Prod.mk false)).filter (!·.1) =
      others.map (Prod.mk false) := by
    rw [List.filter_append, List.filter_eq_nil_iff.mpr (by simp), List.filter_eq_self.mpr (by simp),
      List.nil_append]
  have noComma : ((lifetimes.map (Prod.mk true)).getLast?.any (·.2.2.isEmpty) &&
      !(others.map (Prod.mk false)).isEmpty) = false := by
    cases others with
    | nil => exact Bool.and_false _
    | cons p others =>
      refine Bool.and_eq_false_imp.mpr fun bare => ?_
      obtain ⟨i, last, empty⟩ := (Option.any_eq_true _ _).mp bare
      obtain ⟨q, hq, rfl⟩ := List.mem_map.mp (List.mem_of_getLast? last)
      exact absurd (List.isEmpty_iff.mp empty) (comma_of_parted parted (List.cons_ne_nil _ _) q hq)
  rw [lifetimesFirst]
  simp only [front, back, noComma, Bool.false_eq_true, if_false, List.append_nil]
  rw [Tokens.listed, List.flatMap_append, List.flatMap_map, List.flatMap_map]

end Grammar

end TypedId
