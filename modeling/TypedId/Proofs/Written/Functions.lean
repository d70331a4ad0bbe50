/-
Function types, read where they are written: with lifetimes of their own,
`unsafe` and a calling convention in front, inputs with or without names, and
a result (`readsType_function`).
-/
import TypedId.Proofs.Written.Types

namespace TypedId.Grammar

open Reader

variable {g : Grammar} {plus : Bool} {ts rest : Tokens}

/-! ## Inputs -/

theorem showsVariadic_bind {β : Type} (f : Bool → Reader β) (s : Scope) (c : Cursor) :
    (showsVariadic >>= f) s c = f ((Sign.operator "...").shows c.rest ||
      ([Sign.identifier, .keyword "_"].any (·.shows c.rest) &&
        (Tokens.skip? c.rest).any (Sign.operator ":").shows &&
        ((Tokens.skip? c.rest).bind Tokens.skip?).any (Sign.operator "...").shows)) s c := rfl

theorem namesInput_bind {β : Type} (f : Bool → Reader β) (s : Scope) (c : Cursor) :
    (namesInput >>= f) s c = f ((Tokens.skip? c.rest).any (Sign.operator ":").shows &&
      !(Tokens.skip? c.rest).any (Sign.operator "::").shows) s c := rfl

/-- The tokens are read back as one input of a function type. -/
structure ReadsInput (g : Grammar) (ts : Tokens) : Prop where
  begun : ts ≠ []
  plain : ∀ rest, (Sign.operator "#").shows (ts ++ rest) = false
  ended : ∀ rest, Tokens.AtComma rest → ((Sign.operator "...").shows (ts ++ rest) ||
    ([Sign.identifier, .keyword "_"].any (·.shows (ts ++ rest)) &&
      (Tokens.skip? (ts ++ rest)).any (Sign.operator ":").shows &&
      ((Tokens.skip? (ts ++ rest)).bind Tokens.skip?).any (Sign.operator "...").shows)) = false
  read : ∀ first s rest, Tokens.AtComma rest →
    functionInput g first s ⟨ts ++ rest, none⟩ = .ok (ts, ⟨rest, none⟩)

/-- What is no name is neither one in front of a type nor in front of dots. -/
theorem names_of_unnamed (h : ts.Unnamed) (ends : rest.AtComma) :
    ([Sign.identifier, .keyword "_", .keyword "self"].any (·.shows (ts ++ rest)) &&
      ((Tokens.skip? (ts ++ rest)).any (Sign.operator ":").shows &&
        !(Tokens.skip? (ts ++ rest)).any (Sign.operator "::").shows)) = false ∧
    ([Sign.identifier, .keyword "_", .keyword "self"].any (·.shows (ts ++ rest)) &&
      ((Tokens.skip? (ts ++ rest)).any (Sign.operator ":").shows &&
        ((Tokens.skip? (ts ++ rest)).bind Tokens.skip?).any (Sign.operator "...").shows)) =
      false := by
  have unnamed := h rest ends
  cases behind : Tokens.skip? (ts ++ rest) with
  | none => simp
  | some us =>
    rw [behind, Option.any_some, Tokens.oneColon] at unnamed
    simp only [Option.any_some, Option.bind_some]
    revert unnamed
    generalize [Sign.identifier, .keyword "_", .keyword "self"].any (·.shows (ts ++ rest)) = word
    generalize (Sign.operator ":").shows us = colon
    generalize (Sign.operator "::").shows us = colons
    generalize (Tokens.skip? us).any (Sign.operator "...").shows = dots
    revert word colon colons dots
    decide

theorem readsInput_type (h : ReadsType (g.type true true) true ts) : ReadsInput g ts where
  begun := h.front.ne_nil
  plain := h.front.not_shows (by decide)
  ended rest ends := by
    have noDots := h.front.not_shows (show Sign.operator "..." ∈ otherSigns by decide) rest
    have unnamed := (names_of_unnamed h.unnamed ends).2
    rw [noDots, Bool.false_or]
    revert unnamed
    simp only [List.any_cons, List.any_nil]
    grind
  read first s rest ends := by
    obtain ⟨t, read, rfl⟩ := h.read s rest (ends.endsType true)
    have noMut := h.front.not_shows (show Sign.keyword "mut" ∈ otherSigns by decide) rest
    have noName : (!([Sign.identifier, .keyword "_"].any (·.shows (t.tokens ++ rest))) && first &&
          (Sign.keyword "self").shows (t.tokens ++ rest) &&
          ((Tokens.skip? (t.tokens ++ rest)).any (Sign.operator ":").shows &&
            !(Tokens.skip? (t.tokens ++ rest)).any (Sign.operator "::").shows) ||
        [Sign.identifier, .keyword "_"].any (·.shows (t.tokens ++ rest)) &&
          ((Tokens.skip? (t.tokens ++ rest)).any (Sign.operator ":").shows &&
            !(Tokens.skip? (t.tokens ++ rest)).any (Sign.operator "::").shows)) = false := by
      have unnamed := (names_of_unnamed h.unnamed ends).1
      revert unnamed
      simp only [List.any_cons, List.any_nil]
      grind
    rw [functionInput, bind_apply, withSource]
    simp only [peek_bind, peek2_bind, peekAny_bind, namesInput_bind, noMut, noName, Bool.and_false,
      Bool.false_and, Bool.false_eq_true, if_false]
    rw [bind_apply, pure_apply]
    simp only [peek_bind, peek2_bind, noMut, Bool.and_false, Bool.false_and, Bool.false_eq_true,
      if_false]
    simp only [bind_apply, read]
    rfl

/-- A name may stand in front of the type. -/
theorem readsInput_named {w : Ident} (known : isKeyword w.text = false ∨ w.text = "_") (colon : Span)
    (h : ReadsType (g.type true true) true ts) :
    ReadsInput g (w.token :: .punct ':' false colon :: ts) where
  begun := List.cons_ne_nil _ _
  plain _ := rfl
  ended rest _ := by
    have noDots := h.front.not_shows (show Sign.operator "..." ∈ otherSigns by decide) rest
    have behind : ((Tokens.skip? (w.token :: .punct ':' false colon :: ts ++ rest)).bind
        Tokens.skip?).any (Sign.operator "...").shows = false := noDots
    rw [behind, Bool.and_false]
    rfl
  read first s rest ends := by
    obtain ⟨t, read, rfl⟩ := h.read s rest (ends.endsType true)
    have noMut := h.front.not_shows (show Sign.keyword "mut" ∈ otherSigns by decide) rest
    have noWord : (Sign.keyword "mut").shows
        (w.token :: .punct ':' false colon :: (t.tokens ++ rest)) = false := by
      refine decide_eq_false fun word => ?_
      rcases known with plain | blank
      · exact absurd (word ▸ plain) (by decide)
      · exact absurd (blank.symm.trans word) (by decide)
    have isName : [Sign.identifier, .keyword "_"].any
        (·.shows (w.token :: .punct ':' false colon :: (t.tokens ++ rest))) = true := by
      have front : Tokens.word? (w.token :: .punct ':' false colon :: (t.tokens ++ rest)) =
          some (w, .punct ':' false colon :: (t.tokens ++ rest)) := rfl
      rcases known with plain | blank
      · simp [Sign.shows, front, plain]
      · simp [Sign.shows, front, blank]
    have named : ((Tokens.skip? (w.token :: .punct ':' false colon :: (t.tokens ++ rest))).any
          (Sign.operator ":").shows &&
        !(Tokens.skip? (w.token :: .punct ':' false colon :: (t.tokens ++ rest))).any
          (Sign.operator "::").shows) = true := rfl
    have name : inputName s ⟨w.token :: .punct ':' false colon :: (t.tokens ++ rest), none⟩ =
        .ok ([w.token, .punct ':' false colon], ⟨t.tokens ++ rest, none⟩) := rfl
    rw [List.cons_append, List.cons_append, functionInput, bind_apply, withSource]
    simp only [peek_bind, peek2_bind, peekAny_bind, namesInput_bind, noWord, isName, named,
      Bool.not_true, Bool.and_false, Bool.false_and, Bool.and_true, Bool.false_or,
      Bool.false_eq_true, if_true, if_false]
    rw [bind_apply, name]
    simp only [peek_bind, peek2_bind, noMut, Bool.and_false, Bool.false_and, Bool.false_eq_true,
      if_false]
    simp only [bind_apply, read]
    rfl

/-- A round of the loop that reads inputs. -/
def inputRound (g : Grammar) (read : Tokens) : Reader (Round Tokens Tokens) := do
  if ← atEnd then return .done read
  let attributes ← outerTokens g
  if ← showsVariadic then
    let name ← if ← peekAny [.identifier, .keyword "_"] then inputName else pure []
    let dots ← operator "..."
    return .done (read ++ attributes ++ name ++ dots ++ (← operator? ","))
  let input ← functionInput g read.isEmpty
  if ← atEnd then return .done (read ++ attributes ++ input)
  return .again (read ++ attributes ++ input ++ (← operator ","))

theorem inputRound_read (h : ReadsInput g ts) (ends : rest.AtComma) (read : Tokens) (s : Scope) :
    inputRound g read s ⟨ts ++ rest, none⟩ =
      (do
        if ← atEnd then return .done (read ++ ts)
        return .again (read ++ ts ++ (← operator ",")) : Reader (Round Tokens Tokens))
        s ⟨rest, none⟩ := by
  have begun : (ts ++ rest).isEmpty = false :=
    List.isEmpty_eq_false_iff.mpr (List.append_ne_nil_of_left_ne_nil h.begun rest)
  rw [inputRound, atEnd_bind, begun, if_neg Bool.false_ne_true, bind_apply,
    outerTokens_none (h.plain rest)]
  simp only [showsVariadic_bind, h.ended rest ends, Bool.false_eq_true, if_false, List.append_nil]
  rw [bind_apply, h.read read.isEmpty s rest ends]

theorem functionInputs_ends {items : List (Tokens × Tokens)} (parted : Tokens.Parted items)
    (h : ∀ p ∈ items, ReadsInput g p.1) (s : Scope) (read : Tokens) :
    ∃ n, n ≤ items.length + 1 ∧ Ends (inputRound g) s n read ⟨Tokens.listed items, none⟩
      (.ok (read ++ Tokens.listed items, ⟨[], none⟩)) := by
  induction parted generalizing read with
  | nil =>
    refine ⟨1, Nat.le_refl 1, .done ?_⟩
    rw [Tokens.listed, List.flatMap_nil, List.append_nil]
    rfl
  | last ts =>
    have only := inputRound_read (h _ List.mem_cons_self) (.inl rfl) read s
    have tokens : Tokens.listed [(ts, [])] = ts ++ [] := by simp [Tokens.listed]
    refine ⟨1, Nat.le_add_left 1 _, .done ?_⟩
    rw [tokens, only, List.append_nil]
    rfl
  | cons ts place parted ih =>
    next items =>
    rw [List.forall_mem_cons] at h
    have first := inputRound_read h.1
      (show Tokens.AtComma (.punct ',' false place :: Tokens.listed items) from .inr ⟨place, _, rfl⟩)
      read s
    obtain ⟨n, few, later⟩ := ih h.2 (read ++ ts ++ [.punct ',' false place])
    have tokens : Tokens.listed ((ts, [.punct ',' false place]) :: items) =
        ts ++ .punct ',' false place :: Tokens.listed items := Tokens.listed_cons _ _
    have total : read ++ (ts ++ .punct ',' false place :: Tokens.listed items) =
        read ++ ts ++ [.punct ',' false place] ++ Tokens.listed items := by simp
    rw [tokens, total]
    exact ⟨n + 1, Nat.succ_le_succ few, .again (first.trans rfl) later⟩

theorem functionInputs_written {items : List (Tokens × Tokens)} (parted : Tokens.Parted items)
    (h : ∀ p ∈ items, ReadsInput g p.1) (s : Scope) :
    functionInputs g s ⟨Tokens.listed items, none⟩ = .ok (Tokens.listed items, ⟨[], none⟩) := by
  obtain ⟨n, few, ends⟩ := functionInputs_ends parted h s []
  have long : items.length ≤ (Tokens.listed items).weight :=
    Tokens.length_le_weight fun p hp => List.append_ne_nil_of_left_ne_nil (h p hp).begun _
  exact loop_of_ends ends (Nat.le_trans few (Nat.succ_le_succ long))

/-! ## What stands before the inputs -/

/-- `extern` and perhaps the name of a calling convention, or nothing. -/
inductive IsConvention : Tokens → Prop
  | none : IsConvention []
  | foreign (word : Span) : IsConvention [.ident "extern" word]
  | named (word : Span) {x : String} (text : Token.Literal.kind x = .string) (place : Span) :
      IsConvention [.ident "extern" word, .literal x place]

theorem abi_written {convention : Tokens} (h : IsConvention convention) (word : Span)
    (more : Tokens) (s : Scope) :
    abi s ⟨convention ++ .ident "fn" word :: more, none⟩ =
      .ok (convention, ⟨.ident "fn" word :: more, none⟩) := by
  cases h with
  | none => rfl
  | foreign => rfl
  | named place text at_ =>
    next x =>
    have shown : Sign.stringLiteral.shows (.literal x at_ :: .ident "fn" word :: more) = true :=
      decide_eq_true text
    have extern_ : keyword "extern" s
        ⟨.ident "extern" place :: .literal x at_ :: .ident "fn" word :: more, none⟩ =
        .ok ([.ident "extern" place], ⟨.literal x at_ :: .ident "fn" word :: more, none⟩) := rfl
    have literal : Reader.optional .stringLiteral (literalOf .stringLiteral) s
        ⟨.literal x at_ :: .ident "fn" word :: more, none⟩ =
        .ok ([.literal x at_], ⟨.ident "fn" word :: more, none⟩) := by
      rw [Reader.optional, peek_bind, shown, if_pos rfl, literalOf]
      simp only [shown, if_true]
      rfl
    have front : (Sign.keyword "extern").shows
        (.ident "extern" place :: .literal x at_ :: .ident "fn" word :: more) = true := rfl
    rw [List.cons_append, List.singleton_append, abi, peek_bind, front, if_pos rfl, bind_apply,
      extern_]
    simp only [bind_apply, literal]
    rfl

/-! ## Function types -/

/-- The tokens of a function type. -/
def functionTokens (binder : Tokens) (safety : Option Span) (convention : Tokens) (word : Span)
    (inputs : Tokens) (place : Span) (r : Option (Span × Span × Tokens)) : Tokens :=
  binder ++ ((safety.map fun p => [Token.ident "unsafe" p]).getD [] ++ (convention ++
    .ident "fn" word :: .group .parenthesis inputs place :: resultTokens r))

/-- What is behind the lifetimes begins with one of these words. -/
theorem function_front (safety : Option Span) {convention : Tokens}
    (isConvention : IsConvention convention) (word : Span) (more : Tokens) :
    ∃ x place behind, x ∈ ["unsafe", "extern", "fn"] ∧
      (safety.map fun p => [Token.ident "unsafe" p]).getD [] ++
        (convention ++ .ident "fn" word :: more) = .ident x place :: behind := by
  cases safety with
  | some place => exact ⟨"unsafe", place, _, by decide, rfl⟩
  | none =>
    cases isConvention with
    | none => exact ⟨"fn", word, _, by decide, rfl⟩
    | foreign place => exact ⟨"extern", place, _, by decide, rfl⟩
    | named place => exact ⟨"extern", place, _, by decide, rfl⟩

theorem functionType_written (binder : Tokens) (safety : Option Span) {convention : Tokens}
    (isConvention : IsConvention convention) (word : Span) {items : List (Tokens × Tokens)}
    (parted : Tokens.Parted items) (h : ∀ p ∈ items, ReadsInput g p.1) (place : Span)
    {r : Option (Span × Span × Tokens)}
    (hr : ∀ a ∈ r, ReadsType (g.type false true) false a.2.2) (ends : rest.EndsType false)
    (s : Scope) :
    functionType g binder s
        ⟨(safety.map fun p => [Token.ident "unsafe" p]).getD [] ++ (convention ++
          .ident "fn" word :: .group .parenthesis (Tokens.listed items) place ::
            (resultTokens r ++ rest)), none⟩ =
      .ok (.other (functionTokens binder safety convention word (Tokens.listed items) place r),
        ⟨rest, none⟩) := by
  have inputs := functionInputs_written parted h ⟨place.closing, .parenthesis⟩
  have result := result_written hr ends s
  have abi := abi_written isConvention word
    (.group .parenthesis (Tokens.listed items) place :: (resultTokens r ++ rest)) s
  have safe (more : Tokens) (none_ : (Sign.keyword "unsafe").shows more = false) :
      keyword? "unsafe" s ⟨(safety.map fun p => [Token.ident "unsafe" p]).getD [] ++ more, none⟩ =
        .ok ((safety.map fun p => [Token.ident "unsafe" p]).getD [], ⟨more, none⟩) := by
    cases safety with
    | none => exact optional_none none_ s
    | some place => rfl
  have noUnsafe : (Sign.keyword "unsafe").shows (convention ++ .ident "fn" word ::
      .group .parenthesis (Tokens.listed items) place :: (resultTokens r ++ rest)) = false := by
    cases isConvention <;> rfl
  have fn_ : keyword "fn" s ⟨.ident "fn" word ::
      .group .parenthesis (Tokens.listed items) place :: (resultTokens r ++ rest), none⟩ =
      .ok ([.ident "fn" word],
        ⟨.group .parenthesis (Tokens.listed items) place :: (resultTokens r ++ rest), none⟩) := rfl
  rw [functionType, bind_apply, safe _ noUnsafe]
  simp only
  rw [bind_apply, abi]
  simp only
  rw [bind_apply, fn_]
  refine groupThen_read inputs ?_
  rw [bind_apply, result]
  simp [functionTokens, pure_apply]

/-- **Function types** are read back. -/
theorem readsType_function {binder convention : Tokens} (isBinder : IsBinder binder)
    (safety : Option Span) (isConvention : IsConvention convention) (word : Span)
    {items : List (Tokens × Tokens)} (parted : Tokens.Parted items)
    (h : ∀ p ∈ items, ReadsInput g p.1) (place : Span) {r : Option (Span × Span × Tokens)}
    (hr : ∀ a ∈ r, ReadsType (g.type false true) false a.2.2) :
    ReadsType (typeOnce g plus true) plus
      (functionTokens binder safety convention word (Tokens.listed items) place r) := by
  have front : ∃ x at_ behind, x ∈ ["for", "unsafe", "extern", "fn"] ∧
      functionTokens binder safety convention word (Tokens.listed items) place r =
        .ident x at_ :: behind := by
    cases isBinder with
    | none =>
      obtain ⟨x, at_, behind, known, eq⟩ := function_front safety isConvention word
        (.group .parenthesis (Tokens.listed items) place :: resultTokens r)
      exact ⟨x, at_, behind, List.mem_cons_of_mem _ known, eq⟩
    | lifetimes at_ => exact ⟨"for", at_, _, by decide, rfl⟩
  refine ⟨?_, fun rest _ => ?_, fun s rest ends => ⟨.other (functionTokens binder safety convention
    word (Tokens.listed items) place r), ?_, rfl⟩⟩
  · obtain ⟨x, at_, behind, known, eq⟩ := front
    rw [eq]
    simp only [List.mem_cons, List.not_mem_nil, or_false] at known
    rcases known with rfl | rfl | rfl | rfl <;> exact .cons rfl behind
  · obtain ⟨x, at_, behind, known, eq⟩ := front
    rw [eq]
    simp only [List.mem_cons, List.not_mem_nil, or_false] at known
    rcases known with rfl | rfl | rfl | rfl <;> rfl
  · have tokens : functionTokens binder safety convention word (Tokens.listed items) place r ++
        rest = binder ++ ((safety.map fun p => [Token.ident "unsafe" p]).getD [] ++ (convention ++
          .ident "fn" word :: .group .parenthesis (Tokens.listed items) place ::
            (resultTokens r ++ rest))) := by
      simp [functionTokens]
    have type := functionType_written binder safety isConvention word parted h place hr
      ends.withoutSum s
    obtain ⟨x, at_, behind, known, eq⟩ := function_front safety isConvention word
      (.group .parenthesis (Tokens.listed items) place :: (resultTokens r ++ rest))
    rw [tokens]
    rw [eq] at type ⊢
    simp only [List.mem_cons, List.not_mem_nil, or_false] at known
    have noGroup : (Sign.group .invisible).shows (binder ++ .ident x at_ :: behind) = false := by
      cases isBinder <;> rfl
    have signs : binderSigns.any (·.shows (.ident x at_ :: behind)) = true ∧
        (Sign.group .parenthesis).shows (.ident x at_ :: behind) = false ∧
        [Sign.keyword "fn", .keyword "unsafe", .keyword "extern"].any
          (·.shows (.ident x at_ :: behind)) = true ∧
        (Sign.keyword "for").shows (.ident x at_ :: behind) = false := by
      rcases known with rfl | rfl | rfl <;> exact ⟨rfl, rfl, rfl, rfl⟩
    have binder_ := binder?_written (g := g) isBinder (fun _ => signs.2.2.2) s
    rw [typeOnce, peek_bind, noGroup, if_neg Bool.false_ne_true, bind_apply, binder_]
    simp only [peek_bind, peekAny_bind, signs, Bool.not_true, Bool.and_false, Bool.false_eq_true,
      if_false, if_true]
    exact type

end TypedId.Grammar
