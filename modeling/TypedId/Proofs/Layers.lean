/-
The check of the raw type under layers. `unresolved_under_layers`: whatever
parentheses and invisible groups are around a type, in any order and any
number, the check finds what it finds in the core alone, and where the core
is. A tuple of one element is close to a type in parentheses, but the comma
behind the element makes it a type of its own, whatever the element is.
-/
import TypedId.Proofs.Acceptance
import TypedId.Proofs.Written.Field
import TypedId.Proofs.Written.Types

namespace TypedId

/-! ## Cores -/

namespace RawType

/-- No layer is around the type. -/
def IsCore (t : RawType) : Prop :=
  (∀ inner place, t ≠ .paren inner place) ∧ ∀ inner place, t ≠ .group inner place

theorem isCore_iff {t : RawType} : t.IsCore ↔ t.layers = [] := by
  cases t <;> simp [IsCore, layers]

theorem layers_core (t : RawType) : t.core.layers = [] := by
  induction t with
  | paren t place ih => exact ih
  | group t place ih => exact ih
  | _ => rfl

theorem IsCore.core_eq {t : RawType} (h : t.IsCore) : t.core = t := by
  have same := t.core_wrap_layers
  rwa [isCore_iff.mp h] at same

/-- A type is its core in its layers, and no other core in any layers. -/
theorem existsUnique_layers (t : RawType) :
    ∃! split : RawType × List Layer, split.1.IsCore ∧ split.1.wrap split.2 = t := by
  refine ⟨(t.core, t.layers), ⟨isCore_iff.mpr t.layers_core, t.core_wrap_layers⟩, ?_⟩
  rintro ⟨c, layers⟩ ⟨isCore, rfl⟩
  dsimp only at isCore ⊢
  rw [core_wrap, layers_wrap, isCore.core_eq, isCore_iff.mp isCore, List.append_nil]

end RawType

/-! ## Tuples of one element -/

namespace Grammar

open Reader

variable {g : Grammar} {plus generic : Bool} {s : Scope} {c : Cursor}

theorem shows_question_iff {ts : Tokens} : (Sign.operator "?").shows ts = true ↔
    ∃ joint place rest, ts.enter = .punct '?' joint place :: rest :=
  Tokens.shows_mark_iff (c := '?') (by decide)

theorem typeOnce_question (inserted : (Sign.group .invisible).shows c.rest = false)
    (shown : (Sign.operator "?").shows c.rest = true) :
    typeOnce g plus generic s c = expected typeSigns s c := by
  obtain ⟨joint, place, more, front⟩ := shows_question_iff.mp shown
  have same : c.rest.enter = Tokens.enter (.punct '?' joint place :: more) := front
  have signs : (binderSigns ++ typeSigns).any (·.shows c.rest) = false := by
    refine (any_shows_congr fun sign hm => Sign.shows_congr ?_ same).trans ?_
    · revert sign
      decide
    · cases joint <;> rfl
  simp only [binderSigns, typeSigns, List.cons_append, List.nil_append, List.any_cons, List.any_nil,
    Bool.or_false, Bool.or_eq_false_iff] at signs
  have noFor : (Sign.keyword "for").shows c.rest = false := Sign.shows_congr rfl same
  have noBinder : binder? g s c = .ok ([], c) := by
    rw [binder?, peek_bind, noFor]
    rfl
  rw [typeOnce, peek_bind, inserted, if_neg Bool.false_ne_true, bind_apply, noBinder]
  simp only [List.isEmpty_nil, Bool.not_true, Bool.false_and, Bool.false_eq_true, if_false,
    peek_bind, peekAny_bind, List.any_cons, List.any_nil, Bool.or_false, signs]

/-- No type begins with a question mark, not even under invisible groups. -/
theorem type_not_question {n : Nat} {r : RawType × Cursor}
    (h : (deep n).type plus generic s c = .ok r) : (Sign.operator "?").shows c.rest = false := by
  induction n generalizing plus generic s c r with
  | zero => cases h
  | succ n ih =>
    have once : typeOnce (deep n) plus generic s c = .ok r := h
    rw [← Bool.not_eq_true]
    intro shown
    cases inserted : (Sign.group .invisible).shows c.rest with
    | false =>
      rw [typeOnce_question inserted shown] at once
      cases once
    | true =>
      rw [typeOnce, peek_bind, inserted, if_pos rfl, insertedType] at once
      obtain ⟨⟨place, inner⟩, c', held, -⟩ := bind_eq_ok_iff.mp once
      obtain ⟨content, rest, c₁, group, read, -⟩ := group_of_ok held
      have begun : content.enter ≠ [] := by
        intro blank
        obtain ⟨f, failed⟩ := deep_needs n true true ⟨place.closing, .invisible⟩
          { c with rest := content } (.inl blank)
        rw [failed] at read
        cases read
      obtain ⟨u, us, front⟩ := List.exists_cons_of_ne_nil begun
      have same : c.rest.enter = u :: (us ++ rest) := by
        rw [Tokens.eq_of_group?_invisible group, Tokens.enter_invisible, if_neg begun, front,
          List.cons_append]
      -- the group begins with what its content begins with
      obtain ⟨joint, mark, more, marked⟩ := shows_question_iff.mp shown
      rw [same] at marked
      cases marked
      have marked := shows_question_iff.mpr ⟨joint, mark, us, front⟩
      exact Bool.eq_false_iff.mp (ih read) marked

/-- **A comma makes a tuple.** What is a type by itself is, with a comma behind it and in
parentheses, the tuple of that type. Behind a lifetime in front, parentheses hold bounds and no
comma, so that a type of such bounds has no tuple. -/
theorem anyType_tuple {ts : Tokens} {t : RawType} {place : Span}
    (read : runIn ⟨place.closing, .parenthesis⟩ anyType ts = .ok t)
    (noLifetime : Sign.lifetime.shows ts = false) (joint : Bool) (comma : Span) (s : Scope)
    (rest : Tokens) :
    anyType s ⟨.group .parenthesis (ts ++ [.punct ',' joint comma]) place :: rest, none⟩ =
      .ok (.other [.group .parenthesis (t.tokens ++ [.punct ',' false comma]) place],
        ⟨rest, none⟩) := by
  obtain ⟨left, alone, clean⟩ := runIn_eq_ok_iff.mp read
  let k : Tail := ⟨joint, comma, []⟩
  let n := Tokens.weight (.group .parenthesis (ts ++ k.tokens) place :: rest)
  have deeper : (Cursor.mk ts none).weight + 1 ≤ n := by
    simp only [n, Cursor.weight, Tokens.weight_cons, Tokens.weight_append, Tokens.weight_group]
    omega
  have first : (deep (n + 1)).type true true ⟨place.closing, .parenthesis⟩ ⟨ts ++ k.tokens, none⟩ =
      .ok (t, ⟨left ++ k.tokens, none⟩) :=
    typeOnce_stops (deep_stops k deeper) true true _ _ _ _ alone
  have noMark : (Sign.operator "?").shows ts = false :=
    type_not_question (n := ts.weight + 2) alone
  have begins : BeginsType (ts ++ k.tokens) :=
    ⟨List.append_ne_nil_of_right_ne_nil ts (List.cons_ne_nil _ _),
      (Sign.shows_append k rfl ts).trans noLifetime, (Sign.shows_append k rfl ts).trans noMark⟩
  have front : (left ++ k.tokens).enter = .punct ',' joint comma :: [] := by
    rw [Tokens.enter_append_tail, blank_of_remainder clean]
    rfl
  have taken : operator "," ⟨place.closing, .parenthesis⟩ ⟨left ++ k.tokens, none⟩ =
      .ok ([.punct ',' false comma], ⟨[], none⟩) := by
    have mark : ",".toList = [','] := by decide
    simp only [operator, mark,
      (Tokens.operator?_one_eq_some_iff (by decide)).mpr ⟨joint, comma, front, rfl⟩]
  have ended : commaTokens (RawType.tokens <$> (deep (n + 1)).type true true)
      ⟨place.closing, .parenthesis⟩ ⟨[], none⟩ = .ok ([], ⟨[], none⟩) := rfl
  have tuple := enclosed_tuple begins first (Tokens.shows_comma_iff.mpr ⟨[], joint, comma, front⟩)
    taken ended
  rw [List.append_nil] at tuple
  have whole : anyType s ⟨.group .parenthesis (ts ++ k.tokens) place :: rest, none⟩ =
      typeOnce (deep (n + 1)) true true s
        ⟨.group .parenthesis (ts ++ k.tokens) place :: rest, none⟩ := rfl
  exact whole.trans ((typeOnce_parentheses ..).trans (groupThen_read tuple rfl))

end Grammar

/-! ## What is found -/

namespace Validation

open RawType (IsCore)

theorem checkRawType_wrap (t : RawType) (layers : List Layer) :
    checkRawType (t.wrap layers) = checkRawType t := by
  rw [checkRawType, checkRawType, RawType.core_wrap]

/-- What is found in a core, and where. -/
def foundInCore : RawType → List Diagnostic
  | .infer place => [⟨.rawType (some "`_` must be replaced by a concrete type"), place⟩]
  | .never place => [⟨.rawType (some "`!` has no values to wrap"), place⟩]
  | .unit place =>
    [⟨.rawType (some "`()` has a single value and cannot distinguish identifiers"), place⟩]
  | _ => []

theorem checkRawType_of_isCore {c : RawType} (h : c.IsCore) : checkRawType c = foundInCore c := by
  rw [checkRawType, h.core_eq]
  cases c with
  | infer place | never place | unit place =>
    simp only [unresolved?, foundInCore, RawType.span, RawType.tokens, Tokens.span_singleton,
      Token.span]
  | paren | group | path | bound | other => rfl

theorem resolved_of_validate {d : Declaration} (h : validate d = .ok ()) {t : RawType}
    {layers : List Layer} (same : d.rawType = t.wrap layers) : unresolved? t.core = none := by
  have resolved := ((validate_iff d).mp h).1.2.1
  rwa [same, RawType.core_wrap] at resolved

/-- **Unresolved types are found under all layers.** A type is one core in layers, and what is found
in it is what its core is, once, and where its core is: layers change nothing. The parentheses of a
tuple of one element are no layer, also if the element is unresolved. -/
theorem unresolved_under_layers :
    (∀ t : RawType, ∃! split : RawType × List Layer,
      split.1.IsCore ∧ split.1.wrap split.2 = t) ∧
    (∀ (c : RawType) (layers : List Layer), c.IsCore →
      checkRawType (c.wrap layers) = foundInCore c) ∧
    (∀ (t : RawType) (layers : List Layer), checkRawType (t.wrap layers) = checkRawType t) ∧
    (∀ (ts : Tokens) (t : RawType) (place : Span),
      Reader.runIn ⟨place.closing, .parenthesis⟩ Grammar.anyType ts = .ok t →
      Sign.lifetime.shows ts = false → ∀ joint comma s rest, ∃ tuple : RawType,
        Grammar.anyType s
            ⟨.group .parenthesis (ts ++ [.punct ',' joint comma]) place :: rest, none⟩ =
          .ok (tuple, ⟨rest, none⟩) ∧
        tuple.tokens = [.group .parenthesis (t.tokens ++ [.punct ',' false comma]) place] ∧
        tuple.IsCore ∧ checkRawType tuple = []) ∧
    ∀ d, validate d = .ok () → ∀ layers place, d.rawType ≠ (RawType.infer place).wrap layers ∧
      d.rawType ≠ (RawType.never place).wrap layers ∧
      d.rawType ≠ (RawType.unit place).wrap layers := by
  refine ⟨RawType.existsUnique_layers, fun c layers isCore => ?_, checkRawType_wrap,
    fun ts t place read noLifetime joint comma s rest => ?_, fun d h layers place => ?_⟩
  · rw [checkRawType_wrap, checkRawType_of_isCore isCore]
  · exact ⟨_, Grammar.anyType_tuple read noLifetime joint comma s rest, rfl, by simp [IsCore], rfl⟩
  · exact ⟨(nomatch resolved_of_validate h ·),
      (nomatch resolved_of_validate h ·),
      (nomatch resolved_of_validate h ·)⟩

/-- `(_,)`. -/
def tupleOfInfer : RawType :=
  .other [.group .parenthesis [.ident "_" .callSite, .punct ',' false .callSite] .callSite]

theorem validate_tupleOfInfer : validate (Expansion.imageIdOver tupleOfInfer) = .ok () :=
  Validation.validate_eq_ok_iff_findings.mpr (by decide +kernel)

/-- The place of the `_` in `((_))`. -/
def innermost : Span := .within "((_))" ⟨1, 2⟩ ⟨1, 3⟩

/-- What is wrong in `((_))` is found at the `_`. `(_,)` passes. -/
theorem unresolved_under_layers_infer :
    (RawType.infer innermost).IsCore ∧
    checkRawType (.paren (.group (.paren (.infer innermost) .callSite) .callSite) .callSite) =
      [⟨.rawType (some "`_` must be replaced by a concrete type"), innermost⟩] ∧
    Reader.runIn ⟨.callSite, .parenthesis⟩ Grammar.anyType [.ident "_" .callSite] =
      .ok (.infer .callSite) ∧
    Sign.lifetime.shows [.ident "_" .callSite] = false ∧
    (∃ tuple : RawType,
      Grammar.anyType .top ⟨tupleOfInfer.tokens, none⟩ = .ok (tuple, ⟨[], none⟩) ∧
      tuple.tokens = tupleOfInfer.tokens ∧ tuple.IsCore ∧ checkRawType tuple = []) ∧
    validate (Expansion.imageIdOver tupleOfInfer) = .ok () ∧
    tupleOfInfer ≠ (RawType.infer .callSite).wrap [.paren .callSite] := by
  obtain ⟨-, found, -, tuple, accepted⟩ := unresolved_under_layers
  have isCore : (RawType.infer innermost).IsCore := by simp [IsCore]
  have read : Reader.runIn ⟨.callSite, .parenthesis⟩ Grammar.anyType [.ident "_" .callSite] =
      .ok (.infer .callSite) := rfl
  refine ⟨isCore, ?_, read, rfl, ?_, validate_tupleOfInfer, ?_⟩
  · exact found (.infer innermost) [.paren .callSite, .group .callSite, .paren .callSite] isCore
  · exact tuple [.ident "_" .callSite] (.infer .callSite) .callSite read rfl false .callSite .top []
  · exact (accepted _ validate_tupleOfInfer [.paren .callSite] .callSite).1

end Validation

end TypedId
