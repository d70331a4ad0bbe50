/-
Visibilities and types are read forward: each reader that they are put
together from goes forward, and so does the whole, however deep its parts
nest. One lemma a reader; what a reader is put together from is known by then.
-/
import TypedId.Grammar.Whole
import TypedId.Proofs.Forward

namespace TypedId.Grammar

open Reader

/-! ## Visibilities -/

@[grind ←] theorem separator_forward : Forward separator := by
  unfold separator
  grind

@[grind ←] theorem separator?_forward : Forward separator? := by
  unfold separator?
  grind

theorem restriction_forward (pub : Span) : Forward (restriction pub) := by
  unfold restriction
  grind

theorem visibility_forward : Forward visibility := by
  have shown : Forward shownVisibility := by
    unfold shownVisibility
    grind [restriction_forward]
  have empty : Forward (fun _ c => .ok (Visibility.inherited, { c with rest := c.rest.tail })) := by
    intro s c v c' h
    cases h
    cases hc : c.rest with
    | nil => exact .refl _
    | cons t ts => exact .cons t ts
  unfold visibility
  grind

/-! ## Readers that nest nothing, or only in groups -/

theorem macroArguments_forward : Forward macroArguments :=
  .bind .anyGroup fun _ => .pure _

@[grind ←] theorem takesParentheses_forward (p : Path) : Forward (takesParentheses p) := by
  unfold takesParentheses
  grind

theorem constness_forward (allowed : Bool) : Forward (constness allowed) := by
  unfold constness
  grind

theorem abi_forward : Forward abi := by
  unfold abi
  refine .bind (.peek _) fun _ => .ite ?_ (.pure _)
  exact .bind (.keyword _) fun _ => .bind (.optional _ (.literalOf _)) fun _ => .pure _

theorem needTrait_forward (bounds : List (Bound × Tokens)) (start : Span)
    (complaint : Complaint) : Forward (needTrait bounds start complaint) :=
  .ite (.pure _) (.failAt _ _)

theorem lifetimeBounds_forward {stop : Reader Bool} (h : Forward stop) :
    Forward (lifetimeBounds stop) := by
  unfold lifetimeBounds
  grind

theorem capture_forward : Forward capture := by
  unfold capture
  refine .bind (.keyword _) fun use => .bind (.operator _) fun opening => .bind ?_ fun _ => ?_
  · refine .loop (fun read => .bind (.peekAny _) fun shown => ?_) _
    grind
  · grind

theorem showsLifetime_forward : Forward showsLifetime :=
  .bind (.peek _) fun _ => .bind (.peek2 _) fun _ => .pure _

theorem angleList_forward {p : Reader (Bool × Tokens)} (hp : Forward p) :
    Forward (angleList p) := by
  unfold angleList
  grind

theorem outerAttribute_forward (g : Grammar) : Forward (outerAttribute g) :=
  .bind (.operator _) fun _ => .bind (.group _ _) fun _ => .pure _

theorem outerAttributes_forward (g : Grammar) : Forward (outerAttributes g) :=
  .whileM (.peek _) (outerAttribute_forward g)

theorem outerTokens_forward (g : Grammar) : Forward (outerTokens g) :=
  .bind (outerAttributes_forward g) fun _ => .pure _

theorem block_forward (g : Grammar) : Forward (block g) := .groupTokens _ _

theorem constArgument_forward (g : Grammar) : Forward (constArgument g) := by
  unfold constArgument
  refine .bind (.peek _) fun _ => .ite .literal (.bind (.peek _) fun _ => .ite ?_ ?_)
  · exact .bind .identifier fun _ => .pure _
  · exact .bind (.peek _) fun _ => .ite (block_forward g) .unexpected

theorem bracketType_forward (g : Grammar) : Forward (bracketType g) :=
  .bind (.groupTokens _ _) fun _ => .pure _

theorem lifetimeParameter_forward (g : Grammar) : Forward (lifetimeParameter g) := by
  unfold lifetimeParameter
  refine .bind (outerTokens_forward g) fun _ => .bind .lifetime fun _ => .bind (.peek _) fun _ => ?_
  refine .ite (.bind (.operator _) fun _ => ?_) (.pure _)
  exact .bind (lifetimeBounds_forward (.peekAny _)) fun _ => .pure _

/-! ## Readers over a grammar -/

/-- The parts of a type that a grammar reads outside of groups are read forward. -/
structure Forwards (g : Grammar) : Prop where
  type : ∀ plus generic, Forward (g.type plus generic)
  bound : ∀ capture const, Forward (g.bound capture const)

section

variable {g : Grammar} (hg : Forwards g)

include hg

theorem boundsUntil_forward {stop : Reader Bool} (h : Forward stop) :
    Forward (boundsUntil g stop) := by
  unfold boundsUntil
  refine .pieces (.bind h fun _ => .ite (.pure _) ?_)
  refine .bind (hg.bound _ _) fun b => .bind (.peek _) fun _ => .ite ?_ (.pure _)
  exact .bind (.operator _) fun _ => .pure _

theorem genericArgument_forward : Forward (genericArgument g) := by
  dsimp only [genericArgument]
  refine .bind showsLifetime_forward fun _ => .ite (.bind .lifetime fun _ => .pure _) ?_
  refine .bind (.peekAny _) fun _ => .ite (.bind (constArgument_forward g) fun _ => .pure _) ?_
  refine .bind (hg.type _ _) fun type => .ite ?_ (.pure _)
  refine .bind (.peek _) fun _ => .ite ?_ (.bind (.peek _) fun _ => .ite ?_ (.pure _))
  · refine .bind (.operator _) fun equals => .bind (.peekAny _) fun _ => .ite ?_ ?_
    · exact .bind (constArgument_forward g) fun _ => .pure _
    · exact .bind (.map _ (hg.type _ _)) fun _ => .pure _
  · exact .bind (.operator _) fun _ => .bind (boundsUntil_forward hg (.peekAny _)) fun _ => .pure _

theorem anglesAfter_forward (colons : Tokens) : Forward (anglesAfter g colons) :=
  .bind (.operator _) fun _ => .bind (angleList_forward (genericArgument_forward hg)) fun _ =>
    .bind (.operator _) fun _ => .pure _

theorem angles_forward : Forward (angles g) :=
  .bind (.operator? _) fun _ => anglesAfter_forward hg _

theorem segment_forward (inExpression : Bool) : Forward (segment g inExpression) := by
  have arguments := angles_forward hg
  unfold segment
  grind

theorem moreSegments_forward (inExpression : Bool) (read : Path) :
    Forward (moreSegments g inExpression read) := by
  have segment := segment_forward hg inExpression
  unfold moreSegments
  grind

theorem path_forward (inExpression : Bool) : Forward (path g inExpression) :=
  .bind separator?_forward fun _ => .bind (segment_forward hg _) fun _ =>
    moreSegments_forward hg _ _

theorem ownedPath_forward (inExpression : Bool) :
    Forward (ownedPath g inExpression) := by
  dsimp only [ownedPath]
  refine .bind (.peek _) fun _ => .ite ?_ (.bind (path_forward hg _) fun _ => .pure _)
  refine .bind (.operator _) fun opening => .bind (hg.type _ _) fun type => ?_
  refine .bind (.peek _) fun _ =>
    .ite (.bind (.keyword _) fun as => .bind (path_forward hg _) fun trait => ?_) ?_
  all_goals
    refine .bind (.pure _) fun trait => ?_
    refine .bind (.operator _) fun closing => .bind (.operator _) fun colons => ?_
    refine .bind (segment_forward hg _) fun first => ?_
    refine .bind (.loop (fun read => ?_) _) fun _ => .pure _
    refine .bind (.peek _) fun _ => .ite ?_ (.pure _)
    exact .bind separator_forward fun _ => .bind (segment_forward hg _) fun _ => .pure _

theorem result_forward (plus : Bool) : Forward (result g plus) := by
  unfold result
  refine .bind (.peek _) fun _ => .ite ?_ (.pure _)
  exact .bind (.operator _) fun _ => .bind (hg.type _ _) fun _ => .pure _

theorem parenthesised_forward : Forward (parenthesised g) :=
  .groupThen _ _ fun _ _ => .bind (result_forward hg _) fun _ => .pure _

theorem typeParameter_forward : Forward (typeParameter g) := by
  dsimp only [typeParameter]
  refine .bind (outerTokens_forward g) fun _ => .bind .identifier fun _ => ?_
  refine .bind (.operator? _) fun colon => .ite ?_ ?_
  all_goals
    refine .bind ?_ fun bounds => .bind (.operator? _) fun equals => ?_
  · exact .pure _
  · exact .ite (.bind (.pure _) fun _ => .pure _) (.bind (.map _ (hg.type _ _)) fun _ => .pure _)
  · exact boundsUntil_forward hg (.peekAny _)
  · exact .ite (.bind (.pure _) fun _ => .pure _) (.bind (.map _ (hg.type _ _)) fun _ => .pure _)

theorem constParameter_forward : Forward (constParameter g) := by
  dsimp only [constParameter]
  refine .bind (outerTokens_forward g) fun _ => .bind (.keyword _) fun _ => ?_
  refine .bind .identifier fun _ => .bind (.operator _) fun _ => .bind (hg.type _ _) fun _ => ?_
  refine .bind (.operator? _) fun equals => .ite (.bind (.pure _) fun _ => .pure _) ?_
  exact .bind (constArgument_forward g) fun _ => .pure _

theorem boundParameter_forward : Forward (boundParameter g) := by
  unfold boundParameter
  refine .bind (outerTokens_forward g) fun _ => .bind (.peek _) fun _ => .ite ?_ ?_
  · exact .bind (typeParameter_forward hg) fun _ => .pure _
  refine .bind (.peek _) fun _ => .ite ?_ ?_
  · exact .bind (lifetimeParameter_forward g) fun _ => .pure _
  refine .bind (.peek _) fun _ => .ite ?_ (.expected _)
  exact .bind (constParameter_forward hg) fun _ => .pure _

theorem binder?_forward : Forward (binder? g) := by
  unfold binder?
  refine .bind (.peek _) fun _ => .ite ?_ (.pure _)
  refine .bind (.keyword _) fun _ => .bind (.operator _) fun _ => .bind (angleList_forward ?_) ?_
  · exact .bind (boundParameter_forward hg) fun _ => .pure _
  · exact fun _ => .bind (.operator _) fun _ => .pure _

theorem traitBound_forward (const : Bool) : Forward (traitBound g const) := by
  have arguments := parenthesised_forward hg
  dsimp only [traitBound]
  refine .bind (binder?_forward hg) fun outer => .bind (constness_forward const) fun isConst => ?_
  refine .bind (.operator? _) fun relaxed => .ite ?_ ?_
  · refine .bind (binder?_forward hg) fun binder => .bind (path_forward hg _) fun p => ?_
    grind
  · refine .bind (.pure _) fun binder => .bind (path_forward hg _) fun p => ?_
    grind

theorem boundOnce_forward (captures const : Bool) : Forward (boundOnce g captures const) := by
  unfold boundOnce
  refine .bind (.peek _) fun _ => .ite (.bind .lifetime fun _ => .pure _) ?_
  refine .bind (.peek _) fun _ => .ite ?_ ?_
  · exact .bind capture_forward fun _ => .ite (.pure _) (.failAt _ _)
  refine .bind (.withSource (.bind (.peek _) fun _ => .ite ?_ (traitBound_forward hg _))) ?_
  · exact .bind (.group _ _) fun _ => .pure _
  · exact fun _ => .pure _

theorem boundSum_forward (plus captures const : Bool) :
    Forward (boundSum g plus captures const) := by
  have bound := boundOnce_forward hg captures const
  unfold boundSum
  grind

theorem moreBounds_forward : Forward (moreBounds g) := by
  unfold moreBounds
  refine .pieces (.bind (.peek _) fun _ => .ite ?_ (.pure _))
  exact .bind (.operator _) fun _ => .bind (boundOnce_forward hg _ _) fun _ => .pure _

theorem insertedType_forward (generic : Bool) : Forward (insertedType g generic) := by
  have more (p : Path) := moreSegments_forward hg false p
  have path := path_forward hg false
  have arguments := angles_forward hg
  unfold insertedType
  refine .bind (.group _ _) fun read => .bind (.peekBehind _) fun _ => .ite ?_ ?_
  · grind
  · grind

theorem objectBounds_forward (start : Span) (plus : Bool) :
    Forward (objectBounds g start plus) :=
  .bind (boundSum_forward hg _ _ _) fun _ => .bind (needTrait_forward _ _ _) fun _ => .pure _

theorem parenthesisType_forward (plus : Bool) : Forward (parenthesisType g plus) := by
  have more := moreBounds_forward hg
  unfold parenthesisType
  grind

theorem functionType_forward (binder : Tokens) : Forward (functionType g binder) :=
  .bind (.keyword? _) fun _ => .bind abi_forward fun _ => .bind (.keyword _) fun _ =>
    .groupThen _ _ fun _ _ => .bind (result_forward hg _) fun _ => .pure _

theorem pathType_forward (plus : Bool) (binder : Tokens) :
    Forward (pathType g plus binder) := by
  dsimp only [pathType]
  refine .bind (ownedPath_forward hg _) fun read => .ite (.pure _) ?_
  refine .bind (.peek _) fun _ => .bind (.peek _) fun _ => .ite ?_ ?_
  · exact .bind (.operator _) fun bang => .bind macroArguments_forward fun _ => .pure _
  refine .bind (.peek _) fun _ => .ite (.bind (.loop (fun read => ?_) _) fun _ => .pure _) ?_
  · refine .bind (.peek _) fun _ => .ite ?_ (.pure _)
    refine .bind (.operator _) fun sum => .bind (.peekAny _) fun _ => .ite ?_ (.pure _)
    exact .bind (boundOnce_forward hg _ _) fun _ => .pure _
  · exact .ite (.pure _) (.pure _)

theorem objectType_forward (plus : Bool) : Forward (objectType g plus) := by
  refine .bind (.withSource ?_) fun _ => .pure _
  exact .bind (.keyword _) fun _ => .bind (.operator? _) fun _ =>
    .bind (objectBounds_forward hg _ _) fun _ => .pure _

theorem pointerType_forward : Forward (pointerType g) := by
  dsimp only [pointerType]
  refine .bind (.operator _) fun _ => .bind (.peek _) fun _ => .bind (.peek _) fun _ => ?_
  refine .ite ?_ (.ite ?_ ?_)
  · exact .bind (.keyword _) fun _ => .bind (hg.type _ _) fun _ => .pure _
  · exact .bind (.keyword _) fun _ => .bind (hg.type _ _) fun _ => .pure _
  · exact .bind (.expected _) fun _ => .bind (hg.type _ _) fun _ => .pure _

theorem referenceType_forward : Forward (referenceType g) :=
  .bind (.operator _) fun _ => .bind (.optional _ .lifetime) fun _ => .bind (.keyword? _) fun _ =>
    .bind (hg.type _ _) fun _ => .pure _

theorem opaqueType_forward (plus : Bool) : Forward (opaqueType g plus) :=
  .bind (.keyword _) fun _ => .bind (boundSum_forward hg _ _ _) fun _ =>
    .bind (needTrait_forward _ _ _) fun _ => .pure _

theorem typeOnce_forward (plus generic : Bool) : Forward (typeOnce g plus generic) := by
  dsimp only [typeOnce]
  refine .bind (.peek _) fun _ => .ite (insertedType_forward hg generic) ?_
  refine .bind (binder?_forward hg) fun binder => .bind (.peekAny _) fun _ => .ite (.expected _) ?_
  refine .bind (.peek _) fun _ => .ite (parenthesisType_forward hg plus) ?_
  refine .bind (.peekAny _) fun _ => .ite (functionType_forward hg binder) ?_
  refine .bind (.peekAny _) fun _ => .ite (pathType_forward hg plus binder) ?_
  refine .bind (.peek _) fun _ => .ite (objectType_forward hg plus) ?_
  refine .bind (.peek _) fun _ => .ite (bracketType_forward g) ?_
  refine .bind (.peek _) fun _ => .ite (pointerType_forward hg) ?_
  refine .bind (.peek _) fun _ => .ite (referenceType_forward hg) ?_
  refine .bind (.peek _) fun _ => .ite (.bind (.operator _) fun _ => .pure _) ?_
  refine .bind (.peek _) fun _ => .ite (opaqueType_forward hg plus) ?_
  refine .bind (.peek _) fun _ => .ite (.bind .word fun _ => .pure _) ?_
  refine .bind (.peek _) fun _ => .ite (.bind .here fun start => ?_) (.expected _)
  exact .bind (objectBounds_forward hg start true) fun _ => .pure _

end

theorem deep_forwards (n : Nat) : Forwards (deep n) := by
  induction n with
  | zero => exact ⟨fun _ _ => .complain _, fun _ _ => .complain _⟩
  | succ n ih => exact ⟨typeOnce_forward ih, boundOnce_forward ih⟩

theorem anyType_forward : Forward anyType :=
  fun s c => typeOnce_forward (deep_forwards _) true true s c

end TypedId.Grammar
