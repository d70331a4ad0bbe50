/-
Types end where a comma stands behind them: each reader that a type is put
together from stops at the comma, and so does the whole type, however deep its
parts nest.
-/
import TypedId.Grammar.Whole
import TypedId.Proofs.BeforeComma
import TypedId.Proofs.Depth.Items

namespace TypedId.Grammar

open Reader

variable {k : Tail}

/-! ## Readers without nested parts -/

@[simp] theorem separator_stops : StopsAt k separator separator := by
  dsimp only [separator]
  gcongr <;> simp (disch := decide)

@[simp] theorem separator?_stops : StopsAt k separator? separator? := by
  dsimp only [separator?]
  gcongr <;> simp (disch := decide)

@[simp] theorem macroArguments_stops : StopsAt k macroArguments macroArguments := by
  dsimp only [macroArguments]
  gcongr <;> simp (disch := decide)

@[simp] theorem takesParentheses_stops (p : Path) :
    StopsAt k (takesParentheses p) (takesParentheses p) := by
  dsimp only [takesParentheses]
  gcongr <;> simp (disch := decide)

@[simp] theorem constness_stops (allowed : Bool) :
    StopsAt k (constness allowed) (constness allowed) := by
  dsimp only [constness]
  gcongr <;> simp (disch := decide)

@[simp] theorem abi_stops : StopsAt k abi abi := by
  have name : StopsAt k (Reader.optional .stringLiteral (literalOf .stringLiteral))
      (Reader.optional .stringLiteral (literalOf .stringLiteral)) := .optional rfl (.literalOf rfl)
  dsimp only [abi]
  gcongr <;> simp (disch := decide)

@[simp] theorem needTrait_stops (bounds : List (Bound × Tokens)) (start : Span)
    (complaint : Complaint) :
    StopsAt k (needTrait bounds start complaint) (needTrait bounds start complaint) := by
  dsimp only [needTrait]
  gcongr <;> simp

theorem lifetimeBounds_stops {signs : List Sign} (hv : signs.all Sign.visible = true)
    (hs : signs.all Sign.commaOrNone = true) :
    StopsAt k (lifetimeBounds (peekAny signs)) (lifetimeBounds (peekAny signs)) := by
  refine .pieces (.peekAny_needs hv hs (NeedsTokens.lifetime.bind _) fun stop => ?_)
  gcongr <;> simp (disch := decide)

@[simp] theorem capture_stops : StopsAt k capture capture := by
  dsimp only [capture]
  refine .bind (.keyword _) fun use => .bind (.operator rfl) fun opening => .bind ?_ fun _ => ?_
  · refine .loop (fun read => .bind (.peekAny rfl) fun shown => .ite ?_ ?_) _
    · refine .bind (.peek rfl) fun isLifetime =>
        .ite (.bind .lifetime fun ts => ?_) (.bind (.map _ .word) fun ts => ?_)
      all_goals
        refine .peekComma_needs (.after (.peek rfl) (.complain _)) fun comma => ?_
        gcongr <;> simp (disch := decide)
    · gcongr <;> simp (disch := decide)
  · gcongr <;> simp (disch := decide)

@[gcongr] theorem angleList_stops {p q : Reader (Bool × Tokens)} (hp : StopsAt k p q) :
    StopsAt k (angleList p) (angleList q) := by
  dsimp only [angleList]
  gcongr <;> simp (disch := decide)

/-! ## Readers over a grammar -/

/-- What the one grammar reads of types and bounds, the other reads in front of the comma. -/
structure Stops (k : Tail) (g h : Grammar) : Prop where
  below : g.Below h
  type : ∀ plus generic, StopsAt k (g.type plus generic) (h.type plus generic)
  bound : ∀ capture const, StopsAt k (g.bound capture const) (h.bound capture const)
  needs : ∀ capture const, (g.bound capture const).NeedsTokens

section

variable {g h : Grammar} (hg : Stops k g h)

include hg

@[gcongr] theorem type_stops (plus generic : Bool) :
    StopsAt k (g.type plus generic) (h.type plus generic) := hg.type plus generic

@[gcongr] theorem bound_stops (capture const : Bool) :
    StopsAt k (g.bound capture const) (h.bound capture const) := hg.bound capture const

@[gcongr] theorem outerAttribute_stops : StopsAt k (outerAttribute g) (outerAttribute h) := by
  have := hg.below
  dsimp only [outerAttribute]
  gcongr <;> simp (disch := decide)

@[gcongr] theorem outerAttributes_stops : StopsAt k (outerAttributes g) (outerAttributes h) := by
  dsimp only [outerAttributes]
  gcongr
  simp (disch := decide)

@[gcongr] theorem outerTokens_stops : StopsAt k (outerTokens g) (outerTokens h) := by
  dsimp only [outerTokens]
  gcongr
  simp

@[gcongr] theorem block_stops : StopsAt k (block g) (block h) := by
  have := hg.below
  dsimp only [block]
  gcongr

@[gcongr] theorem constArgument_stops : StopsAt k (constArgument g) (constArgument h) := by
  dsimp only [constArgument]
  gcongr <;> simp (disch := decide)

theorem boundsUntil_stops {signs : List Sign} (hv : signs.all Sign.visible = true)
    (hs : signs.all Sign.commaOrNone = true) :
    StopsAt k (boundsUntil g (peekAny signs)) (boundsUntil h (peekAny signs)) := by
  refine .pieces (.peekAny_needs hv hs ((hg.needs false true).bind _) fun stop => ?_)
  gcongr <;> simp (disch := decide)

@[gcongr] theorem genericArgument_stops : StopsAt k (genericArgument g) (genericArgument h) := by
  have bounds : StopsAt k (boundsUntil g (peekAny [.operator ",", .operator ">"]))
      (boundsUntil h (peekAny [.operator ",", .operator ">"])) := boundsUntil_stops hg rfl rfl
  dsimp only [genericArgument]
  gcongr <;> simp (disch := decide) 

@[gcongr] theorem anglesAfter_stops (colons : Tokens) :
    StopsAt k (anglesAfter g colons) (anglesAfter h colons) := by
  dsimp only [anglesAfter]
  gcongr <;> simp (disch := decide)

@[gcongr] theorem angles_stops : StopsAt k (angles g) (angles h) := by
  dsimp only [angles]
  gcongr
  simp (disch := decide)

@[gcongr] theorem segment_stops (inExpression : Bool) :
    StopsAt k (segment g inExpression) (segment h inExpression) := by
  dsimp only [segment]
  gcongr <;> simp (disch := decide)

@[gcongr] theorem moreSegments_stops (inExpression : Bool) (read : Path) :
    StopsAt k (moreSegments g inExpression read) (moreSegments h inExpression read) := by
  dsimp only [moreSegments]
  gcongr <;> simp (disch := decide)

@[gcongr] theorem path_stops (inExpression : Bool) :
    StopsAt k (path g inExpression) (path h inExpression) := by
  dsimp only [path]
  gcongr
  simp (disch := decide)

@[gcongr] theorem ownedPath_stops (inExpression : Bool) :
    StopsAt k (ownedPath g inExpression) (ownedPath h inExpression) := by
  dsimp only [ownedPath]
  gcongr <;> simp (disch := decide)

@[gcongr] theorem result_stops (plus : Bool) : StopsAt k (result g plus) (result h plus) := by
  dsimp only [result]
  gcongr <;> simp (disch := decide)

@[gcongr] theorem parenthesised_stops : StopsAt k (parenthesised g) (parenthesised h) := by
  have := hg.below
  dsimp only [parenthesised]
  gcongr
  simp (disch := decide)

@[gcongr] theorem lifetimeParameter_stops :
    StopsAt k (lifetimeParameter g) (lifetimeParameter h) := by
  have bounds : StopsAt k (lifetimeBounds (peekAny [.operator ",", .operator ">"]))
      (lifetimeBounds (peekAny [.operator ",", .operator ">"])) := lifetimeBounds_stops rfl rfl
  dsimp only [lifetimeParameter]
  gcongr <;> simp (disch := decide)

@[gcongr] theorem typeParameter_stops : StopsAt k (typeParameter g) (typeParameter h) := by
  have bounds :
      StopsAt k (boundsUntil g (peekAny [.operator ",", .operator ">", .operator "="]))
        (boundsUntil h (peekAny [.operator ",", .operator ">", .operator "="])) :=
    boundsUntil_stops hg rfl rfl
  dsimp only [typeParameter]
  gcongr <;> simp (disch := decide)

@[gcongr] theorem constParameter_stops : StopsAt k (constParameter g) (constParameter h) := by
  dsimp only [constParameter]
  gcongr <;> simp (disch := decide)

@[gcongr] theorem boundParameter_stops : StopsAt k (boundParameter g) (boundParameter h) := by
  dsimp only [boundParameter]
  gcongr <;> simp (disch := decide)

@[gcongr] theorem binder?_stops : StopsAt k (binder? g) (binder? h) := by
  dsimp only [binder?]
  gcongr <;> simp (disch := decide)

@[gcongr] theorem traitBound_stops (const : Bool) :
    StopsAt k (traitBound g const) (traitBound h const) := by
  dsimp only [traitBound]
  gcongr <;> simp (disch := decide)

@[gcongr] theorem boundOnce_stops (captures : Bool) (const : Bool) :
    StopsAt k (boundOnce g captures const) (boundOnce h captures const) := by
  have := hg.below
  dsimp only [boundOnce]
  gcongr <;> simp (disch := decide)

@[gcongr] theorem boundSum_stops (plus captures const : Bool) :
    StopsAt k (boundSum g plus captures const) (boundSum h plus captures const) := by
  have more : StopsAt k
      (peekAny (if const then [.group .bracket, .keyword "const"] ++ boundSigns else boundSigns))
      (peekAny (if const then [.group .bracket, .keyword "const"] ++ boundSigns else boundSigns)) :=
    .peekAny (by cases const <;> rfl)
  dsimp only [boundSum]
  gcongr <;> simp (disch := decide)

@[gcongr] theorem moreBounds_stops : StopsAt k (moreBounds g) (moreBounds h) := by
  dsimp only [moreBounds]
  gcongr <;> simp (disch := decide)

@[gcongr] theorem insertedType_stops (generic : Bool) :
    StopsAt k (insertedType g generic) (insertedType h generic) := by
  have := hg.below
  dsimp only [insertedType]
  gcongr
  · simp (disch := decide)
  · split
    · gcongr; simp
    · gcongr; simp
  · simp (disch := decide)
  · simp (disch := decide)
  · split
    · gcongr <;> simp
    · simp
  · simp

@[gcongr] theorem objectBounds_stops (start : Span) (plus : Bool) :
    StopsAt k (objectBounds g start plus) (objectBounds h start plus) := by
  dsimp only [objectBounds]
  gcongr <;> simp (disch := decide)

@[gcongr] theorem parenthesisType_stops (plus : Bool) :
    StopsAt k (parenthesisType g plus) (parenthesisType h plus) := by
  have := hg.below
  dsimp only [parenthesisType]
  gcongr with place inner
  cases inner with
  | nothing | alone type | tuple ts => exact .pure _
  | relaxed ts => dsimp only; gcongr <;> simp
  | single type =>
    dsimp only
    split
    · gcongr <;> simp (disch := decide)
    · exact .pure _

@[gcongr] theorem functionType_stops (binder : Tokens) :
    StopsAt k (functionType g binder) (functionType h binder) := by
  have := hg.below
  dsimp only [functionType]
  gcongr <;> simp (disch := decide)

@[gcongr] theorem pathType_stops (plus : Bool) (binder : Tokens) :
    StopsAt k (pathType g plus binder) (pathType h plus binder) := by
  dsimp only [pathType]
  gcongr <;> simp (disch := decide)

@[gcongr] theorem objectType_stops (plus : Bool) :
    StopsAt k (objectType g plus) (objectType h plus) := by
  dsimp only [objectType]
  gcongr <;> simp (disch := decide)

@[gcongr] theorem bracketType_stops : StopsAt k (bracketType g) (bracketType h) := by
  have := hg.below
  dsimp only [bracketType]
  gcongr
  simp (disch := decide)

@[gcongr] theorem pointerType_stops : StopsAt k (pointerType g) (pointerType h) := by
  dsimp only [pointerType]
  gcongr <;> simp (disch := decide)

@[gcongr] theorem referenceType_stops : StopsAt k (referenceType g) (referenceType h) := by
  have region : StopsAt k (Reader.optional .lifetime lifetime) (Reader.optional .lifetime lifetime) :=
    .optional rfl .lifetime
  dsimp only [referenceType]
  gcongr <;> simp (disch := decide)

@[gcongr] theorem opaqueType_stops (plus : Bool) :
    StopsAt k (opaqueType g plus) (opaqueType h plus) := by
  dsimp only [opaqueType]
  gcongr <;> simp (disch := decide)

end

/-! ## Where nothing begins -/

section

variable (g : Grammar)

theorem binder?_idles : (binder? g).Idles [] := .bind (.peek rfl) (.pure [])

theorem constness_idles (allowed : Bool) : (constness allowed).Idles false :=
  .bind (.peek rfl) (.bind (.peek rfl) (.pure false))

theorem segment_needs (inExpression : Bool) : (segment g inExpression).NeedsTokens :=
  .after (.peekAny rfl) (.after (.peek rfl) (NeedsTokens.identifier.bind _))

theorem path_needs (inExpression : Bool) : (path g inExpression).NeedsTokens :=
  .after (.bind (.peek rfl) (.pure none)) ((segment_needs g inExpression).bind _)

theorem traitBound_needs (const : Bool) : (traitBound g const).NeedsTokens :=
  .after (binder?_idles g) <| .after (constness_idles const) <| .after (.optional rfl _) <|
    (path_needs g false).bind _

theorem boundOnce_needs (captures const : Bool) : (boundOnce g captures const).NeedsTokens :=
  .after (.peek rfl) <| .after (.peek rfl) <| NeedsTokens.bind
    (.withSource (.after (.peek rfl) (traitBound_needs g const))) _

theorem objectBounds_needs (start : Span) (plus : Bool) :
    (objectBounds g start plus).NeedsTokens :=
  NeedsTokens.bind (.loop ((boundOnce_needs g false true).bind _)) _

theorem insertedType_needs (generic : Bool) (h : (g.type true true).NeedsTokens) :
    (insertedType g generic).NeedsTokens :=
  NeedsTokens.bind h.invisible _

theorem typeOnce_needs (plus generic : Bool) (h : (g.type true true).NeedsTokens) :
    (typeOnce g plus generic).NeedsTokens := by
  refine .look fun shown => ?_
  cases shown with
  | true => exact insertedType_needs g generic h
  | false =>
    refine .after (binder?_idles g) ?_
    refine .after (.peekAny rfl) <| .after (.peek rfl) <| .after (.peekAny rfl) <|
      .after (.peekAny rfl) <| .after (.peek rfl) <| .after (.peek rfl) <| .after (.peek rfl) <|
      .after (.peek rfl) <| .after (.peek rfl) <| .after (.peek rfl) <| .after (.peek rfl) <|
      .after (.peek rfl) <| .complain _

theorem deep_needs (n : Nat) (plus generic : Bool) : ((deep n).type plus generic).NeedsTokens := by
  induction n generalizing plus generic with
  | zero => exact .complain _
  | succ n ih => exact typeOnce_needs (deep n) plus generic (ih true true)

end

/-! ## Types -/

theorem typeOnce_stops {g h : Grammar} (hg : Stops k g h) (plus generic : Bool) :
    StopsAt k (typeOnce g plus generic) (typeOnce h plus generic) := by
  have bounds : StopsAt k
      (do return RawType.other (← objectBounds g (← here) true))
      (do return RawType.other (← objectBounds h (← here) true)) :=
    .here_needs (fun place => (objectBounds_needs g place true).bind _)
      fun place => .bind (objectBounds_stops hg place true) fun _ => .pure _
  dsimp only [typeOnce]
  gcongr <;> simp (disch := decide)

theorem deep_stops (k : Tail) {n m : Nat} (h : n ≤ m) : Stops k (deep n) (deep m) := by
  induction n generalizing m with
  | zero =>
    refine ⟨stuck_below _, ?_, ?_, ?_⟩ <;> intros
    · exact .complain _ _
    · exact .complain _ _
    · exact .complain _
  | succ n ih =>
    obtain ⟨m, rfl⟩ : ∃ m', m = m' + 1 := ⟨m - 1, by omega⟩
    have hg := ih (m := m) (by omega)
    exact ⟨deep_mono h, typeOnce_stops hg, boundOnce_stops hg, boundOnce_needs (deep n)⟩

/-- **Types stop at a comma.** What is read as a type by itself is read as the same type with a
comma and anything else behind it, and the comma is left. -/
theorem anyType_stops (k : Tail) : StopsAt k anyType anyType := by
  intro s c
  have deeper : c.weight + 1 ≤ (c.upTo k).weight + 1 := by
    simp only [Cursor.weight, Cursor.rest_upTo, Tokens.weight_append]
    omega
  exact typeOnce_stops (deep_stops k deeper) true true s c

theorem anyType_needs : anyType.NeedsTokens :=
  fun s c => typeOnce_needs _ true true (deep_needs _ true true) s c

end TypedId.Grammar
