/-
A deeper grammar reads attributes, paths, bounds and types as a shallower one
does, as far as that gets. One lemma a reader: the reader is opened once, and
what it is put together from is already known to keep the order.
-/
import TypedId.Grammar.Types
import TypedId.Proofs.Depth

namespace TypedId.Grammar

open Reader

@[gcongr] theorem angleList_mono {p q : Reader (Bool × Tokens)} (hp : p.Below q) :
    (angleList p).Below (angleList q) := by
  dsimp only [angleList]
  gcongr

variable {g h : Grammar} (hg : g.Below h)

include hg

/-! ## Attributes and blocks -/

@[gcongr] theorem attributeBody_mono : (attributeBody g).Below (attributeBody h) := by
  dsimp only [attributeBody]
  gcongr

@[gcongr] theorem attributeContent_mono : (attributeContent g).Below (attributeContent h) := by
  dsimp only [attributeContent]
  gcongr

@[gcongr] theorem outerAttribute_mono : (outerAttribute g).Below (outerAttribute h) := by
  dsimp only [outerAttribute]
  gcongr

@[gcongr] theorem innerAttribute_mono : (innerAttribute g).Below (innerAttribute h) := by
  dsimp only [innerAttribute]
  gcongr

@[gcongr] theorem outerAttributes_mono : (outerAttributes g).Below (outerAttributes h) := by
  dsimp only [outerAttributes]
  gcongr

@[gcongr] theorem innerAttributes_mono : (innerAttributes g).Below (innerAttributes h) := by
  dsimp only [innerAttributes]
  gcongr

@[gcongr] theorem outerTokens_mono : (outerTokens g).Below (outerTokens h) := by
  dsimp only [outerTokens]
  gcongr

@[gcongr] theorem innerTokens_mono : (innerTokens g).Below (innerTokens h) := by
  dsimp only [innerTokens]
  gcongr

@[gcongr] theorem block_mono : (block g).Below (block h) := by
  dsimp only [block]
  gcongr

@[gcongr] theorem bareBlock_mono : (bareBlock g).Below (bareBlock h) := by
  dsimp only [bareBlock]
  gcongr

/-! ## Paths -/

@[gcongr] theorem constArgument_mono : (constArgument g).Below (constArgument h) := by
  dsimp only [constArgument]
  gcongr

@[gcongr] theorem boundsUntil_mono (stop : Reader Bool) :
    (boundsUntil g stop).Below (boundsUntil h stop) := by
  dsimp only [boundsUntil]
  gcongr

@[gcongr] theorem genericArgument_mono : (genericArgument g).Below (genericArgument h) := by
  dsimp only [genericArgument]
  gcongr

@[gcongr] theorem anglesAfter_mono (colons : Tokens) :
    (anglesAfter g colons).Below (anglesAfter h colons) := by
  dsimp only [anglesAfter]
  gcongr

@[gcongr] theorem angles_mono : (angles g).Below (angles h) := by
  dsimp only [angles]
  gcongr

@[gcongr] theorem segment_mono (inExpression : Bool) :
    (segment g inExpression).Below (segment h inExpression) := by
  dsimp only [segment]
  gcongr

@[gcongr] theorem moreSegments_mono (inExpression : Bool) (read : Path) :
    (moreSegments g inExpression read).Below (moreSegments h inExpression read) := by
  dsimp only [moreSegments]
  gcongr

@[gcongr] theorem path_mono (inExpression : Bool) :
    (path g inExpression).Below (path h inExpression) := by
  dsimp only [path]
  gcongr

@[gcongr] theorem ownedPath_mono (inExpression : Bool) :
    (ownedPath g inExpression).Below (ownedPath h inExpression) := by
  dsimp only [ownedPath]
  gcongr

@[gcongr] theorem result_mono (plus : Bool) : (result g plus).Below (result h plus) := by
  dsimp only [result]
  gcongr

@[gcongr] theorem parenthesised_mono : (parenthesised g).Below (parenthesised h) := by
  dsimp only [parenthesised]
  gcongr

/-! ## Parameters and where clauses -/

@[gcongr] theorem lifetimeParameter_mono : (lifetimeParameter g).Below (lifetimeParameter h) := by
  dsimp only [lifetimeParameter]
  gcongr

@[gcongr] theorem typeParameter_mono : (typeParameter g).Below (typeParameter h) := by
  dsimp only [typeParameter]
  gcongr

@[gcongr] theorem constParameter_mono : (constParameter g).Below (constParameter h) := by
  dsimp only [constParameter]
  gcongr

@[gcongr] theorem boundParameter_mono : (boundParameter g).Below (boundParameter h) := by
  dsimp only [boundParameter]
  gcongr

@[gcongr] theorem binder?_mono : (binder? g).Below (binder? h) := by
  dsimp only [binder?]
  gcongr

@[gcongr] theorem genericParameter_mono : (genericParameter g).Below (genericParameter h) := by
  dsimp only [genericParameter]
  gcongr

@[gcongr] theorem generics_mono : (generics g).Below (generics h) := by
  dsimp only [generics]
  gcongr

@[gcongr] theorem predicate_mono : (predicate g).Below (predicate h) := by
  dsimp only [predicate]
  gcongr

@[gcongr] theorem whereClause?_mono : (whereClause? g).Below (whereClause? h) := by
  dsimp only [whereClause?]
  gcongr

@[gcongr] theorem whereTokens_mono : (whereTokens g).Below (whereTokens h) := by
  dsimp only [whereTokens]
  gcongr

/-! ## Bounds -/

@[gcongr] theorem traitBound_mono (const : Bool) :
    (traitBound g const).Below (traitBound h const) := by
  dsimp only [traitBound]
  gcongr

@[gcongr] theorem boundOnce_mono (captures const : Bool) :
    (boundOnce g captures const).Below (boundOnce h captures const) := by
  dsimp only [boundOnce]
  gcongr

@[gcongr] theorem boundSum_mono (plus captures const : Bool) :
    (boundSum g plus captures const).Below (boundSum h plus captures const) := by
  dsimp only [boundSum]
  gcongr

@[gcongr] theorem moreBounds_mono : (moreBounds g).Below (moreBounds h) := by
  dsimp only [moreBounds]
  gcongr

/-! ## Types -/

@[gcongr] theorem insertedType_mono (generic : Bool) :
    (insertedType g generic).Below (insertedType h generic) := by
  dsimp only [insertedType]
  gcongr
  · split <;> gcongr
  · split <;> gcongr

@[gcongr] theorem objectBounds_mono (start : Span) (plus : Bool) :
    (objectBounds g start plus).Below (objectBounds h start plus) := by
  dsimp only [objectBounds]
  gcongr

@[gcongr] theorem enclosed_mono : (enclosed g).Below (enclosed h) := by
  dsimp only [enclosed]
  gcongr

@[gcongr] theorem parenthesisType_mono (plus : Bool) :
    (parenthesisType g plus).Below (parenthesisType h plus) := by
  dsimp only [parenthesisType]
  gcongr with place inner
  cases inner with
  | nothing | alone type | tuple ts => exact .refl _
  | relaxed ts => dsimp only; gcongr
  | single type => dsimp only; split <;> gcongr

@[gcongr] theorem functionInput_mono (first : Bool) :
    (functionInput g first).Below (functionInput h first) := by
  dsimp only [functionInput]
  gcongr

@[gcongr] theorem functionInputs_mono : (functionInputs g).Below (functionInputs h) := by
  dsimp only [functionInputs]
  gcongr

@[gcongr] theorem functionType_mono (binder : Tokens) :
    (functionType g binder).Below (functionType h binder) := by
  dsimp only [functionType]
  gcongr

@[gcongr] theorem pathType_mono (plus : Bool) (binder : Tokens) :
    (pathType g plus binder).Below (pathType h plus binder) := by
  dsimp only [pathType]
  gcongr

@[gcongr] theorem objectType_mono (plus : Bool) :
    (objectType g plus).Below (objectType h plus) := by
  dsimp only [objectType]
  gcongr

@[gcongr] theorem bracketType_mono : (bracketType g).Below (bracketType h) := by
  dsimp only [bracketType]
  gcongr

@[gcongr] theorem pointerType_mono : (pointerType g).Below (pointerType h) := by
  dsimp only [pointerType]
  gcongr

@[gcongr] theorem referenceType_mono : (referenceType g).Below (referenceType h) := by
  dsimp only [referenceType]
  gcongr

@[gcongr] theorem opaqueType_mono (plus : Bool) :
    (opaqueType g plus).Below (opaqueType h plus) := by
  dsimp only [opaqueType]
  gcongr

@[gcongr] theorem typeOnce_mono (plus generic : Bool) :
    (typeOnce g plus generic).Below (typeOnce h plus generic) := by
  dsimp only [typeOnce]
  gcongr

end TypedId.Grammar
