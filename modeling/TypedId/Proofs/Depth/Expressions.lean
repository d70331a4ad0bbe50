/-
A deeper grammar reads patterns and expressions as a shallower one does, as
far as that gets. Where a reader goes on by cases on what it has read, so does
its proof.
-/
import TypedId.Grammar.Expressions
import TypedId.Proofs.Depth.Types

namespace TypedId.Grammar

open Reader

@[gcongr] theorem verbatim_mono {p q : Reader Unit} (hp : p.Below q) :
    (verbatim p).Below (verbatim q) := by
  dsimp only [verbatim]
  gcongr

variable {g h : Grammar} (hg : g.Below h)

include hg

/-! ## Patterns -/

@[gcongr] theorem alternatives_mono (leading : Bool) :
    (alternatives g leading).Below (alternatives h leading) := by
  dsimp only [alternatives]
  gcongr

/-! ## Ranges -/

@[gcongr] theorem rangeBound_mono : (rangeBound g).Below (rangeBound h) := by
  dsimp only [rangeBound]
  gcongr

@[gcongr] theorem rangeFrom_mono (start : Tokens) :
    (rangeFrom g start).Below (rangeFrom h start) := by
  dsimp only [rangeFrom]
  gcongr

@[gcongr] theorem rangeTo_mono : (rangeTo g).Below (rangeTo h) := by
  dsimp only [rangeTo]
  gcongr

/-! ## Paths -/

@[gcongr] theorem fieldPattern_mono : (fieldPattern g).Below (fieldPattern h) := by
  dsimp only [fieldPattern]
  gcongr

@[gcongr] theorem structPattern_mono : (structPattern g).Below (structPattern h) := by
  dsimp only [structPattern]
  gcongr

@[gcongr] theorem pathPattern_mono : (pathPattern g).Below (pathPattern h) := by
  dsimp only [pathPattern]
  gcongr

/-! ## Other patterns -/

@[gcongr] theorem namePattern_mono : (namePattern g).Below (namePattern h) := by
  dsimp only [namePattern]
  gcongr

@[gcongr] theorem tuplePattern_mono : (tuplePattern g).Below (tuplePattern h) := by
  dsimp only [tuplePattern]
  gcongr

@[gcongr] theorem slicePattern_mono : (slicePattern g).Below (slicePattern h) := by
  dsimp only [slicePattern]
  gcongr

@[gcongr] theorem patternOnce_mono : (patternOnce g).Below (patternOnce h) := by
  dsimp only [patternOnce]
  gcongr

/-! ## Expressions -/

@[gcongr] theorem keywordBlock_mono (text : String) :
    (keywordBlock g text).Below (keywordBlock h text) := by
  dsimp only [keywordBlock]
  gcongr

/-! ## Operators -/

@[gcongr] theorem rightSide_mono (braces : Bool) (p : Precedence) :
    (rightSide g braces p).Below (rightSide h braces p) := by
  dsimp only [rightSide]
  gcongr

@[gcongr] theorem rangeEnd_mono (braces closed : Bool) :
    (rangeEnd g braces closed).Below (rangeEnd h braces closed) := by
  dsimp only [rangeEnd]
  gcongr

@[gcongr] theorem range_mono (braces : Bool) (start : Tokens) :
    (range g braces start).Below (range h braces start) := by
  dsimp only [range]
  gcongr

@[gcongr] theorem climbOnce_mono (braces : Bool) (base : Precedence) (left : Expression) :
    (climbOnce g braces base left).Below (climbOnce h braces base left) := by
  dsimp only [climbOnce]
  gcongr
  split <;> gcongr

/-! ## Trailers -/

@[gcongr] theorem callArguments_mono : (callArguments g).Below (callArguments h) := by
  dsimp only [callArguments]
  gcongr

@[gcongr] theorem memberTrailer_mono (before : Tokens) :
    (memberTrailer g before).Below (memberTrailer h before) := by
  dsimp only [memberTrailer]
  gcongr

@[gcongr] theorem pointTrailer_mono : (pointTrailer g).Below (pointTrailer h) := by
  dsimp only [pointTrailer]
  gcongr
  split
  · exact .refl _
  · gcongr

@[gcongr] theorem trailers_mono (e : Expression) : (trailers g e).Below (trailers h e) := by
  dsimp only [trailers]
  gcongr

/-! ## Control flow -/

@[gcongr] theorem branches_mono : (branches g).Below (branches h) := by
  dsimp only [branches]
  gcongr

@[gcongr] theorem whileLoop_mono : (whileLoop g).Below (whileLoop h) := by
  dsimp only [whileLoop]
  gcongr

@[gcongr] theorem forLoop_mono : (forLoop g).Below (forLoop h) := by
  dsimp only [forLoop]
  gcongr

@[gcongr] theorem arm_mono : (arm g).Below (arm h) := by
  dsimp only [arm]
  gcongr

@[gcongr] theorem matching_mono : (matching g).Below (matching h) := by
  dsimp only [matching]
  gcongr

@[gcongr] theorem labelled_mono : (labelled g).Below (labelled h) := by
  dsimp only [labelled]
  gcongr

@[gcongr] theorem breaking_mono (braces : Bool) :
    (breaking g braces).Below (breaking h braces) := by
  dsimp only [breaking]
  gcongr

@[gcongr] theorem closureInput_mono : (closureInput g).Below (closureInput h) := by
  dsimp only [closureInput]
  gcongr

@[gcongr] theorem closure_mono (braces : Bool) : (closure g braces).Below (closure h braces) := by
  dsimp only [closure]
  gcongr

/-! ## Paths, structs and macro calls -/

@[gcongr] theorem structFields_mono : (structFields g).Below (structFields h) := by
  dsimp only [structFields]
  gcongr

@[gcongr] theorem afterPath_mono (braces : Bool) (owner : Tokens) (p : Path) :
    (afterPath g braces owner p).Below (afterPath h braces owner p) := by
  dsimp only [afterPath]
  gcongr

@[gcongr] theorem insertedExpression_mono (braces : Bool) :
    (insertedExpression g braces).Below (insertedExpression h braces) := by
  dsimp only [insertedExpression]
  gcongr
  split <;> gcongr

/-! ## Atoms -/

@[gcongr] theorem arrayExpression_mono : (arrayExpression g).Below (arrayExpression h) := by
  dsimp only [arrayExpression]
  gcongr

@[gcongr] theorem letExpression_mono (braces : Bool) :
    (letExpression g braces).Below (letExpression h braces) := by
  dsimp only [letExpression]
  gcongr

@[gcongr] theorem leaving_mono (text : String) : (leaving g text).Below (leaving h text) := by
  dsimp only [leaving]
  gcongr

@[gcongr] theorem controlFlow?_mono : (controlFlow? g).Below (controlFlow? h) := by
  dsimp only [controlFlow?]
  gcongr

@[gcongr] theorem atom_mono (braces : Bool) : (atom g braces).Below (atom h braces) := by
  dsimp only [atom]
  gcongr
  split <;> gcongr

/-! ## Expressions -/

@[gcongr] theorem expressionAttributes_mono :
    (expressionAttributes g).Below (expressionAttributes h) := by
  dsimp only [expressionAttributes]
  gcongr

@[gcongr] theorem trailed_mono (braces : Bool) (attributes : Tokens) :
    (trailed g braces attributes).Below (trailed h braces attributes) := by
  dsimp only [trailed]
  gcongr

@[gcongr] theorem reference_mono (braces : Bool) :
    (reference g braces).Below (reference h braces) := by
  dsimp only [reference]
  gcongr

@[gcongr] theorem unaryOnce_mono (braces : Bool) :
    (unaryOnce g braces).Below (unaryOnce h braces) := by
  dsimp only [unaryOnce]
  gcongr

@[gcongr] theorem expressionOnce_mono (braces : Bool) :
    (expressionOnce g braces).Below (expressionOnce h braces) := by
  dsimp only [expressionOnce]
  gcongr

@[gcongr] theorem earlyFront_mono : (earlyFront g).Below (earlyFront h) := by
  dsimp only [earlyFront]
  gcongr
  split <;> gcongr

@[gcongr] theorem earlyOnce_mono : (earlyOnce g).Below (earlyOnce h) := by
  dsimp only [earlyOnce]
  gcongr

end TypedId.Grammar
