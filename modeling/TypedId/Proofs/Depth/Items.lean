/-
A deeper grammar reads declarations and statements as a shallower one does, as
far as that gets; with the lemmas on types and expressions, so does every part
of it. The main result is `deep_mono`: allowing more nesting never changes
what is read, unless reading had got stuck.
-/
import TypedId.Grammar.Whole
import TypedId.Proofs.Depth.Expressions

namespace TypedId.Grammar

open Reader

@[gcongr] theorem fieldsOf_mono {d : Delimiter} {p q : Reader (List (Field × Tokens))}
    (hp : p.Below q) : (fieldsOf d p).Below (fieldsOf d q) := by
  dsimp only [fieldsOf]
  gcongr

section

variable {g h : Grammar} (hg : g.Below h)

include hg

@[gcongr] theorem members_mono {p q : Reader Tokens} (hp : p.Below q) :
    (members g p).Below (members h q) := by
  dsimp only [members]
  gcongr

/-! ## Functions -/

/-! ## Inputs -/

@[gcongr] theorem receiver_mono : (receiver g).Below (receiver h) := by
  dsimp only [receiver]
  gcongr

@[gcongr] theorem input_mono : (input g).Below (input h) := by
  dsimp only [input]
  gcongr
  split <;> gcongr

@[gcongr] theorem inputs_mono : (inputs g).Below (inputs h) := by
  dsimp only [inputs]
  gcongr

/-! ## Heads -/

@[gcongr] theorem signature_mono (safe : Bool) : (signature g safe).Below (signature h safe) := by
  dsimp only [signature]
  gcongr

/-! ## Shared parts -/

@[gcongr] theorem boundsBefore_mono (const : Bool) (stop : List Sign) :
    (boundsBefore g const stop).Below (boundsBefore h const stop) := by
  dsimp only [boundsBefore]
  gcongr

@[gcongr] theorem typeAlias_mono (default : Bool) (place : WherePlace) :
    (typeAlias g default place).Below (typeAlias h default place) := by
  dsimp only [typeAlias]
  gcongr

@[gcongr] theorem constant_mono : (constant g).Below (constant h) := by
  dsimp only [constant]
  gcongr

/-! ## Structs -/

/-! ## Fields -/

@[gcongr] theorem namedField_mono : (namedField g).Below (namedField h) := by
  dsimp only [namedField]
  gcongr

@[gcongr] theorem tupleField_mono : (tupleField g).Below (tupleField h) := by
  dsimp only [tupleField]
  gcongr

@[gcongr] theorem fieldsOnce_mono : (fieldsOnce g).Below (fieldsOnce h) := by
  dsimp only [fieldsOnce]
  gcongr

@[gcongr] theorem namedFields_mono : (namedFields g).Below (namedFields h) := by
  dsimp only [namedFields]
  gcongr

@[gcongr] theorem tupleFields_mono : (tupleFields g).Below (tupleFields h) := by
  dsimp only [tupleFields]
  gcongr

/-! ## Declarations -/

@[gcongr] theorem structBody_mono : (structBody g).Below (structBody h) := by
  dsimp only [structBody]
  gcongr

@[gcongr] theorem structItem_mono (attributes : List Attribute) :
    (structItem g attributes).Below (structItem h attributes) := by
  dsimp only [structItem]
  gcongr

@[gcongr] theorem variant_mono : (variant g).Below (variant h) := by
  dsimp only [variant]
  gcongr

@[gcongr] theorem enumItem_mono : (enumItem g).Below (enumItem h) := by
  dsimp only [enumItem]
  gcongr

@[gcongr] theorem unionItem_mono : (unionItem g).Below (unionItem h) := by
  dsimp only [unionItem]
  gcongr

/-! ## Members -/

@[gcongr] theorem functionMember_mono : (functionMember g).Below (functionMember h) := by
  dsimp only [functionMember]
  gcongr

/-! ## Traits -/

@[gcongr] theorem traitMember_mono : (traitMember g).Below (traitMember h) := by
  dsimp only [traitMember]
  gcongr

/-! ## Implementations -/

@[gcongr] theorem implementationMember_mono :
    (implementationMember g).Below (implementationMember h) := by
  dsimp only [implementationMember]
  gcongr
  split <;> gcongr

/-! ## Foreign declarations -/

@[gcongr] theorem foreignMember_mono : (foreignMember g).Below (foreignMember h) := by
  dsimp only [foreignMember]
  gcongr
  split <;> gcongr

/-! ## Items -/

/-! ## Imports -/

@[gcongr] theorem importsOnce_mono (root : Bool) :
    (importsOnce g root).Below (importsOnce h root) := by
  dsimp only [importsOnce]
  gcongr

@[gcongr] theorem useItem_mono : (useItem g).Below (useItem h) := by
  dsimp only [useItem]
  gcongr

/-! ## Blocks of declarations -/

@[gcongr] theorem foreignModule_mono : (foreignModule g).Below (foreignModule h) := by
  dsimp only [foreignModule]
  gcongr

@[gcongr] theorem module_mono : (module g).Below (module h) := by
  dsimp only [module]
  gcongr

@[gcongr] theorem traitBody_mono : (traitBody g).Below (traitBody h) := by
  dsimp only [traitBody]
  gcongr

@[gcongr] theorem markedTrait_mono : (markedTrait g).Below (markedTrait h) := by
  dsimp only [markedTrait]
  gcongr

@[gcongr] theorem traitOrAlias_mono : (traitOrAlias g).Below (traitOrAlias h) := by
  dsimp only [traitOrAlias]
  gcongr

@[gcongr] theorem implementation_mono : (implementation g).Below (implementation h) := by
  dsimp only [implementation]
  gcongr

/-! ## Other declarations -/

@[gcongr] theorem functionItem_mono : (functionItem g).Below (functionItem h) := by
  dsimp only [functionItem]
  gcongr

@[gcongr] theorem staticItem_mono : (staticItem g).Below (staticItem h) := by
  dsimp only [staticItem]
  gcongr

/-! ## Declarations -/

@[gcongr] theorem itemBehind_mono (attributes : List Attribute) :
    (itemBehind g attributes).Below (itemBehind h attributes) := by
  dsimp only [itemBehind]
  gcongr
  split <;> gcongr

@[gcongr] theorem itemOnce_mono : (itemOnce g).Below (itemOnce h) := by
  dsimp only [itemOnce]
  gcongr

/-! ## Statements -/

@[gcongr] theorem binding_mono : (binding g).Below (binding h) := by
  dsimp only [binding]
  gcongr

@[gcongr] theorem statement_mono : (statement g).Below (statement h) := by
  dsimp only [statement]
  gcongr
  split <;> gcongr

@[gcongr] theorem statementsOnce_mono : (statementsOnce g).Below (statementsOnce h) := by
  dsimp only [statementsOnce]
  gcongr

end

/-! ## Every depth -/

theorem deep_succ_mono {n m : Nat} (h : (deep n).Below (deep m)) :
    (deep (n + 1)).Below (deep (m + 1)) where
  type := typeOnce_mono h
  bound := boundOnce_mono h
  expression := expressionOnce_mono h
  unary := unaryOnce_mono h
  climb := climbOnce_mono h
  early := earlyOnce_mono h
  pattern := patternOnce_mono h
  statements := statementsOnce_mono h
  item := itemOnce_mono h
  fields := fieldsOnce_mono h
  imports := importsOnce_mono h

/-- **Allowing more nesting never changes what is read.** -/
theorem deep_mono {n m : Nat} (h : n ≤ m) : (deep n).Below (deep m) := by
  induction n generalizing m with
  | zero => exact stuck_below _
  | succ n ih =>
    obtain ⟨m, rfl⟩ : ∃ m', m = m' + 1 := ⟨m - 1, by omega⟩
    exact deep_succ_mono (ih (by omega))

end TypedId.Grammar
