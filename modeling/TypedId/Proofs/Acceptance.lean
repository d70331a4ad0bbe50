/-
What validation lets pass. `accepts_iff`: a raw type that names the identifier
is refused only as it stands; with parentheses or an invisible group around
it, it is accepted. `emitted_name`: the code is for the one
identifier that the text of the name contains, which is the text itself
exactly if that was an identifier as it stood.
-/
import TypedId.Proofs.Outcomes

namespace TypedId

/-! ## Layers around a type -/

/-- What only wraps a type: parentheses, or the group of a type that another macro put in. -/
inductive Layer where
  | paren (place : Span)
  | group (place : Span)

namespace RawType

def wrap (t : RawType) : List Layer → RawType
  | [] => t
  | .paren place :: layers => .paren (t.wrap layers) place
  | .group place :: layers => .group (t.wrap layers) place

/-- The layers around the core, from the outside. -/
def layers : RawType → List Layer
  | .paren t place => .paren place :: t.layers
  | .group t place => .group place :: t.layers
  | _ => []

theorem core_wrap_layers (t : RawType) : t.core.wrap t.layers = t := by
  induction t with
  | paren t place ih => exact congrArg (RawType.paren · place) ih
  | group t place ih => exact congrArg (RawType.group · place) ih
  | _ => rfl

theorem core_wrap (t : RawType) (layers : List Layer) : (t.wrap layers).core = t.core := by
  induction layers with
  | nil => rfl
  | cons layer layers ih => cases layer <;> exact ih

theorem layers_wrap (t : RawType) (layers : List Layer) :
    (t.wrap layers).layers = layers ++ t.layers := by
  induction layers with
  | nil => rfl
  | cons layer layers ih => cases layer <;> exact congrArg (_ :: ·) ih

/-- The type is one word that means the identifier itself. -/
def Names (t : RawType) (n : Name) : Prop :=
  ∃ i, t.ident? = some i ∧ (i.text = "Self" ∨ i.text = n.text)

theorem not_names_paren (t : RawType) (place : Span) (n : Name) : ¬ (paren t place).Names n := by
  rintro ⟨i, hi, -⟩
  cases hi

theorem not_names_group (t : RawType) (place : Span) (n : Name) : ¬ (group t place).Names n := by
  rintro ⟨i, hi, -⟩
  cases hi

/-- A type names the identifier if its core does and nothing is around that. -/
theorem names_iff (t : RawType) (n : Name) : t.Names n ↔ t.core.Names n ∧ t.layers = [] := by
  cases t with
  | paren t place => simp [not_names_paren, layers]
  | group t place => simp [not_names_group, layers]
  | _ => exact (and_iff_left rfl).symm

end RawType

/-! ## What is accepted -/

namespace Validation

theorem checkRawType_eq_nil_iff {t : RawType} : checkRawType t = [] ↔ unresolved? t.core = none := by
  rw [checkRawType]
  cases unresolved? t.core <;> simp

theorem checkSelfReference_eq_nil_iff {n : Name} {t : RawType} :
    checkSelfReference n t = [] ↔ ¬ t.Names n := by
  rw [checkSelfReference, RawType.Names]
  cases t.ident? with
  | none => simp
  | some i => by_cases h : i.text = "Self" ∨ i.text = n.text <;> simp [h]

/-- The parts of a declaration are in order, each by itself. -/
def InOrder (d : Declaration) : Prop :=
  checkName d.name = [] ∧ unresolved? d.rawType.core = none ∧ checkCapabilities d.capabilities = []

theorem inOrder_wrap (d : Declaration) (layers : List Layer) :
    InOrder { d with rawType := d.rawType.wrap layers } ↔ InOrder d := by
  rw [InOrder, InOrder, RawType.core_wrap]

theorem validate_iff (d : Declaration) :
    validate d = .ok () ↔ InOrder d ∧ (d.rawType.core.Names d.name → d.rawType.layers ≠ []) := by
  have self : checkSelfReference d.name d.rawType = [] ↔
      (d.rawType.core.Names d.name → d.rawType.layers ≠ []) := by
    rw [checkSelfReference_eq_nil_iff, RawType.names_iff, not_and]
  rw [validate_eq_ok_iff_findings, findings, List.append_eq_nil_iff,
    List.append_eq_nil_iff, List.append_eq_nil_iff, checkRawType_eq_nil_iff, self, InOrder]
  constructor
  · rintro ⟨⟨⟨name, resolved⟩, layered⟩, capabilities⟩
    exact ⟨⟨name, resolved, capabilities⟩, layered⟩
  · rintro ⟨⟨name, resolved, capabilities⟩, layered⟩
    exact ⟨⟨⟨name, resolved⟩, layered⟩, capabilities⟩

/-- **When a type may name the identifier.** A declaration in order is refused only for a raw type
that names the identifier as it stands. One more layer, and only the order counts. -/
theorem accepts_iff (d : Declaration) :
    (validate d = .ok () ↔
      InOrder d ∧ (d.rawType.core.Names d.name → d.rawType.layers ≠ [])) ∧
    ∀ layer layers, validate { d with rawType := d.rawType.wrap (layer :: layers) } = .ok () ↔
      InOrder d := by
  refine ⟨validate_iff d, fun layer layers => ?_⟩
  have layered : (d.rawType.wrap (layer :: layers)).layers ≠ [] := by
    rw [RawType.layers_wrap]
    exact List.cons_ne_nil _ _
  rw [validate_iff, inOrder_wrap]
  exact and_iff_left fun _ => layered

/-- `(ImageId), "ImageId"` passes. -/
theorem accepts_itself_in_parens :
    ∃ d, Freestanding.parse [
        .group .parenthesis [.ident "ImageId" .callSite] .callSite, .punct ',' false .callSite,
        .literal "\"ImageId\"" .callSite] = .ok d ∧
      validate d = .ok () ∧ d.rawType.core.Names d.name := by
  refine ⟨_, rfl, validate_eq_ok_iff_findings.mpr (by decide +kernel), ?_⟩
  exact ⟨⟨"ImageId", .callSite⟩, rfl, .inr (by decide +kernel)⟩

end Validation

/-! ## The name that is emitted -/

namespace Emission

/-- **What is emitted.** The code of an accepted declaration is for the one identifier that its
name contains. That is the name itself exactly if the name is an identifier as it stands. -/
theorem emitted_name {d : Declaration} (h : Validation.validate d = .ok ()) :
    ∃ i, generate d = .ok (items i d) ∧ IsName i.text ∧
      (∃ place, Lexer.lex "" d.name.text = some [.ident i.text place]) ∧
      (i.text = d.name.text ↔ IsName d.name.text) := by
  obtain ⟨i, hi, hg⟩ := generate_of_validate h
  obtain ⟨-, place, hl⟩ := Name.lex_of_toIdent hi
  exact ⟨i, hg, Name.isName_of_toIdent hi, ⟨place, hl⟩, Name.toIdent_text_eq_iff hi⟩

/-- A name with blanks around it. -/
def blankName : Declaration where
  name := ⟨" ImageId ", .callSite⟩
  rawType := .path [] (.ofIdent ⟨"u64", .callSite⟩)
  capabilities := []
  visibility := .inherited
  attributes := []
  form := .freestanding
  cratePath := none

theorem validate_blankName : Validation.validate blankName = .ok () :=
  Validation.validate_eq_ok_iff_findings.mpr (by decide +kernel)

theorem emitted_name_blank :
    Validation.validate blankName = .ok () ∧
    ∃ i, generate blankName = .ok (items i blankName) ∧ IsName i.text ∧
      (∃ place, Lexer.lex "" blankName.name.text = some [.ident i.text place]) ∧
      (i.text = blankName.name.text ↔ IsName blankName.name.text) :=
  ⟨validate_blankName, emitted_name validate_blankName⟩

/-- `u64, " ImageId "` passes, and the code is for another name. -/
theorem emits_another_name :
    ∃ d, Freestanding.parse [
        .ident "u64" .callSite, .punct ',' false .callSite,
        .literal "\" ImageId \"" .callSite] = .ok d ∧
      Validation.validate d = .ok () ∧
      ∃ i, generate d = .ok (items i d) ∧ i.text ≠ d.name.text := by
  have read : Freestanding.parse [
      .ident "u64" .callSite, .punct ',' false .callSite,
      .literal "\" ImageId \"" .callSite] = .ok { blankName with
        name := ⟨((Token.Literal.stringValue? "\" ImageId \"").getD ("", "")).1, .callSite⟩ } := rfl
  have value : Token.Literal.stringValue? "\" ImageId \"" = some (" ImageId ", "") := by
    decide +kernel
  obtain ⟨i, hi, hg⟩ := generate_of_validate validate_blankName
  rw [value] at read
  refine ⟨blankName, read, validate_blankName, i, hg, fun same => ?_⟩
  exact absurd ((Name.toIdent_text_eq_iff hi).mp same) (by decide +kernel)

end Emission

end TypedId
