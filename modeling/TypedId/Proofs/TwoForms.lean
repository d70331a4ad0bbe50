/-
The two forms of one request. Both are read as the same declaration but for
the form and the place of the name, and neither of these decides how an
expansion goes. `forms_agree`: either both give code, the same but for places
once the documentation of the freestanding form is taken away, or both give
the same report.
-/
import TypedId.Proofs.Outcomes
import TypedId.Proofs.Requests.Forms

namespace TypedId

/-! ## Tokens wherever they stand -/

mutual

theorem Token.shown_moveTo (place : Span) : (t : Token) → (t.moveTo place).shown = t.shown
  | .group d ts s => by
    have inner := shownAll_moveTo place ts
    cases d with
    | brace => cases ts <;> simp_all [moveTo, shown]
    | parenthesis | bracket | invisible => simp only [moveTo, shown, inner]
  | .ident .. | .punct .. | .literal .. => by rw [moveTo, shown, shown]

theorem Token.shownAll_moveTo (place : Span) :
    (ts : List Token) → shownAll (ts.map (moveTo place)) = shownAll ts
  | [] => rfl
  | [t] => shown_moveTo place t
  | t :: u :: ts => by
    have joint : (t.moveTo place).isJoint = t.isJoint := by cases t <;> rw [moveTo] <;> rfl
    have later := shownAll_moveTo place (u :: ts)
    rw [List.map_cons] at later
    rw [List.map_cons, List.map_cons, shownAll, shownAll, shown_moveTo place t, joint, later]

end

namespace Tokens

@[simp] theorem moveTo_nil (place : Span) : moveTo place [] = [] := rfl

@[simp] theorem moveTo_cons (place : Span) (t : Token) (ts : Tokens) :
    moveTo place (t :: ts) = t.moveTo place :: moveTo place ts := rfl

@[simp] theorem moveTo_append (place : Span) (a b : Tokens) :
    moveTo place (a ++ b) = moveTo place a ++ moveTo place b := List.map_append

@[simp] theorem moveTo_group (place : Span) (d : Delimiter) (ts : Tokens) (s : Span) :
    Token.moveTo place (.group d ts s) = .group d (moveTo place ts) place := by
  rw [Token.moveTo]
  rfl

theorem moveTo_token {i j : Ident} (h : i.text = j.text) (place : Span) :
    i.token.moveTo place = j.token.moveTo place := by
  rw [Ident.token, Ident.token, Token.moveTo, Token.moveTo, h]

/-- The same tokens, if not at the same places. -/
def Alike (a b : Tokens) : Prop := a.moveTo .callSite = b.moveTo .callSite

theorem Alike.shown {a b : Tokens} (h : a.Alike b) : a.shown = b.shown := by
  rw [Tokens.shown, ← Token.shownAll_moveTo .callSite a]
  rw [Tokens.shown, ← Token.shownAll_moveTo .callSite b]
  exact congrArg Token.shownAll h

end Tokens

/-! ## The code of either form -/

namespace Emission

/-- Where the name stands does not matter to the code. -/
theorem items_alike {i j : Ident} (h : i.text = j.text) (d : Declaration) :
    (items i d).Alike (items j d) := by
  have name := Tokens.moveTo_token h .callSite
  simp only [Tokens.Alike, items, declaration, initializer, identifierImpl, conversions, braces,
    parens, Tokens.moveTo_append, Tokens.moveTo_cons, Tokens.moveTo_group, Tokens.moveTo_nil, name]

end Emission

theorem items_freestanding (i : Ident) (r : Request) (v : Visibility) (t : RawType)
    (path : Option Path) (w w' : Layout) :
    Emission.items i (r.declaration v t path .freestanding w) =
      Emission.documentation .freestanding ++
        Emission.items i (r.declaration v t path .attached w') := by
  have documented : Emission.declaration i (r.declaration v t path .freestanding w) =
      Emission.documentation .freestanding ++
        Emission.declaration i (r.declaration v t path .attached w') := by
    have undocumented : Emission.documentation .attached = [] := rfl
    simp only [Emission.declaration, Request.declaration, List.append_assoc, undocumented,
      List.nil_append]
  rw [Emission.items, Emission.items, documented]
  simp only [List.append_assoc]
  rfl

theorem findings_forms {r : Request} (hn : IsName r.name) (v : Visibility) (t : RawType)
    (path : Option Path) (w w' : Layout) :
    Validation.findings (r.declaration v t path .freestanding w) =
      Validation.findings (r.declaration v t path .attached w') := by
  have named (place : Span) : Validation.checkName ⟨r.name, place⟩ = [] :=
    Validation.checkName_of_isName hn
  have first : Validation.checkName (r.declaration v t path .freestanding w).name = [] :=
    named w.name
  have second : Validation.checkName (r.declaration v t path .attached w').name = [] :=
    named w'.name
  rw [Validation.findings, Validation.findings, first, second]
  rfl

/-! ## Both forms -/

/-- **Two forms, one expansion.** However a request is laid out, its two forms either both give
code, the same once the documentation is taken away, or both fail alike. -/
theorem forms_agree {r : Request} {v : Visibility} {t : RawType} (h : r.Reads v t)
    (w w' : Layout) :
    (∃ code code',
      (Expansion.freestanding (r.input w)).Gives
        (Emission.documentation .freestanding ++ code) ∧
      (Expansion.attached (r.arguments w') (r.item w')).Gives code' ∧
      code.Alike code' ∧ code.shown = code'.shown) ∨
    ∃ stage ds,
      (Expansion.freestanding (r.input w)).Fails stage ds ∧
      (Expansion.attached (r.arguments w') (r.item w')).Fails stage ds := by
  rw [Expansion.freestanding, Expansion.attached, declaration_of_input h w,
    declaration_of_item h w']
  cases r.pathRead with
  | error f =>
    have fails : (Expansion.ofParsed (.error (Report.ofFault f))).Fails .parse [.ofFault f] :=
      Expansion.fails_of_reports (α := Unit) rfl rfl
    exact .inr ⟨_, _, fails, fails⟩
  | ok path =>
    have same := findings_forms h.name v t path w w'
    have validate : Validation.validate (r.declaration v t path .freestanding w) =
        Validation.validate (r.declaration v t path .attached w') := by
      rw [Validation.validate, Validation.validate, same]
    cases hd : Validation.validate (r.declaration v t path .attached w') with
    | error report =>
      have fails := Expansion.fails_of_validate (validate.trans hd)
      rw [same] at fails
      exact .inr ⟨_, _, fails, Expansion.fails_of_validate hd⟩
    | ok u =>
      obtain ⟨i, hi, hg⟩ := Emission.generate_of_validate (validate.trans hd)
      obtain ⟨j, hj, hg'⟩ := Emission.generate_of_validate hd
      have text : i.text = j.text := by
        rw [(Name.toIdent_text_eq_iff hi).mpr h.name, (Name.toIdent_text_eq_iff hj).mpr h.name]
        rfl
      rw [items_freestanding i r v t path w w'] at hg
      have alike := Emission.items_alike text (r.declaration v t path .attached w')
      exact .inl ⟨_, _, Expansion.gives_of_validate (validate.trans hd) hg,
        Expansion.gives_of_validate hd hg', alike, alike.shown⟩

/-- Every mark stands alone, at the call site. -/
def Layout.plain : Layout where
  afterType := ⟨false, .callSite⟩
  afterName := ⟨false, .callSite⟩
  afterTraits := ⟨false, .callSite⟩
  hash := ⟨false, .callSite⟩
  equals := ⟨false, .callSite⟩
  semicolon := ⟨false, .callSite⟩
  crateWord := .callSite
  deriveWord := .callSite
  structWord := .callSite
  parens := .callSite
  brackets := .callSite
  name := .callSite

/-- `pub(crate) u64, "ImageId", derive(Ord), crate = "ids"`. -/
def Request.imageId : Request where
  visibility := [.ident "pub" .callSite,
    .group .parenthesis [.ident "crate" .callSite] .callSite]
  rawType := [.ident "u64" .callSite]
  name := "ImageId"
  traits := some ⟨⟨none, ⟨"Ord", .callSite⟩, []⟩, []⟩
  cratePath := some ("\"ids\"", .callSite)

theorem forms_agree_imageId :
    Request.imageId.Reads (.restricted .callSite .callSite none (.ofIdent ⟨"crate", .callSite⟩))
      (.path [] (.ofIdent ⟨"u64", .callSite⟩)) ∧
    ((∃ code code',
      (Expansion.freestanding (Request.imageId.input .plain)).Gives
        (Emission.documentation .freestanding ++ code) ∧
      (Expansion.attached (Request.imageId.arguments .plain) (Request.imageId.item .plain)).Gives
        code' ∧
      code.Alike code' ∧ code.shown = code'.shown) ∨
    ∃ stage ds,
      (Expansion.freestanding (Request.imageId.input .plain)).Fails stage ds ∧
      (Expansion.attached (Request.imageId.arguments .plain) (Request.imageId.item .plain)).Fails
        stage ds) := by
  have reads : Request.imageId.Reads
      (.restricted .callSite .callSite none (.ofIdent ⟨"crate", .callSite⟩))
      (.path [] (.ofIdent ⟨"u64", .callSite⟩)) := ⟨rfl, rfl, by decide⟩
  exact ⟨reads, forms_agree reads .plain .plain⟩

end TypedId
