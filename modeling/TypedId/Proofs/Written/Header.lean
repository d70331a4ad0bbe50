/-
A declaration that is written out, expanded once more. `attached_again`: the
header of the struct that is written, with an empty body, expands to the same
text. What may fail to be read again is the value of an attribute, since a
path that another macro put in can be written as one that nobody could read
(`attached_again_fails`).
-/
import TypedId.Proofs.Derivation
import TypedId.Proofs.Spelling
import TypedId.Proofs.Written.Code

namespace TypedId

open Reader

/-! ## The traits -/

namespace Emission

theorem checkCapabilities_derived {cs : List Capability}
    (h : Validation.checkCapabilities cs = []) :
    Validation.checkCapabilities ((deriveList cs).map Capability.mk) = [] := by
  obtain ⟨allowed, apart⟩ := Validation.checkCapabilities_eq_nil_iff.mp h
  refine Validation.checkCapabilities_eq_nil_iff.mpr ⟨fun c hc => ?_, ?_⟩
  · obtain ⟨p, hp, rfl⟩ := List.mem_map.mp hc
    rcases List.mem_append.mp hp with asked | added
    · obtain ⟨c, mem, rfl⟩ := List.mem_map.mp asked
      exact allowed c mem
    · obtain ⟨r, hr, rfl⟩ := List.mem_map.mp added
      have required : ∀ r ∈ requiredDerives, r ∉ Validation.forbiddenTraits := by decide
      exact required r (mem_lacking_iff.mp hr).1
  · rw [List.map_map]
    exact deriveList_nodup apart

end Emission

/-! ## The second pass -/

/-- The declaration that is read back: every derived trait was asked for now. -/
def Declaration.again (d : Declaration) (bs : List Attribute) : Declaration :=
  { d with
    capabilities := (Emission.deriveList d.capabilities).map Capability.mk
    attributes := bs }

theorem validate_again {d : Declaration} (h : Validation.validate d = .ok ())
    (bs : List Attribute) : Validation.validate (d.again bs) = .ok () := by
  obtain ⟨others, capabilities⟩ := Validation.validate_eq_ok_iff.mp h
  exact Validation.validate_eq_ok_iff.mpr ⟨others, Emission.checkCapabilities_derived capabilities⟩

/-- The name of a struct is an identifier if the struct is spelled out. -/
theorem Grammar.isIdent_of_anyItem {item ts : Tokens} {decl : StructItem} (spelled : item.Spelled)
    (h : run anyItem item = .ok (.struct decl ts)) : IsIdent decl.name.text := by
  obtain ⟨rest, h, -⟩ := runIn_eq_ok_iff.mp h
  obtain ⟨as, c₁, has, h⟩ := bind_eq_ok_iff.mp h
  obtain ⟨v, c₂, hv, h⟩ := bind_eq_ok_iff.mp (structItem_of_itemBehind h)
  obtain ⟨_, c₃, hk, h⟩ := bind_eq_ok_iff.mp h
  obtain ⟨name, c₄, hn, h⟩ := bind_eq_ok_iff.mp h
  obtain ⟨_, c₅, -, h⟩ := bind_eq_ok_iff.mp h
  obtain ⟨_, c₆, -, h⟩ := bind_eq_ok_iff.mp h
  cases h
  have attributes := outerAttributes_forward _ _ _ _ _ has
  have visible := visibility_forward _ _ _ _ hv
  have behind := Forward.keyword _ _ _ _ _ hk
  exact Gives.identifier _ _ _ _ (((spelled.of_leaves attributes).of_leaves visible).of_leaves behind) hn

namespace Attached

variable {args item : Tokens} {d : Declaration}

theorem isName_of_parse (h : parse args item = .ok d) (spelled : item.Spelled) :
    IsName d.name.text := by
  obtain ⟨t, us, os, options, s, rest, lists, -, -, hi, -, -, rfl⟩ := parse_eq_ok_iff.mp h
  exact ⟨Grammar.isIdent_of_anyItem spelled hi, (Grammar.plain_of_anyItem hi).2.2⟩

theorem form_of_parse (h : parse args item = .ok d) : d.form = .attached := by
  obtain ⟨t, us, os, options, s, rest, lists, -, -, -, -, -, rfl⟩ := parse_eq_ok_iff.mp h
  rfl

/-- The header with an empty body is read as the declaration again. -/
theorem parse_header (h : parse args item = .ok d) (name : IsName d.name.text)
    {bs : List Attribute} (readAs : List.Forall₂ Attribute.ReadsAs d.attributes bs) :
    parse args (Emission.header ⟨d.name.text, d.name.span⟩ d ++ Emission.code ";") =
      .ok (d.again bs) := by
  have plain := plain_of_parse h
  have form := form_of_parse h
  obtain ⟨ts, item⟩ := Grammar.item_written (i := ⟨d.name.text, d.name.span⟩)
    (Emission.outer_attributes plain) (Emission.attributes_readAs readAs) plain.visibility name.2
    .callSite [.punct ';' false .callSite] rfl
    fun n _ => ⟨_, structBody_read (Grammar.deep (n + 1)) ⟨false, .callSite⟩⟩
  have written : Emission.header ⟨d.name.text, d.name.span⟩ d ++ Emission.code ";" =
      (Emission.attributes d).flatMap Attribute.tokens ++ (d.visibility.tokens ++
        .ident "struct" .callSite :: Ident.token ⟨d.name.text, d.name.span⟩ ::
          [.punct ';' false .callSite]) := by
    rw [Emission.header, Emission.code_semicolon]
    simp
  have split := Emission.splitDerives_again plain readAs
  have undocumented : Emission.documenting d.form = [] := by
    rw [form]
    rfl
  rw [undocumented, List.nil_append] at split
  obtain ⟨as, ha, h⟩ := result_bind_eq_ok_iff.mp h
  obtain ⟨_, -, h⟩ := result_bind_eq_ok_iff.mp h
  obtain ⟨t, options, s, cs, left, ht, ho, -, -, rfl⟩ := declaration_eq_ok_iff.mp h
  refine result_bind_eq_ok_iff.mpr ⟨as, ha, result_bind_eq_ok_iff.mpr ⟨_,
    mapError_eq_ok_iff.mpr (written ▸ item), ?_⟩⟩
  exact declaration_eq_ok_iff.mpr ⟨t, options, _, _, _, ht, ho,
    fillable_eq_ok_iff.mpr ⟨⟨ts, rfl⟩, rfl, rfl, rfl⟩, split, rfl⟩

end Attached

/-! ## The text -/

theorem texts_of_readsAs {as bs : List Attribute} (h : List.Forall₂ Attribute.ReadsAs as bs) :
    bs.map (·.tokens.shown) = as.map (·.tokens.shown) := by
  induction h with
  | nil => rfl
  | cons first more ih => rw [List.map_cons, List.map_cons, first.text, ih]

theorem Emission.items_declaration (i : Ident) (d : Declaration) :
    items i d = declaration i d ++ (initializer i d ++ (identifierImpl i d ++ conversions i d)) := by
  rw [items, List.append_assoc, List.append_assoc]

theorem Emission.items_eq (i : Ident) (d : Declaration) :
    items i d = header i d ++ .group .brace (fields d) .callSite ::
      (initializer i d ++ (identifierImpl i d ++ conversions i d)) := by
  rw [items_declaration, declaration_eq, List.append_assoc]
  rfl

/-- The code for the declaration that is read back has the same text. -/
theorem Emission.shown_items_again {d : Declaration} (plain : d.Plain) {bs : List Attribute}
    (readAs : List.Forall₂ Attribute.ReadsAs d.attributes bs) (i : Ident) :
    Tokens.shown (items i (d.again bs)) = Tokens.shown (items i d) := by
  have derives : attributes (d.again bs) = attributesAgain d bs := by
    have same := deriveList_derived d.capabilities
    rw [attributes, attributesAgain, derivation, derivation, Declaration.again]
    simp only [same]
  rw [items_eq, items_eq, header, header, derives, List.append_assoc,
    List.append_assoc (List.flatMap Attribute.tokens (attributes d))]
  refine (shown_attributes (outer_attributes plain) (attributes_readAs readAs) ?_).symm
  simp

namespace Expansion

theorem ofParsed_eq_iff {parsed : Except Report Declaration} {d : Declaration} {code : Tokens} :
    ofParsed parsed = ⟨some d, .ok code⟩ ↔ parsed = .ok d ∧ Validation.validate d = .ok () ∧
      ∃ i, d.name.toIdent = .ok i ∧ code = Emission.items i d := by
  constructor
  · intro h
    cases parsed with
    | error r => cases h
    | ok d' =>
      obtain ⟨same, result⟩ := Expansion.mk.inj h
      cases same
      obtain ⟨_, accepted, made⟩ := result_bind_eq_ok_iff.mp result
      replace accepted := mapError_eq_ok_iff.mp accepted
      obtain ⟨i, hi, hg⟩ := Emission.generate_of_validate accepted
      rw [hg] at made
      cases made
      exact ⟨rfl, accepted, i, hi, rfl⟩
  · rintro ⟨rfl, accepted, i, hi, rfl⟩
    obtain ⟨j, hj, hg⟩ := Emission.generate_of_validate accepted
    rw [hi] at hj
    cases hj
    rw [ofParsed, ofDeclaration, accepted, hg]
    rfl

/-- **Expanding once more.** If a struct expands to code, the header of the struct in that code,
with an empty body, expands to the same text: its one derive list passes the checks and gains
nothing, and its other attributes stay as they are. The identifiers of the struct have to be such
as they stand, which they are if it was lexed; and attributes with an unusual value have to be such
that they can be read again as the same text. -/
theorem attached_again {args item : Tokens} {d : Declaration} {code : Tokens}
    (emits : attached args item = ⟨some d, .ok code⟩) (spelled : item.Spelled)
    (values : ∀ a ∈ d.attributes, a.body.IsUnusual → ∃ b, a.ReadsAs b) :
    ∃ i body rest d' code', d.name.toIdent = .ok i ∧
      code = Emission.header i d ++ .group .brace body .callSite :: rest ∧
      attached args (Emission.header i d ++ Emission.code ";") = ⟨some d', .ok code'⟩ ∧
      code'.shown = code.shown ∧
      d'.capabilities.map (·.path) = Emission.deriveList d.capabilities ∧
      Emission.deriveList d'.capabilities = Emission.deriveList d.capabilities ∧
      d'.attributes.map (·.tokens.shown) = d.attributes.map (·.tokens.shown) := by
  obtain ⟨read, accepted, i, hi, rfl⟩ := ofParsed_eq_iff.mp emits
  have plain := Attached.plain_of_parse read
  have name := Attached.isName_of_parse read spelled
  obtain ⟨bs, readAs⟩ := Emission.exists_readsAs (fun a ha => (plain.attributes a ha).1) values
  rw [Name.toIdent_of_isName name] at hi
  cases hi
  have again := ofParsed_eq_iff.mpr ⟨Attached.parse_header read name readAs,
    validate_again accepted bs, _, Name.toIdent_of_isName name, rfl⟩
  refine ⟨_, _, _, d.again bs, _, Name.toIdent_of_isName name, Emission.items_eq _ d, again,
    Emission.shown_items_again plain readAs _, ?_, Emission.deriveList_derived _,
    texts_of_readsAs readAs⟩
  exact (List.map_map ..).trans (List.map_id _)

/-- The tokens of `#[doc = value] struct ImageId;`. -/
def documented (value : Tokens) : Tokens :=
  [.punct '#' false .callSite,
    .group .bracket (.ident "doc" .callSite :: .punct '=' false .callSite :: value) .callSite,
    .ident "struct" .callSite, .ident "ImageId" .callSite, .punct ';' false .callSite]

/-- The declaration of `#[identifier(u8)] #[doc = value] struct ImageId;`. -/
def documentedId (value : Tokens) : Declaration where
  name := ⟨"ImageId", .callSite⟩
  rawType := .path [] (.ofIdent ⟨"u8", .callSite⟩)
  capabilities := []
  visibility := .inherited
  attributes := [⟨.callSite, none, .callSite, .ofIdent ⟨"doc", .callSite⟩,
    .value .callSite value⟩]
  form := .attached
  cratePath := none

/-- `(include_str!("id.md"))`. -/
def included : Tokens :=
  [.group .parenthesis [.ident "include_str" .callSite, .punct '!' false .callSite,
    .group .parenthesis [.literal "\"id.md\"" .callSite] .callSite] .callSite]

theorem parse_included : Attached.parse [.ident "u8" .callSite] (documented included) =
    .ok (documentedId included) := rfl

theorem validate_documentedId (value : Tokens) :
    Validation.validate (documentedId value) = .ok () := by
  have same : Validation.findings (documentedId value) =
      Validation.findings (documentedId []) := rfl
  exact Validation.validate_eq_ok_iff_findings.mpr (same.trans (by decide +kernel))

theorem toIdent_documentedId (value : Tokens) :
    (documentedId value).name.toIdent = .ok ⟨"ImageId", .callSite⟩ :=
  Name.toIdent_of_isName (show IsName "ImageId" by decide)

theorem emits_documentedId (value : Tokens) :
    ofParsed (.ok (documentedId value)) = ⟨some (documentedId value),
      .ok (Emission.items ⟨"ImageId", .callSite⟩ (documentedId value))⟩ :=
  ofParsed_eq_iff.mpr ⟨rfl, validate_documentedId value, _, toIdent_documentedId value, rfl⟩

theorem attached_included :
    attached [.ident "u8" .callSite] (documented included) = ⟨some (documentedId included),
      .ok (Emission.items ⟨"ImageId", .callSite⟩ (documentedId included))⟩ := by
  rw [attached, parse_included, emits_documentedId]

/-- `#[identifier(u8)] #[doc = (include_str!("id.md"))] struct ImageId;` -/
theorem attached_again_included :
    attached [.ident "u8" .callSite] (documented included) = ⟨some (documentedId included),
      .ok (Emission.items ⟨"ImageId", .callSite⟩ (documentedId included))⟩ ∧
    (documented included).Spelled ∧
    ∃ i body rest d' code', (documentedId included).name.toIdent = .ok i ∧
      Emission.items ⟨"ImageId", .callSite⟩ (documentedId included) =
        Emission.header i (documentedId included) ++ .group .brace body .callSite :: rest ∧
      attached [.ident "u8" .callSite]
        (Emission.header i (documentedId included) ++ Emission.code ";") =
          ⟨some d', .ok code'⟩ ∧
      code'.shown =
        (Emission.items ⟨"ImageId", .callSite⟩ (documentedId included)).shown ∧
      d'.capabilities.map (·.path) = Emission.deriveList (documentedId included).capabilities ∧
      Emission.deriveList d'.capabilities =
        Emission.deriveList (documentedId included).capabilities ∧
      d'.attributes.map (·.tokens.shown) =
        (documentedId included).attributes.map (·.tokens.shown) := by
  have spelled : (documented included).Spelled := by decide
  refine ⟨attached_included, spelled, attached_again attached_included spelled ?_⟩
  intro a ha _
  rw [List.mem_singleton.mp ha]
  exact ⟨_, rfl, rfl⟩

/-- `f::<self<u8>>`, where another macro put in the word `self`. -/
def inserted : Tokens :=
  [.ident "f" .callSite, .punct ':' true .callSite, .punct ':' false .callSite,
    .punct '<' false .callSite, .group .invisible [.ident "self" .callSite] .callSite,
    .punct '<' false .callSite, .ident "u8" .callSite, .punct '>' false .callSite,
    .punct '>' false .callSite]

/-- The same as it is written back: `self` stands there by itself. -/
def insertedBack : Tokens :=
  [.ident "f" .callSite, .punct ':' true .callSite, .punct ':' false .callSite,
    .punct '<' false .callSite, .ident "self" .callSite,
    .punct '<' false .callSite, .ident "u8" .callSite, .punct '>' false .callSite,
    .punct '>' false .callSite]

theorem parse_inserted : Attached.parse [.ident "u8" .callSite] (documented inserted) =
    .ok (documentedId insertedBack) := rfl

/-- `self` takes no arguments where it is written, so its attribute cannot be read again. -/
theorem attached_again_fails :
    ∃ d i code r, attached [.ident "u8" .callSite] (documented inserted) = ⟨some d, .ok code⟩ ∧
      d.name.toIdent = .ok i ∧
      attached [.ident "u8" .callSite] (Emission.header i d ++ Emission.code ";") =
        ⟨none, .error (.parse, r)⟩ := by
  have emits : attached [.ident "u8" .callSite] (documented inserted) =
      ⟨some (documentedId insertedBack),
        .ok (Emission.items ⟨"ImageId", .callSite⟩ (documentedId insertedBack))⟩ := by
    rw [attached, parse_inserted, emits_documentedId]
  have fails : ∃ r, Attached.parse [.ident "u8" .callSite]
      (Emission.header ⟨"ImageId", .callSite⟩ (documentedId insertedBack) ++ Emission.code ";") =
        .error r := by
    rw [Emission.header, Emission.attributes, Emission.derivation, Emission.code_comma,
      Emission.code_semicolon]
    exact ⟨_, rfl⟩
  obtain ⟨r, fails⟩ := fails
  refine ⟨documentedId insertedBack, _, _, r, emits, toIdent_documentedId insertedBack, ?_⟩
  rw [attached, fails]
  rfl

end Expansion

end TypedId
