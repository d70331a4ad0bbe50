/-
The declaration that is written, read back whole. `declaration_again`: it is
a struct with the name, the visibility, the derived traits and the attributes
that were asked for, and with the raw value for its only field. For that the
raw type has to be such that it can be read again where it is written; one
that another macro put in may not be (`declaration_again_fails`).
-/
import TypedId.Proofs.MissingPieces
import TypedId.Proofs.Written.Header
import TypedId.Proofs.Written.Usual

namespace TypedId

open Reader

/-- The type, as it is written in the braces of a struct, is read as a type of the same text. -/
structure RawType.ReadsAs (t u : RawType) : Prop where
  read : runIn ⟨.callSite, .brace⟩ Grammar.anyType t.tokens = .ok u
  text : u.tokens.shown = t.tokens.shown

/-- The type is written as types usually are, or it is at any rate read as one of the same text. -/
inductive RawType.Legible (t : RawType) : Prop
  | usual (h : Grammar.Usual (.type true t.tokens))
  | again {u : RawType} (h : t.ReadsAs u)

theorem RawType.Legible.readsAs {t : RawType} (h : t.Legible) : ∃ u, t.ReadsAs u := by
  cases h with
  | usual h =>
    obtain ⟨u, read, same⟩ := Grammar.anyType_usual h ⟨.callSite, .brace⟩
    exact ⟨u, runIn_eq_ok_iff.mpr ⟨[], read, rfl⟩, by rw [same]⟩
  | again h => exact ⟨_, h⟩

/-- Only empty invisible groups are not told as left over. -/
theorem blank_of_remainder {d : Delimiter} {ts : Tokens} (h : remainder d ts = none) :
    ts.Blank := by
  induction ts with
  | nil => rfl
  | cons t ts ih =>
    cases t with
    | group d' content place =>
      cases d' with
      | invisible =>
        rw [remainder] at h
        split at h
        · cases h
        · next empty =>
          have hidden : Tokens.enter content = [] := List.head?_eq_none_iff.mp empty
          rw [Tokens.Blank, Tokens.enter_invisible, if_pos hidden]
          exact ih h
      | parenthesis | bracket | brace => cases h
    | ident | punct | literal => cases h

/-- A list of one item with a comma behind it. -/
theorem Reader.commaList_of_one {α : Type} {item : Reader α} {s : Scope} {ts rest : Tokens} {a : α}
    (begun : ts ≠ []) (first : item s ⟨ts, none⟩ = .ok (a, ⟨rest, none⟩))
    (comma : rest.Comma []) :
    ∃ marks, commaList item s ⟨ts, none⟩ = .ok ([(a, marks)], ⟨[], none⟩) := by
  obtain ⟨marks, taken⟩ : ∃ marks, operator "," s ⟨rest, none⟩ = .ok (marks, ⟨[], none⟩) :=
    comma_eq_ok_iff.mpr ⟨[], comma, rfl⟩
  obtain ⟨t, ts, rfl⟩ := List.exists_cons_of_ne_nil begun
  obtain ⟨u, us, rfl⟩ := List.exists_cons_of_ne_nil comma.ne_nil
  have pos := Tokens.weight_pos t
  obtain ⟨m, hm⟩ : ∃ m, Tokens.weight (t :: ts) = m + 1 :=
    ⟨Tokens.weight (t :: ts) - 1, by rw [Tokens.weight_cons]; omega⟩
  refine ⟨marks, ?_⟩
  -- the first round reads the item, the second one finds nothing left
  rw [commaList, loop, Cursor.weight, hm]
  simp only [loop.go, bind_apply, atEnd, look, List.isEmpty_cons, Bool.false_eq_true, if_false, first,
    taken]
  rfl

namespace Grammar

/-- A comma and nothing behind it. -/
def lastComma : Tail := ⟨false, .callSite, []⟩

/-- The type is read in front of a comma, in a grammar that is deep enough. -/
theorem type_written {t u : RawType} (h : t.ReadsAs u) {n : Nat} (hn : t.tokens.weight + 2 ≤ n) :
    ∃ rest, Tokens.Comma rest [] ∧
      (deep (n + 1)).type true true ⟨.callSite, .brace⟩ ⟨t.tokens ++ lastComma.tokens, none⟩ =
        .ok (u, ⟨rest, none⟩) := by
  obtain ⟨rest, read, clean⟩ := runIn_eq_ok_iff.mp h.read
  have stops := anyType_stops lastComma _ _ _ _ read
  have deeper : (Cursor.mk (t.tokens ++ lastComma.tokens) none).weight + 1 ≤ n := by
    rw [Cursor.weight, Tokens.weight_append]
    exact hn
  refine ⟨rest ++ lastComma.tokens, ⟨false, .callSite, ?_⟩,
    (typeOnce_mono (deep_mono deeper) true true).of_ok stops⟩
  rw [Tokens.enter_append_tail, blank_of_remainder clean]
  rfl

end Grammar

/-! ## The field -/

namespace Emission

/-- The attribute that documents the field. -/
def fieldAttribute : Attribute := docAttribute "Raw value wrapped by this identifier."

/-- The field that is read back. -/
def field (v : Visibility) (t : RawType) : Field where
  attributes := [fieldAttribute]
  visibility := v
  name := some ⟨"raw_value", .callSite⟩
  type := t

variable {d : Declaration} {t : RawType} {n : Nat}

theorem weight_fields (d : Declaration) :
    fieldAttribute.tokens.weight + d.rawType.tokens.weight + 2 ≤ (fields d).weight := by
  rw [fields, fieldAttribute]
  simp only [Tokens.weight_append, Tokens.weight_cons, Tokens.weight_nil]
  have := Tokens.weight_pos (.ident "raw_value" .callSite)
  have := Tokens.weight_pos (.punct ':' false .callSite)
  omega

/-- The field behind its attribute and its visibility. -/
def bareField (t : RawType) : Tokens :=
  .ident "raw_value" .callSite :: .punct ':' false .callSite ::
    (t.tokens ++ Grammar.lastComma.tokens)

theorem fields_eq (d : Declaration) : fields d =
    [fieldAttribute].flatMap Attribute.tokens ++ (d.visibility.tokens ++ bareField d.rawType) := by
  rw [List.flatMap_singleton]
  rfl

theorem namedField_written (plain : d.visibility.Plain) (h : d.rawType.ReadsAs t)
    (hn : (fields d).weight ≤ n) :
    ∃ rest, Tokens.Comma rest [] ∧
      Grammar.namedField (Grammar.deep (n + 1)) ⟨.callSite, .brace⟩ ⟨fields d, none⟩ =
        .ok (field d.visibility t, ⟨rest, none⟩) := by
  have enough := weight_fields d
  obtain ⟨rest, comma, type⟩ := Grammar.type_written h (n := n) (by omega)
  refine ⟨rest, comma, ?_⟩
  have documents : Grammar.outerAttributes (Grammar.deep (n + 1)) ⟨.callSite, .brace⟩
      ⟨fields d, none⟩ =
        .ok ([fieldAttribute], ⟨d.visibility.tokens ++ bareField d.rawType, none⟩) := by
    rw [fields_eq]
    refine Grammar.outerAttributes_again ?_ (.cons (readsAs_docAttribute _) .nil) ?_
      (Grammar.shows_hash_visibility ..) _
    · exact List.forall_mem_singleton.mpr (outer_docAttribute _)
    · have small : fieldAttribute.tokens.weight + 1 ≤ n + 1 := by omega
      exact List.forall_mem_singleton.mpr small
  have visibility : Grammar.visibility ⟨.callSite, .brace⟩
      ⟨d.visibility.tokens ++ bareField d.rawType, none⟩ =
        .ok (d.visibility, ⟨bareField d.rawType, none⟩) :=
    Grammar.visibility_written plain _ (by decide) _ _
  have named : (Sign.keyword "_").shows (bareField d.rawType) = false := rfl
  have name : identifier ⟨.callSite, .brace⟩ ⟨bareField d.rawType, none⟩ =
      .ok (⟨"raw_value", .callSite⟩, ⟨.punct ':' false .callSite ::
        (d.rawType.tokens ++ Grammar.lastComma.tokens), none⟩) := rfl
  have colon : operator ":" ⟨.callSite, .brace⟩ ⟨.punct ':' false .callSite ::
      (d.rawType.tokens ++ Grammar.lastComma.tokens), none⟩ =
        .ok ([.punct ':' false .callSite],
          ⟨d.rawType.tokens ++ Grammar.lastComma.tokens, none⟩) := rfl
  rw [Grammar.namedField, bind_apply, documents]
  simp only [bind_apply, visibility, peek, look, named, Bool.false_and, Bool.false_eq_true, if_false,
    name, colon, peek2, type]
  rfl

theorem fieldsOnce_written (plain : d.visibility.Plain) (h : d.rawType.ReadsAs t)
    (hn : (fields d).weight ≤ n) :
    ∃ comma, Grammar.fieldsOnce (Grammar.deep (n + 1)) ⟨.callSite, .brace⟩ ⟨fields d, none⟩ =
      .ok ([(field d.visibility t, comma)], ⟨[], none⟩) := by
  obtain ⟨rest, comma, first⟩ := namedField_written plain h hn
  exact commaList_of_one (List.cons_ne_nil _ _) first comma

theorem structBody_written (plain : d.visibility.Plain) (h : d.rawType.ReadsAs t)
    (hn : (fields d).weight ≤ n) :
    ∃ written, Grammar.structBody (Grammar.deep (n + 1)) .top
      ⟨[.group .brace (fields d) .callSite], none⟩ =
        .ok ((none, [field d.visibility t], written), ⟨[], none⟩) := by
  obtain ⟨comma, inner⟩ := fieldsOnce_written plain h hn
  have braces : group .brace (Grammar.fieldsOnce (Grammar.deep (n + 1))) .top
      ⟨[.group .brace (fields d) .callSite], none⟩ =
        .ok ((.callSite, [(field d.visibility t, comma)]), ⟨[], none⟩) := group_read inner .top []
  have noClause : Grammar.whereClause? (Grammar.deep (n + 1)) .top
      ⟨[.group .brace (fields d) .callSite], none⟩ =
        .ok (none, ⟨[.group .brace (fields d) .callSite], none⟩) := rfl
  have noParens : (Sign.group .parenthesis).shows [.group .brace (fields d) .callSite] = false := rfl
  have shown : (Sign.group .brace).shows [.group .brace (fields d) .callSite] = true := rfl
  rw [Grammar.structBody, bind_apply, noClause]
  simp only [bind_apply, peek, look, noParens, shown, Bool.and_false, Bool.false_eq_true, if_false,
    if_true, Grammar.namedFields, Grammar.fieldsOf, braces]
  exact ⟨_, rfl⟩

/-! ## The declaration -/

/-- The struct is what was asked for, with the raw value for its only field. -/
structure Realized (i : Ident) (d : Declaration) (s : StructItem) : Prop where
  name : s.name = i
  generics : s.generics.count = 0
  whereClause : s.whereClause = none
  visibility : s.visibility = d.visibility
  fields : ∃ f, s.fields = [f] ∧ f.name = some ⟨"raw_value", .callSite⟩ ∧
    f.visibility = d.visibility ∧ f.type.tokens.shown = d.rawType.tokens.shown
  derives : ∃ left, splitDerives s.attributes =
      .ok ((deriveList d.capabilities).map Capability.mk, left) ∧
    left.map (·.tokens.shown) = (documenting d.form ++ d.attributes).map (·.tokens.shown)

/-- The struct that is read back. -/
def structAgain (i : Ident) (d : Declaration) (bs : List Attribute) (t : RawType) : StructItem where
  attributes := attributesAgain d bs
  visibility := d.visibility
  name := i
  generics := ⟨0, []⟩
  whereClause := none
  fields := [field d.visibility t]

theorem item_again (plain : d.Plain) {i : Ident} (name : isKeyword i.text = false)
    (h : d.rawType.ReadsAs t) {bs : List Attribute}
    (readAs : List.Forall₂ Attribute.ReadsAs d.attributes bs) :
    ∃ written, run Grammar.anyItem (declaration i d) =
      .ok (.struct (structAgain i d bs t) written) := by
  obtain ⟨written, item⟩ := Grammar.item_written (outer_attributes plain)
    (attributes_readAs readAs) plain.visibility name .callSite
    [.group .brace (fields d) .callSite] rfl fun n hn =>
      structBody_written plain.visibility h (Nat.le_trans (Nat.le_succ _) hn)
  refine ⟨written, ?_⟩
  rw [declaration_eq, header, List.append_assoc, List.append_assoc]
  exact item

theorem realized (plain : d.Plain) (i : Ident) (h : d.rawType.ReadsAs t) {bs : List Attribute}
    (readAs : List.Forall₂ Attribute.ReadsAs d.attributes bs) :
    Realized i d (structAgain i d bs t) where
  name := rfl
  generics := rfl
  whereClause := rfl
  visibility := rfl
  fields := ⟨field d.visibility t, rfl, rfl, rfl, h.text⟩
  derives := by
    refine ⟨_, splitDerives_again plain readAs, ?_⟩
    rw [List.map_append, List.map_append, texts_of_readsAs readAs]

end Emission

namespace Expansion

/-- The expansion of an input of either form writes this code for this declaration. -/
inductive Emits (d : Declaration) (code : Tokens) : Prop
  | freestanding {input : Tokens} (h : freestanding input = ⟨some d, .ok code⟩)
  | attached {args item : Tokens} (h : attached args item = ⟨some d, .ok code⟩)

theorem Emits.plain {d : Declaration} {code : Tokens} (h : Emits d code) :
    d.Plain ∧ ∃ i, d.name.toIdent = .ok i ∧ code = Emission.items i d := by
  cases h with
  | freestanding h =>
    obtain ⟨read, -, made⟩ := ofParsed_eq_iff.mp h
    exact ⟨Freestanding.plain_of_parse read, made⟩
  | attached h =>
    obtain ⟨read, -, made⟩ := ofParsed_eq_iff.mp h
    exact ⟨Attached.plain_of_parse read, made⟩

/-- **Reading back what was declared.** The struct that is written for a declaration is read as
what was asked for, and since it has a field it is never accepted once more. The raw type, if it is
unusual, and attributes with an unusual value have to be such that they can be read again as the
same text. -/
theorem declaration_again {d : Declaration} {code : Tokens} (emits : Emits d code)
    (rawType : d.rawType.Legible)
    (values : ∀ a ∈ d.attributes, a.body.IsUnusual → ∃ b, a.ReadsAs b) :
    ∃ i rest s written, d.name.toIdent = .ok i ∧ code = Emission.declaration i d ++ rest ∧
      run Grammar.anyItem (Emission.declaration i d) = .ok (.struct s written) ∧
      Emission.Realized i d s ∧
      ∀ args, errors (Attached.parse args (Emission.declaration i d)) =
        match run Attached.arguments args with
        | .error f => [.ofFault f]
        | .ok as =>
          (if args = [] then [⟨.rawType none, .callSite⟩] else []) ++
          faults (Options.ofTokens .crateOnly as.options) ++
          [⟨.declaration "the struct body must be empty; the macro adds the `raw_value` field",
            .callSite⟩] := by
  obtain ⟨t, rawType⟩ := rawType.readsAs
  obtain ⟨plain, i, hi, rfl⟩ := emits.plain
  obtain ⟨bs, readAs⟩ := Emission.exists_readsAs (fun a ha => (plain.attributes a ha).1) values
  obtain ⟨written, item⟩ :=
    Emission.item_again plain (Name.isName_of_toIdent hi).2 rawType readAs
  refine ⟨i, _, _, written, hi, Emission.items_declaration i d, item,
    Emission.realized plain i rawType readAs, fun args => ?_⟩
  rw [Attached.parse, item]
  cases ha : run Attached.arguments args with
  | error f => rfl
  | ok as => exact Attached.errors_declaration ha (.struct (Emission.structAgain i d bs t) written)

/-- The tokens of `rawType, "ImageId"`. -/
def named (rawType : Tokens) : Tokens :=
  rawType ++ [.punct ',' false .callSite, .literal "\"ImageId\"" .callSite]

/-- The declaration of an `ImageId` over this type. -/
def imageIdOver (t : RawType) : Declaration where
  name := ⟨"ImageId", .callSite⟩
  rawType := t
  capabilities := []
  visibility := .inherited
  attributes := []
  form := .freestanding
  cratePath := none

/-- `word<u8>`. -/
def ofBytes (word : String) : RawType :=
  .path [] ⟨none, ⟨⟨word, .callSite⟩, .angle [.punct '<' false .callSite, .ident "u8" .callSite,
    .punct '>' false .callSite] false⟩, []⟩

theorem emits_imageIdOver {t : RawType} {input : Tokens}
    (read : Freestanding.parse input = .ok (imageIdOver t))
    (accepted : Validation.validate (imageIdOver t) = .ok ()) :
    freestanding input = ⟨some (imageIdOver t),
      .ok (Emission.items ⟨"ImageId", .callSite⟩ (imageIdOver t))⟩ := by
  have name : (imageIdOver t).name.toIdent = .ok ⟨"ImageId", .callSite⟩ :=
    Name.toIdent_of_isName (show IsName "ImageId" by decide)
  exact ofParsed_eq_iff.mpr ⟨read, accepted, _, name, rfl⟩

theorem emits_vec : Emits (imageIdOver (ofBytes "Vec"))
    (Emission.items ⟨"ImageId", .callSite⟩ (imageIdOver (ofBytes "Vec"))) := by
  have read : Freestanding.parse (named (ofBytes "Vec").tokens) =
      .ok (imageIdOver (ofBytes "Vec")) := by
    cbv
  have accepted : Validation.validate (imageIdOver (ofBytes "Vec")) = .ok () :=
    Validation.validate_eq_ok_iff_findings.mpr (by decide +kernel)
  exact .freestanding (emits_imageIdOver read accepted)

theorem usual_vec : Grammar.Usual (.type true (ofBytes "Vec").tokens) := by
  have bytes : Grammar.Usual (.type true [.ident "u8" .callSite]) :=
    @Grammar.Usual.path true (.ofIdent ⟨"u8", .callSite⟩) (fun _ => by decide)
      (List.forall_mem_singleton.mpr (.word (by decide)))
  refine @Grammar.Usual.path true
    ⟨none, ⟨⟨"Vec", .callSite⟩, .angle [.punct '<' false .callSite, .ident "u8" .callSite,
      .punct '>' false .callSite] false⟩, []⟩
    (fun _ => by decide) (List.forall_mem_singleton.mpr ?_)
  exact @Grammar.Usual.angles ⟨"Vec", .callSite⟩ (by decide) (.inl (by decide)) []
    [([.ident "u8" .callSite], [])] (.last _) nofun
    (List.forall_mem_singleton.mpr (.typeArgument bytes)) none .callSite .callSite

/-- `new_identifier!(Vec<u8>, "ImageId")`. -/
theorem declaration_again_vec :
    Emits (imageIdOver (ofBytes "Vec"))
      (Emission.items ⟨"ImageId", .callSite⟩ (imageIdOver (ofBytes "Vec"))) ∧
    (imageIdOver (ofBytes "Vec")).rawType.Legible ∧
    ∃ i rest s written, (imageIdOver (ofBytes "Vec")).name.toIdent = .ok i ∧
      Emission.items ⟨"ImageId", .callSite⟩ (imageIdOver (ofBytes "Vec")) =
        Emission.declaration i (imageIdOver (ofBytes "Vec")) ++ rest ∧
      run Grammar.anyItem (Emission.declaration i (imageIdOver (ofBytes "Vec"))) =
        .ok (.struct s written) ∧
      Emission.Realized i (imageIdOver (ofBytes "Vec")) s ∧
      ∀ args, errors (Attached.parse args
          (Emission.declaration i (imageIdOver (ofBytes "Vec")))) =
        match run Attached.arguments args with
        | .error f => [.ofFault f]
        | .ok as =>
          (if args = [] then [⟨.rawType none, .callSite⟩] else []) ++
          faults (Options.ofTokens .crateOnly as.options) ++
          [⟨.declaration "the struct body must be empty; the macro adds the `raw_value` field",
            .callSite⟩] := by
  have legible : (imageIdOver (ofBytes "Vec")).rawType.Legible := .usual usual_vec
  refine ⟨emits_vec, legible, declaration_again emits_vec legible ?_⟩
  exact fun a ha => absurd ha List.not_mem_nil

/-- `self<u8>, "ImageId"`, where another macro put in the word `self`: `self` takes no arguments
where it is written, so the declaration cannot be read. -/
theorem declaration_again_fails :
    ∃ d i rest f, freestanding (named [.group .invisible [.ident "self" .callSite] .callSite,
          .punct '<' false .callSite, .ident "u8" .callSite, .punct '>' false .callSite]) =
        ⟨some d, .ok (Emission.declaration i d ++ rest)⟩ ∧
      run Grammar.anyItem (Emission.declaration i d) = .error f := by
  have read : Freestanding.parse (named [.group .invisible [.ident "self" .callSite] .callSite,
      .punct '<' false .callSite, .ident "u8" .callSite, .punct '>' false .callSite]) =
        .ok (imageIdOver (ofBytes "self")) := by
    cbv
  have accepted : Validation.validate (imageIdOver (ofBytes "self")) = .ok () :=
    Validation.validate_eq_ok_iff_findings.mpr (by decide +kernel)
  have emits := emits_imageIdOver read accepted
  have fails : ∃ f, run Grammar.anyItem
      (Emission.declaration ⟨"ImageId", .callSite⟩ (imageIdOver (ofBytes "self"))) = .error f := by
    rw [Emission.declaration_eq, Emission.header, Emission.attributes, Emission.derivation,
      Emission.code_comma]
    exact ⟨_, rfl⟩
  obtain ⟨f, fails⟩ := fails
  rw [Emission.items_declaration] at emits
  exact ⟨_, _, _, f, emits, fails⟩

end Expansion

end TypedId
