/-
What is written before a struct, read back. The derived traits are one list of
paths in one attribute, and `splitDerives_again` takes just that attribute out
again; all others come back with the text they were written with.
-/
import TypedId.Proofs.Written.Struct

namespace TypedId

open Reader

/-! ## Fixed tokens -/

namespace Emission

theorem piece_mark {c : Char} (h : c ∈ Text.plainMarks) :
    piece [c] = [.punct c false .callSite] := by
  rw [piece, Text.not_isIdentStart h, if_neg Bool.false_ne_true]
  rfl

theorem code_mark {text : String} {c : Char} (one : words text.toList = [[c]])
    (h : c ∈ Text.plainMarks) : code text = [.punct c false .callSite] := by
  rw [code, one, List.flatMap_singleton, piece_mark h]

theorem code_word_mark {text word : String} {c : Char}
    (two : words text.toList = [word.toList, [c]])
    (hw : piece word.toList = [.ident word .callSite]) (hc : c ∈ Text.plainMarks) :
    code text = [.ident word .callSite, .punct c false .callSite] := by
  rw [code, two, List.flatMap_cons, List.flatMap_singleton, hw, piece_mark hc]
  rfl

theorem code_hash : code "#" = [.punct '#' false .callSite] :=
  code_mark (by decide +kernel) (by decide)

theorem code_comma : code "," = [.punct ',' false .callSite] :=
  code_mark (by decide +kernel) (by decide)

theorem code_semicolon : code ";" = [.punct ';' false .callSite] :=
  code_mark (by decide +kernel) (by decide)

theorem code_doc : code "doc =" = [.ident "doc" .callSite, .punct '=' false .callSite] :=
  code_word_mark (by decide +kernel) rfl (by decide)

theorem code_rawValue :
    code "raw_value :" = [.ident "raw_value" .callSite, .punct ':' false .callSite] :=
  code_word_mark (by decide +kernel) rfl (by decide)

/-! ## The attributes that are written -/

/-- A documenting attribute. -/
def docAttribute (text : String) : Attribute where
  hash := .callSite
  bang := none
  bracket := .callSite
  path := .ofIdent ⟨"doc", .callSite⟩
  body := .value .callSite [.literal (Text.stringLiteral text) .callSite]

theorem doc_eq (text : String) : doc text = (docAttribute text).tokens := by
  rw [doc, code_hash, code_doc]
  rfl

/-- The attribute that derives the traits. -/
def derivation (cs : List Capability) : Attribute where
  hash := .callSite
  bang := none
  bracket := .callSite
  path := .ofIdent ⟨"derive", .callSite⟩
  body := .list .parenthesis (((deriveList cs).map Path.tokens).intersperse (code ",")).flatten
    .callSite

theorem deriveAttribute_eq (cs : List Capability) :
    deriveAttribute cs = (derivation cs).tokens := by
  rw [deriveAttribute, code_hash]
  rfl

/-- The attributes that document the struct. -/
def documenting : Form → List Attribute
  | .freestanding => [docAttribute "Strongly typed identifier declared with `new_identifier!`."]
  | .attached => []

theorem documentation_eq (form : Form) :
    documentation form = (documenting form).flatMap Attribute.tokens := by
  cases form with
  | freestanding => exact (doc_eq _).trans (List.append_nil _).symm
  | attached => rfl

/-- The attributes before the struct. -/
def attributes (d : Declaration) : List Attribute :=
  documenting d.form ++ derivation d.capabilities :: d.attributes

/-- The struct up to its body. -/
def header (i : Ident) (d : Declaration) : Tokens :=
  (attributes d).flatMap Attribute.tokens ++
    (d.visibility.tokens ++ [.ident "struct" .callSite, i.token])

/-- What the body holds. -/
def fields (d : Declaration) : Tokens :=
  (docAttribute "Raw value wrapped by this identifier.").tokens ++
    (d.visibility.tokens ++ .ident "raw_value" .callSite :: .punct ':' false .callSite ::
      (d.rawType.tokens ++ [.punct ',' false .callSite]))

theorem declaration_eq (i : Ident) (d : Declaration) :
    declaration i d = header i d ++ [.group .brace (fields d) .callSite] := by
  have struct : code "struct" = [.ident "struct" .callSite] := rfl
  rw [declaration, header, attributes, fields, documentation_eq, deriveAttribute_eq, doc_eq, struct,
    code_rawValue, code_comma, List.flatMap_append, List.flatMap_cons]
  simp [braces]

end Emission

/-! ## The attributes read back -/

namespace Emission

theorem paths_written {ps : List Path} (h : ∀ p ∈ ps, p.IsWords) :
    Tokens.Paths ((ps.map Path.tokens).intersperse (code ",")).flatten ps := by
  induction ps with
  | nil => exact .nil
  | cons p ps ih =>
    rw [List.forall_mem_cons] at h
    obtain ⟨absolute, first, others, rfl⟩ := h.1
    cases ps with
    | nil =>
      have path := Tokens.pathAt_written absolute first others []
      simpa using Tokens.Paths.last path
    | cons q ps =>
      have path := Tokens.pathAt_written absolute first others
        (code "," ++ (((q :: ps).map Path.tokens).intersperse (code ",")).flatten)
      have comma : Tokens.Comma
          (code "," ++ (((q :: ps).map Path.tokens).intersperse (code ",")).flatten)
          (((q :: ps).map Path.tokens).intersperse (code ",")).flatten := by
        rw [code_comma]
        exact ⟨false, .callSite, rfl⟩
      simpa using Tokens.Paths.cons path comma (ih h.2)

theorem isWords_deriveList {cs : List Capability} (h : ∀ c ∈ cs, c.path.IsWords) :
    ∀ p ∈ deriveList cs, p.IsWords := by
  intro p hp
  rcases List.mem_append.mp hp with asked | added
  · obtain ⟨c, hc, rfl⟩ := List.mem_map.mp asked
    exact h c hc
  · obtain ⟨r, -, rfl⟩ := List.mem_map.mp added
    exact ⟨none, ⟨r, .callSite⟩, [], rfl⟩

theorem outer_docAttribute (text : String) : (docAttribute text).Outer where
  bang := rfl
  path := .inl (Path.plain_ofIdent (by decide))
  delimiter := nofun

theorem readsAs_docAttribute (text : String) : (docAttribute text).ReadsAs (docAttribute text) :=
  Grammar.readsAs_self (outer_docAttribute text) fun h => h.1 rfl

theorem outer_derivation (cs : List Capability) : (derivation cs).Outer where
  bang := rfl
  path := .inl (Path.plain_ofIdent (by decide))
  delimiter := by
    rintro d content place ⟨⟩
    decide

theorem readsAs_derivation (cs : List Capability) : (derivation cs).ReadsAs (derivation cs) :=
  Grammar.readsAs_self (outer_derivation cs) nofun

theorem outer_attributes {d : Declaration} (plain : d.Plain) : ∀ a ∈ attributes d, a.Outer := by
  intro a ha
  rcases List.mem_append.mp ha with documents | other
  · cases hf : d.form with
    | freestanding =>
      rw [hf] at documents
      rw [List.mem_singleton.mp documents]
      exact outer_docAttribute _
    | attached =>
      rw [hf] at documents
      exact absurd documents List.not_mem_nil
  · rcases List.mem_cons.mp other with rfl | kept
    · exact outer_derivation _
    · exact (plain.attributes a kept).1

/-- The attributes, as they are read again. -/
def attributesAgain (d : Declaration) (bs : List Attribute) : List Attribute :=
  documenting d.form ++ derivation d.capabilities :: bs

theorem attributes_readAs {d : Declaration} {bs : List Attribute}
    (h : List.Forall₂ Attribute.ReadsAs d.attributes bs) :
    List.Forall₂ Attribute.ReadsAs (attributes d) (attributesAgain d bs) := by
  rw [attributes, attributesAgain]
  have kept := List.Forall₂.cons (readsAs_derivation d.capabilities) h
  cases d.form with
  | freestanding => exact .cons (readsAs_docAttribute _) kept
  | attached => exact kept

theorem isDerive_of_readsAs {a b : Attribute} (outer : a.Outer) (h : a.ReadsAs b) :
    b.isDerive = a.isDerive := by
  obtain ⟨body, c, -, -, rfl⟩ := Grammar.body_of_readsAs outer h
  rfl

theorem kept_again {as bs : List Attribute} (kept : ∀ a ∈ as, a.Outer ∧ a.isDerive = false)
    (h : List.Forall₂ Attribute.ReadsAs as bs) : ∀ b ∈ bs, b.isDerive = false := by
  induction h with
  | nil => exact fun b hb => absurd hb List.not_mem_nil
  | cons first more ih =>
    rw [List.forall_mem_cons] at kept ⊢
    exact ⟨(isDerive_of_readsAs kept.1.1 first).trans kept.1.2, ih kept.2⟩

/-- **The derived traits read back**, all of them from the one attribute, and no other attribute is
taken for one that derives. -/
theorem splitDerives_again {d : Declaration} (plain : d.Plain) {bs : List Attribute}
    (h : List.Forall₂ Attribute.ReadsAs d.attributes bs) :
    splitDerives (attributesAgain d bs) =
      .ok ((deriveList d.capabilities).map Capability.mk, documenting d.form ++ bs) := by
  have documents : ∀ a ∈ documenting d.form, a.isDerive = false := by
    cases d.form with
    | freestanding => decide
    | attached => exact fun a ha => absurd ha List.not_mem_nil
  have others := kept_again plain.attributes h
  have derives : (derivation d.capabilities).isDerive = true := rfl
  have lists : (derivation d.capabilities).Lists (deriveList d.capabilities) :=
    ⟨_, _, _, rfl, paths_written (isWords_deriveList plain.capabilities)⟩
  have only : (attributesAgain d bs).filter (·.isDerive) = [derivation d.capabilities] := by
    rw [attributesAgain, List.filter_append, List.filter_cons_of_pos derives,
      List.filter_eq_nil_iff.mpr (by simpa using documents),
      List.filter_eq_nil_iff.mpr (by simpa using others), List.nil_append]
  have left : (attributesAgain d bs).filter (!·.isDerive) = documenting d.form ++ bs := by
    rw [attributesAgain, List.filter_append, List.filter_cons_of_neg (by simp [derives]),
      List.filter_eq_self.mpr (by simpa using documents),
      List.filter_eq_self.mpr (by simpa using others)]
  refine splitDerives_eq_ok_iff.mpr ⟨⟨[deriveList d.capabilities], ?_, by simp⟩, left.symm⟩
  rw [only]
  exact .cons lists .nil

/-- Attributes without an expression always read back, so only the others may not. -/
theorem exists_readsAs {as : List Attribute} (outer : ∀ a ∈ as, a.Outer)
    (values : ∀ a ∈ as, a.body.IsUnusual → ∃ b, a.ReadsAs b) :
    ∃ bs, List.Forall₂ Attribute.ReadsAs as bs := by
  induction as with
  | nil => exact ⟨[], .nil⟩
  | cons a as ih =>
    rw [List.forall_mem_cons] at outer values
    obtain ⟨bs, more⟩ := ih outer.2 values.2
    by_cases holds : a.body.IsUnusual
    · obtain ⟨b, first⟩ := values.1 holds
      exact ⟨b :: bs, .cons first more⟩
    · exact ⟨a :: bs, .cons (Grammar.readsAs_self outer.1 holds) more⟩

end Emission

/-! ## The text of attributes -/

theorem Attribute.shown_append {a : Attribute} (outer : a.bang = none) {rest : Tokens}
    (h : rest ≠ []) : Tokens.shown (a.tokens ++ rest) = a.tokens.shown ++ " " ++ rest.shown := by
  obtain ⟨t, ts, rfl⟩ := List.exists_cons_of_ne_nil h
  obtain ⟨hash, bang, bracket, path, body⟩ := a
  subst outer
  simp [Tokens.shown, Attribute.tokens, Token.shownAll, Token.isJoint, String.append_assoc]

theorem shown_attributes {as bs : List Attribute} (outer : ∀ a ∈ as, a.Outer)
    (h : List.Forall₂ Attribute.ReadsAs as bs) {rest : Tokens} (hr : rest ≠ []) :
    Tokens.shown (as.flatMap Attribute.tokens ++ rest) =
      Tokens.shown (bs.flatMap Attribute.tokens ++ rest) := by
  induction h with
  | nil => rfl
  | @cons a b as bs first more ih =>
    rw [List.forall_mem_cons] at outer
    have bang : b.bang = none := by
      obtain ⟨body, c, -, -, rfl⟩ := Grammar.body_of_readsAs outer.1 first
      exact outer.1.bang
    have more' : ∀ cs : List Attribute, cs.flatMap Attribute.tokens ++ rest ≠ [] := by
      intro cs h
      exact hr (List.append_eq_nil_iff.mp h).2
    rw [List.flatMap_cons, List.flatMap_cons, List.append_assoc, List.append_assoc,
      Attribute.shown_append outer.1.bang (more' _), Attribute.shown_append bang (more' _),
      first.text, ih outer.2]

end TypedId
