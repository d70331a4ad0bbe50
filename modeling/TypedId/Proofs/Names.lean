/-
The name of a declaration and the identifier that code is made for. A name
that is an identifier as it stands is emitted as it stands; of any other text
that passes, something was taken away first, so what is emitted differs from
what was asked for.
-/
import TypedId.Emission
import TypedId.Proofs.BeforeComma.Signs
import TypedId.Proofs.Depth
import TypedId.Proofs.Names.Lexing
import TypedId.Validation

namespace TypedId

/-- The text is an identifier as it stands, and no keyword. -/
def IsName (text : String) : Prop := IsIdent text ∧ isKeyword text = false

instance (text : String) : Decidable (IsName text) :=
  inferInstanceAs (Decidable (_ ∧ _))

namespace Name

open Reader

theorem run_identifier_of_word {text : String} {place : Span} (h : isKeyword text = false) :
    run identifier [.ident text place] = .ok ⟨text, place⟩ := by
  have word : Tokens.word? [.ident text place] = some (⟨text, place⟩, []) := rfl
  have read : identifier .top ⟨[.ident text place], none⟩ = .ok (⟨text, place⟩, ⟨[], none⟩) := by
    rw [identifier]
    simp only [word, h, Bool.false_eq_true, if_false]
  rw [run, runIn, read]
  rfl

/-- An identifier that is read stands in front, and nothing that shows is behind it. -/
theorem word?_of_run_identifier {ts : Tokens} {i : Ident} (h : run identifier ts = .ok i) :
    isKeyword i.text = false ∧
      ∃ rest, Tokens.word? ts = some (i, rest) ∧ remainder .invisible rest = none := by
  rw [run, runIn, identifier] at h
  cases hw : Tokens.word? ts with
  | none =>
    simp only [hw] at h
    cases h
  | some w =>
    obtain ⟨j, rest⟩ := w
    simp only [hw] at h
    by_cases hk : isKeyword j.text = true
    · rw [if_pos hk] at h
      cases h
    · rw [if_neg hk] at h
      simp only at h
      split at h
      · cases h
      · next behind =>
        cases h
        exact ⟨by rw [← Bool.not_eq_true]; exact hk, rest, rfl, behind⟩

theorem eq_nil_of_remainder {d : Delimiter} {ts : Tokens} (h : remainder d ts = none)
    (lexed : ∀ t ∈ ts, t.IsLexed) : ts = [] := by
  match ts with
  | [] => rfl
  | .group .invisible .. :: _ => exact absurd rfl (lexed _ (List.mem_cons_self ..))
  | .group .parenthesis .. :: _ | .group .bracket .. :: _ | .group .brace .. :: _ | .ident .. :: _
  | .punct .. :: _ | .literal .. :: _ => cases h

theorem toIdent_of_isName {n : Name} (h : IsName n.text) : n.toIdent = .ok ⟨n.text, n.span⟩ := by
  obtain ⟨place, hl⟩ := lex_of_isIdent h.1 ""
  rw [toIdent, hl]
  simp only [run_identifier_of_word h.2]

/-- Blanks are no identifier. -/
theorem toIdent_of_isAllBlank {n : Name} (h : Text.isAllBlank n.text = true) :
    ∃ f, n.toIdent = .error f := by
  rw [toIdent, lex_of_isAllBlank h]
  exact ⟨_, rfl⟩

/-- Whatever is wrong with a name is wrong at its place. -/
theorem span_of_toIdent {n : Name} {f : Fault} (h : n.toIdent = .error f) : f.span = n.span := by
  rw [toIdent] at h
  split at h
  · cases h
    rfl
  · split at h <;> cases h
    rfl

/-- The identifier is the one token of the text. -/
theorem lex_of_toIdent {n : Name} {i : Ident} (h : n.toIdent = .ok i) :
    isKeyword i.text = false ∧ ∃ place, Lexer.lex "" n.text = some [.ident i.text place] := by
  rw [toIdent] at h
  cases hl : Lexer.lex "" n.text with
  | none => rw [hl] at h; cases h
  | some ts =>
    rw [hl] at h
    simp only at h
    cases hr : run identifier ts with
    | error f => rw [hr] at h; cases h
    | ok w =>
      rw [hr] at h
      cases h
      obtain ⟨hk, rest, hw, hrest⟩ := word?_of_run_identifier hr
      have lexed := isLexed_of_lex hl
      have front : ts = w.token :: rest := by
        rw [← enter_of_isLexed lexed]
        exact Tokens.enter_eq_of_word? hw
      rw [front, List.forall_mem_cons] at lexed
      rw [front, eq_nil_of_remainder hrest lexed.2]
      exact ⟨hk, w.span, rfl⟩

theorem isName_of_toIdent {n : Name} {i : Ident} (h : n.toIdent = .ok i) : IsName i.text := by
  obtain ⟨hk, place, hl⟩ := lex_of_toIdent h
  exact ⟨isLexed_of_lex hl _ (List.mem_singleton_self _), hk⟩

/-- What is emitted is what was asked for exactly if that was an identifier as it stood. -/
theorem toIdent_text_eq_iff {n : Name} {i : Ident} (h : n.toIdent = .ok i) :
    i.text = n.text ↔ IsName n.text := by
  constructor
  · intro same
    rw [← same]
    exact isName_of_toIdent h
  · intro hn
    rw [toIdent_of_isName hn] at h
    cases h
    rfl

end Name

namespace Validation

theorem checkName_of_ok {n : Name} {i : Ident} (h : n.toIdent = .ok i) : checkName n = [] := by
  have shown : Text.isAllBlank n.text = false := by
    rw [← Bool.not_eq_true]
    intro blank
    obtain ⟨f, hf⟩ := Name.toIdent_of_isAllBlank blank
    rw [h] at hf
    cases hf
  rw [checkName, shown, h]
  rfl

theorem checkName_of_isName {n : Name} (h : IsName n.text) : checkName n = [] :=
  checkName_of_ok (Name.toIdent_of_isName h)

theorem toIdent_of_checkName {n : Name} (h : checkName n = []) : ∃ i, n.toIdent = .ok i := by
  rw [checkName] at h
  by_cases hb : Text.isAllBlank n.text = true
  · rw [if_pos hb] at h
    cases h
  · rw [if_neg hb] at h
    cases hi : n.toIdent with
    | ok i => exact ⟨i, rfl⟩
    | error f => rw [hi] at h; cases h

theorem findings_of_validate {d : Declaration} (h : validate d = .ok ()) : findings d = [] :=
  validate_eq_ok_iff_findings.mp h

end Validation

end TypedId
