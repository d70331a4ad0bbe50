/-
Tokens that are spelled out: every identifier in them, at any depth, is one as
it stands. A text is lexed to such tokens (`spelled_of_lex`), and macros that
put in such tokens leave it at that. It stays with what is left of the tokens,
so the words that readers take from them are identifiers (`Reader.Gives.word`).
-/
import TypedId.Token.Substitution
import TypedId.Proofs.Gives
import TypedId.Proofs.Names.Lexing

namespace TypedId

/-! ## Tokens -/

/-- Every identifier in the token is one as it stands. -/
def Token.Spelled (t : Token) : Prop := t.mentions (fun text => !decide (IsIdent text)) = false

instance (t : Token) : Decidable t.Spelled := inferInstanceAs (Decidable (_ = _))

def Tokens.Spelled (ts : Tokens) : Prop := ∀ t ∈ ts, t.Spelled

instance (ts : Tokens) : Decidable ts.Spelled := inferInstanceAs (Decidable (∀ t ∈ ts, t.Spelled))

namespace Token

variable {d : Delimiter} {content : Tokens} {text : String} {place : Span}

@[simp] theorem spelled_ident : (ident text place).Spelled ↔ IsIdent text := by
  simp [Spelled, mentions]

@[simp] theorem spelled_punct (c : Char) (joint : Bool) : (punct c joint place).Spelled := rfl

@[simp] theorem spelled_literal : (literal text place).Spelled := rfl

@[simp] theorem spelled_group : (group d content place).Spelled ↔ content.Spelled := by
  rw [Spelled, mentions]
  induction content with
  | nil => simp [mentionsAny, Tokens.Spelled]
  | cons t ts ih =>
    rw [mentionsAny, Bool.or_eq_false_iff, ih]
    exact (List.forall_mem_cons (p := Spelled)).symm

end Token

namespace Tokens

variable {ts us rest : Tokens} {t : Token}

@[simp] theorem spelled_nil : Spelled [] := List.forall_mem_nil _

@[simp] theorem spelled_cons : Spelled (t :: ts) ↔ t.Spelled ∧ ts.Spelled := List.forall_mem_cons

@[simp] theorem spelled_append : Spelled (ts ++ us) ↔ ts.Spelled ∧ us.Spelled :=
  List.forall_mem_append

mutual

theorem spelled_flat_token (t : Token) : Spelled t.flat ↔ t.Spelled :=
  match t with
  | .group .invisible ts _ => by
    rw [Token.flat, Token.spelled_group]
    exact spelled_flat ts
  | .group .parenthesis .. | .group .bracket .. | .group .brace .. | .ident .. | .punct ..
  | .literal .. => by simp [Token.flat]

/-- Invisible groups do not count. -/
theorem spelled_flat (ts : Tokens) : ts.flat.Spelled ↔ ts.Spelled :=
  match ts with
  | [] => Iff.rfl
  | t :: ts => by
    rw [flat_cons, spelled_append, spelled_cons, spelled_flat_token t, spelled_flat ts]

end

theorem Spelled.of_leaves (h : ts.Spelled) (leaves : Leaves ts rest) : rest.Spelled := by
  rw [← spelled_flat] at h ⊢
  exact fun t ht => h t (leaves.subset ht)

theorem Spelled.of_enter (h : ts.Spelled) (he : ts.enter = t :: rest) : t.Spelled := by
  rw [← spelled_flat, flat_of_enter he, spelled_append, spelled_flat_token] at h
  exact h.1

theorem Spelled.of_group? {d : Delimiter} {content : Tokens} {place : Span} (h : ts.Spelled)
    (hg : group? d ts = some (content, place, rest)) : content.Spelled := by
  by_cases hd : d = .invisible
  · rw [group?, if_pos hd] at hg
    split at hg
    · split at hg
      · cases hg
        exact Token.spelled_group.mp (spelled_cons.mp h).1
      · cases hg
    · cases hg
  · exact Token.spelled_group.mp (h.of_enter (enter_eq_of_group? hd hg))

end Tokens

/-! ## Lexing and macros -/

theorem spelled_of_lex {source text : String} {ts : Tokens} (h : Lexer.lex source text = some ts) :
    ts.Spelled :=
  all_of_lex ⟨fun _ _ word => Token.spelled_ident.mpr word, fun _ _ _ => rfl, fun _ _ => rfl,
    fun _ _ _ _ inner => Token.spelled_group.mpr inner⟩ h

mutual

theorem Token.Spelled.moveTo (place : Span) {t : Token} (h : t.Spelled) :
    (t.moveTo place).Spelled :=
  match t with
  | .group .. => by
    rw [Token.moveTo, Token.spelled_group]
    exact Tokens.Spelled.moveTo place (Token.spelled_group.mp h)
  | .ident .. => by
    rw [Token.moveTo]
    exact h
  | .punct .. => by rw [Token.moveTo]; rfl
  | .literal .. => by rw [Token.moveTo]; rfl

theorem Tokens.Spelled.moveTo (place : Span) {ts : Tokens} (h : ts.Spelled) :
    (ts.moveTo place).Spelled :=
  match ts with
  | [] => h
  | _ :: _ =>
    have ⟨first, others⟩ := Tokens.spelled_cons.mp h
    Tokens.spelled_cons.mpr ⟨first.moveTo place, others.moveTo place⟩

end

mutual

theorem Token.Spelled.substitute {fragment : String → Option Tokens}
    (spelled : ∀ name ts, fragment name = some ts → ts.Spelled) {t : Token} (h : t.Spelled) :
    (t.substitute fragment).Spelled :=
  match t with
  | .group .. =>
    Token.spelled_group.mpr (Tokens.Spelled.substitute spelled (Token.spelled_group.mp h))
  | .ident name place => by
    rw [Token.substitute]
    split
    · next ts found => exact Token.spelled_group.mpr ((spelled name ts found).moveTo place)
    · exact h
  | .punct .. | .literal .. => h

theorem Tokens.Spelled.substitute {fragment : String → Option Tokens}
    (spelled : ∀ name ts, fragment name = some ts → ts.Spelled) {ts : Tokens} (h : ts.Spelled) :
    Tokens.Spelled (Token.substituteAll fragment ts) :=
  match ts with
  | [] => h
  | _ :: _ =>
    have ⟨first, others⟩ := Tokens.spelled_cons.mp h
    Tokens.spelled_cons.mpr ⟨first.substitute spelled, others.substitute spelled⟩

end

/-! ## Readers -/

instance : Tokens.Lasting Tokens.Spelled := ⟨Tokens.Spelled.of_leaves, Tokens.Spelled.of_group?⟩

namespace Reader

theorem Gives.word : word.Gives Tokens.Spelled fun i => IsIdent i.text := by
  intro s c i c' spelled h
  obtain ⟨rest, front, -⟩ := word_eq_ok_iff.mp h
  exact Token.spelled_ident.mp (spelled.of_enter front)

theorem Gives.identifier : identifier.Gives Tokens.Spelled fun i => IsIdent i.text := by
  intro s c i c' spelled h
  rw [Reader.identifier] at h
  split at h
  · next w rest front =>
    split at h
    · cases h
    · cases h
      exact Token.spelled_ident.mp (spelled.of_enter (Tokens.enter_eq_of_word? front))
  · cases h

end Reader

end TypedId
