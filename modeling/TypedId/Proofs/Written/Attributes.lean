/-
Attributes are written back as they were read, but for values that are an
unusual expression. `Attribute.readsAs_self`: any other attribute is read as
itself again. Of an attribute with an unusual value, `Attribute.ReadsAs` says
what it is read as; path and place are the same again, only the value may
differ.
-/
import Mathlib.Data.List.Forall2
import TypedId.Proofs.Depth.Items
import TypedId.Proofs.Written.Usual

namespace TypedId

open Reader

/-! ## What an attribute can be -/

/-- The value is neither one literal nor a usual expression. -/
def AttributeBody.IsUnusual : AttributeBody → Prop
  | .value _ ts => Tokens.value? ts ≠ some (ts, []) ∧
      ¬ ((Tokens.value? ts).any (·.2.isEmpty) = false ∧ Grammar.Usual (.expression ts))
  | _ => False

/-- An attribute that can be read in front of a declaration. -/
structure Attribute.Outer (a : Attribute) : Prop where
  bang : a.bang = none
  path : a.path.Plain ∨ ∃ place, a.path = .ofIdent ⟨"unsafe", place⟩
  delimiter : ∀ d content place, a.body = .list d content place → d ≠ .invisible

/-- The attribute, as it is written, is read as another one of the same text. -/
structure Attribute.ReadsAs (a b : Attribute) : Prop where
  read : run (Grammar.whole Grammar.outerAttribute) a.tokens = .ok b
  text : b.tokens.shown = a.tokens.shown

namespace Grammar

variable {g : Grammar} {s : Scope}

/-- A list is one group, and no other form of a body gives a list. -/
theorem anyGroup_of_attributeBody {d : Delimiter} {content : Tokens} {place : Span}
    {c c' : Cursor} (h : attributeBody g s c = .ok (.list d content place, c')) :
    anyGroup s c = .ok ((d, content, place), c') := by
  rw [attributeBody, peekAny_bind] at h
  split at h
  · obtain ⟨⟨d', content', place'⟩, c₁, hg, h⟩ := bind_eq_ok_iff.mp h
    cases h
    exact hg
  · exfalso
    simp only [peek_bind] at h
    split at h
    · obtain ⟨equals, c₁, -, h⟩ := bind_eq_ok_iff.mp h
      obtain ⟨alone, c₂, -, h⟩ := bind_eq_ok_iff.mp h
      split at h
      · obtain ⟨ts, c₃, -, h⟩ := bind_eq_ok_iff.mp h
        cases h
      · obtain ⟨hash, c₃, -, h⟩ := bind_eq_ok_iff.mp h
        obtain ⟨bracket, c₄, -, h⟩ := bind_eq_ok_iff.mp h
        split at h
        · cases h
        · obtain ⟨e, c₅, -, h⟩ := bind_eq_ok_iff.mp h
          cases h
    · cases h

theorem delimiter_of_attributeBody {d : Delimiter} {content : Tokens} {place : Span}
    {c c' : Cursor} (h : attributeBody g s c = .ok (.list d content place, c')) :
    d ≠ .invisible := by
  have hg := anyGroup_of_attributeBody h
  rw [anyGroup] at hg
  split at hg
  · split at hg
    · cases hg
    · next visible =>
      cases hg
      exact visible
  · cases hg

theorem attributeContent_of_ok {p : Path} {b : AttributeBody} {c c' : Cursor}
    (h : attributeContent g s c = .ok ((p, b), c')) :
    (p.Plain ∨ ∃ place, p = .ofIdent ⟨"unsafe", place⟩) ∧
      ∃ c₁, attributeBody g s c₁ = .ok (b, c') := by
  rw [attributeContent, peek_bind] at h
  split at h
  · next shows =>
    obtain ⟨p', c₁, hp, h⟩ := bind_eq_ok_iff.mp h
    obtain ⟨b', c₂, hb, h⟩ := bind_eq_ok_iff.mp h
    cases h
    rw [map_eq_bind] at hp
    obtain ⟨w, c₃, hw, hp⟩ := bind_eq_ok_iff.mp hp
    cases hp
    obtain ⟨rest, word, rfl⟩ := word_eq_ok_iff.mp hw
    have text : w.text = "unsafe" := by
      simpa [Sign.shows, Tokens.word?_of_enter word] using shows
    exact ⟨.inr ⟨w.span, by rw [← text]⟩, _, hb⟩
  · obtain ⟨p', c₁, hp, h⟩ := bind_eq_ok_iff.mp h
    obtain ⟨b', c₂, hb, h⟩ := bind_eq_ok_iff.mp h
    cases h
    exact ⟨.inl (plain_of_plainPath hp), _, hb⟩

theorem outer_of_outerAttribute {a : Attribute} {c c' : Cursor}
    (h : outerAttribute g s c = .ok (a, c')) : a.Outer := by
  rw [outerAttribute] at h
  obtain ⟨hash, c₁, -, h⟩ := bind_eq_ok_iff.mp h
  obtain ⟨⟨bracket, path, body⟩, c₂, hg, h⟩ := bind_eq_ok_iff.mp h
  cases h
  obtain ⟨content, rest, c₃, _, inner, _⟩ := group_of_ok hg
  obtain ⟨known, c₄, hb⟩ := attributeContent_of_ok inner
  refine ⟨rfl, known, ?_⟩
  rintro d content place rfl
  exact delimiter_of_attributeBody hb

/-! ## Reading what was written -/

theorem unsafe_not_shown {p : Path} (h : p.Plain) (ts : Tokens) :
    (Sign.keyword "unsafe").shows (p.tokens ++ ts) = false := by
  obtain ⟨head, tail⟩ := h
  next absolute first others =>
  obtain ⟨us, mid, lead, word, -⟩ := Tokens.lead_written absolute first others ts
  cases absolute with
  | none =>
    have front := Tokens.word?_of_enter (lead ▸ word)
    have other : first.text ≠ "unsafe" := by
      intro same
      rw [same] at head
      exact absurd head (by decide)
    simp [Sign.shows, front, other]
  | some place =>
    obtain ⟨_, _, _, _, front, -⟩ := lead
    simp [Sign.shows, Tokens.word?, front]

/-- The path is read back, and then the body. -/
theorem attributeContent_written {p : Path}
    (h : p.Plain ∨ ∃ place, p = .ofIdent ⟨"unsafe", place⟩) {ts : Tokens}
    (stop : (Sign.operator "::").shows ts = false) :
    attributeContent g s ⟨p.tokens ++ ts, none⟩ =
      (attributeBody g s ⟨ts, none⟩).map fun r => ((p, r.1), r.2) := by
  have behind : (do return (p, ← attributeBody g) : Reader (Path × AttributeBody)) s ⟨ts, none⟩ =
      (attributeBody g s ⟨ts, none⟩).map fun r => ((p, r.1), r.2) := by
    rw [bind_apply]
    cases attributeBody g s ⟨ts, none⟩ <;> rfl
  rw [← behind, attributeContent, peek_bind]
  rcases h with plain | ⟨place, rfl⟩
  · rw [if_neg (by rw [unsafe_not_shown plain]; exact Bool.false_ne_true), bind_apply,
      plainPath_written plain s none stop]
  · rfl

theorem shows_colons_body (b : AttributeBody)
    (h : ∀ d content place, b = .list d content place → d ≠ .invisible) :
    (Sign.operator "::").shows b.tokens = false := by
  cases b with
  | bare => rfl
  | value equals ts => rfl
  | list d content place =>
    cases d with
    | invisible => exact absurd rfl (h _ _ _ rfl)
    | parenthesis | bracket | brace => rfl

theorem outerAttribute_written {a : Attribute} (h : a.Outer) (rest : Tokens) :
    outerAttribute g s ⟨a.tokens ++ rest, none⟩ =
      (attributeBody g ⟨a.bracket.closing, .bracket⟩ ⟨a.body.tokens, none⟩).map fun r =>
        ({ a with body := r.1 }, ⟨rest, r.2.stray <|> remainder .bracket r.2.rest⟩) := by
  obtain ⟨hash, bang, bracket, path, body⟩ := a
  obtain ⟨rfl, known, delimiter⟩ := h
  have mark : operator "#" s
      ⟨.punct '#' false hash :: .group .bracket (path.tokens ++ body.tokens) bracket :: rest, none⟩ =
      .ok ([.punct '#' false hash],
        ⟨.group .bracket (path.tokens ++ body.tokens) bracket :: rest, none⟩) := rfl
  have front : Tokens.group? .bracket
      (.group .bracket (path.tokens ++ body.tokens) bracket :: rest) =
      some (path.tokens ++ body.tokens, bracket, rest) := rfl
  have content := attributeContent_written (g := g) (s := ⟨bracket.closing, .bracket⟩) known
    (shows_colons_body body delimiter)
  rw [Attribute.tokens, Option.map_none, Option.getD_none, List.nil_append, List.cons_append,
    List.cons_append, List.nil_append, outerAttribute, bind_apply, mark]
  simp only [bind_apply, group, groupThen, front, content]
  cases attributeBody g ⟨bracket.closing, .bracket⟩ ⟨body.tokens, none⟩ with
  | error f => rfl
  | ok r =>
    simp only [Tokens.span_singleton]
    rfl

/-! ## Attributes without an unusual value -/

/-- What is read behind the equals sign. -/
theorem attributeBody_value (equals : Span) (ts : Tokens) :
    attributeBody g s ⟨.punct '=' false equals :: ts, none⟩ = (do
      if ← look fun ts => (Tokens.value? ts).any (·.2.isEmpty) then
        return .value equals (← literal)
      else if (← peek (.operator "#")) && (← peek2 (.group .bracket)) then
        complain .attributeInAttribute
      else return .value equals (← g.expression true).tokens : Reader AttributeBody)
        s ⟨ts, none⟩ := by
  have mark : operator "=" s ⟨.punct '=' false equals :: ts, none⟩ =
      .ok ([.punct '=' false equals], ⟨ts, none⟩) := rfl
  have noGroup : [Sign.group .parenthesis, .group .bracket, .group .brace].any
      (·.shows (.punct '=' false equals :: ts)) = false := rfl
  have shown : (Sign.operator "=").shows (.punct '=' false equals :: ts) = true := rfl
  have one : (Sign.operator "==").shows (.punct '=' false equals :: ts) = false := rfl
  have noArrow : (Sign.operator "=>").shows (.punct '=' false equals :: ts) = false := rfl
  rw [attributeBody, peekAny_bind, noGroup, if_neg Bool.false_ne_true, peek_bind, peek_bind,
    peek_bind, shown, one, noArrow]
  simp only [Bool.not_false, Bool.and_true, if_true]
  rw [bind_apply, mark]
  simp only [Tokens.span_singleton]
  rfl

theorem attributeBody_literal {ts : Tokens} (lone : Tokens.value? ts = some (ts, []))
    (equals : Span) :
    attributeBody g s ⟨(AttributeBody.value equals ts).tokens, none⟩ =
      .ok (.value equals ts, ⟨[], none⟩) := by
  have taken : literal s ⟨ts, none⟩ = .ok (ts, ⟨[], none⟩) := by
    simp only [literal, lone]
  rw [AttributeBody.tokens, attributeBody_value, bind_apply, look]
  simp only [lone, Option.any_some, List.isEmpty_nil, if_true, bind_apply, taken]
  rfl

theorem attributeBody_usual {ts : Tokens} (noLiteral : (Tokens.value? ts).any (·.2.isEmpty) = false)
    (h : Usual (.expression ts)) {n : Nat} (hn : ts.weight ≤ n) (equals : Span) :
    attributeBody (deep (n + 1)) s ⟨(AttributeBody.value equals ts).tokens, none⟩ =
      .ok (.value equals ts, ⟨[], none⟩) := by
  have reads : ReadsExpression (expressionOnce (deep n) true) ts := reads_of_usual h n hn
  obtain ⟨e, read, same⟩ := reads.whole s
  have expression : (deep (n + 1)).expression true s ⟨ts, none⟩ = .ok (e, ⟨[], none⟩) := read
  have noAttribute := reads.front.not_shows (show Sign.operator "#" ∈ _ by decide) []
  rw [List.append_nil] at noAttribute
  rw [AttributeBody.tokens, attributeBody_value, bind_apply, look]
  simp only [noLiteral, Bool.false_eq_true, if_false, peek_bind, peek2, noAttribute]
  simp only [bind_apply, look, Bool.false_and, Bool.false_eq_true, if_false, expression, same]
  rfl

theorem attributeBody_self {b : AttributeBody} (h : ¬ b.IsUnusual)
    (visible : ∀ d content place, b = .list d content place → d ≠ .invisible) {n : Nat}
    (hn : Tokens.weight b.tokens ≤ n) :
    attributeBody (deep (n + 1)) s ⟨b.tokens, none⟩ = .ok (b, ⟨[], none⟩) := by
  cases b with
  | bare => rfl
  | list d content place =>
    cases d with
    | invisible => exact absurd rfl (visible _ _ _ rfl)
    | parenthesis | bracket | brace => rfl
  | value equals ts =>
    by_cases lone : Tokens.value? ts = some (ts, [])
    · exact attributeBody_literal lone equals
    · obtain ⟨noLiteral, usual⟩ : (Tokens.value? ts).any (·.2.isEmpty) = false ∧
          Usual (.expression ts) := by
        by_contra other
        exact h ⟨lone, other⟩
      rw [AttributeBody.tokens, Tokens.weight_cons] at hn
      exact attributeBody_usual noLiteral usual (by omega) equals

/-- **Attributes without an unusual value** read back as themselves. -/
theorem readsAs_self {a : Attribute} (h : a.Outer) (plain : ¬ a.body.IsUnusual) :
    a.ReadsAs a := by
  have inside : Tokens.weight a.body.tokens ≤ Tokens.weight a.tokens := by
    simp [Attribute.tokens]
    omega
  have body := attributeBody_self (s := ⟨a.bracket.closing, .bracket⟩) plain h.delimiter inside
  have read := outerAttribute_written (g := deep (a.tokens.weight + 1)) (s := .top) h []
  rw [List.append_nil, body] at read
  exact ⟨runIn_eq_ok_iff.mpr ⟨[], read, rfl⟩, rfl⟩

/-! ## Attributes in a row -/

theorem body_of_readsAs {a b : Attribute} (outer : a.Outer) (h : a.ReadsAs b) :
    ∃ body c, attributeBody (deep (a.tokens.weight + 1)) ⟨a.bracket.closing, .bracket⟩
      ⟨a.body.tokens, none⟩ = .ok (body, c) ∧
      (c.stray <|> remainder .bracket c.rest) = none ∧ b = { a with body } := by
  obtain ⟨rest, read, -⟩ := runIn_eq_ok_iff.mp h.read
  have written := outerAttribute_written (g := deep (a.tokens.weight + 1)) (s := .top) outer []
  rw [List.append_nil] at written
  replace read := written.symm.trans read
  cases hb : attributeBody (deep (a.tokens.weight + 1)) ⟨a.bracket.closing, .bracket⟩
      ⟨a.body.tokens, none⟩ with
  | error f =>
    rw [hb] at read
    cases read
  | ok r =>
    rw [hb] at read
    obtain ⟨body, c⟩ := r
    simp only [Except.map, Except.ok.injEq, Prod.mk.injEq, Cursor.mk.injEq] at read
    exact ⟨body, c, rfl, read.2.2, read.1.symm⟩

/-- What an attribute is read as by itself, it is read as anywhere. -/
theorem outerAttribute_again {a b : Attribute} (outer : a.Outer) (h : a.ReadsAs b) {n : Nat}
    (hn : a.tokens.weight + 1 ≤ n) (s : Scope) (rest : Tokens) :
    outerAttribute (deep n) s ⟨a.tokens ++ rest, none⟩ = .ok (b, ⟨rest, none⟩) := by
  obtain ⟨body, c, read, clean, rfl⟩ := body_of_readsAs outer h
  have deeper := (attributeBody_mono (deep_mono hn)).of_ok read
  rw [outerAttribute_written outer, deeper]
  simp only [Except.map, clean]

theorem outerAttributes_ends {as bs : List Attribute} (outer : ∀ a ∈ as, a.Outer)
    (h : List.Forall₂ Attribute.ReadsAs as bs) {n : Nat}
    (hn : ∀ a ∈ as, a.tokens.weight + 1 ≤ n) {rest : Tokens}
    (stop : (Sign.operator "#").shows rest = false) (s : Scope) (read : List Attribute) :
    Ends (fun read => do
      if ← peek (.operator "#") then return .again (read ++ [← outerAttribute (deep n)])
      else return .done read) s (as.length + 1) read
      ⟨as.flatMap Attribute.tokens ++ rest, none⟩ (.ok (read ++ bs, ⟨rest, none⟩)) := by
  induction h generalizing read with
  | nil =>
    rw [List.append_nil]
    refine .done ?_
    rw [peek_bind, List.flatMap_nil, List.nil_append, stop, if_neg Bool.false_ne_true]
    rfl
  | @cons a b as bs first more ih =>
    rw [List.forall_mem_cons] at outer hn
    have one := outerAttribute_again outer.1 first hn.1 s (as.flatMap Attribute.tokens ++ rest)
    have later := ih outer.2 hn.2 (read ++ [b])
    rw [List.append_assoc, List.singleton_append] at later
    have hash : (Sign.operator "#").shows
        (a.tokens ++ (as.flatMap Attribute.tokens ++ rest)) = true := rfl
    refine .again ?_ later
    rw [List.flatMap_cons, List.append_assoc, peek_bind]
    simp only [hash, if_true, bind_apply, one]
    rfl

/-- **Attributes in a row** are read as what each of them is read as. -/
theorem outerAttributes_again {as bs : List Attribute} (outer : ∀ a ∈ as, a.Outer)
    (h : List.Forall₂ Attribute.ReadsAs as bs) {n : Nat}
    (hn : ∀ a ∈ as, a.tokens.weight + 1 ≤ n) {rest : Tokens}
    (stop : (Sign.operator "#").shows rest = false) (s : Scope) :
    outerAttributes (deep n) s ⟨as.flatMap Attribute.tokens ++ rest, none⟩ =
      .ok (bs, ⟨rest, none⟩) := by
  refine loop_of_ends (outerAttributes_ends outer h hn stop s []) (Nat.succ_le_succ ?_)
  calc as.length ≤ Tokens.weight (as.flatMap Attribute.tokens) :=
        Tokens.length_le_weight fun _ _ => List.cons_ne_nil _ _
    _ ≤ Tokens.weight (as.flatMap Attribute.tokens ++ rest) := by simp

end Grammar

end TypedId
