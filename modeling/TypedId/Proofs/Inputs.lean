/-
Which inputs are read. The readers leave out every piece that is missing and
report that later; what passes in the end is told here without these
detours. `Freestanding.declares_iff`: a visibility, a type, a comma and a
name in quotes, and options behind another comma. `Attached.augments_iff`:
a type and options in the arguments, and a struct that can be filled in.
-/
import Mathlib.Data.List.Forall2
import TypedId.Freestanding
import TypedId.Attached
import TypedId.Proofs.BeforeComma.Types
import TypedId.Proofs.Forward.Types
import TypedId.Proofs.PathLists

namespace TypedId

/-! ## The end of an input -/

namespace Tokens

/-- Nothing, or a comma and options, which may be none. -/
def OptionsBehind (ts os : Tokens) : Prop := ts = [] ∧ os = [] ∨ ts.Comma os

theorem Comma.flat {ts rest : Tokens} (h : ts.Comma rest) :
    ∃ joint place, ts.flat = .punct ',' joint place :: rest.flat := by
  obtain ⟨joint, place, he⟩ := h
  exact ⟨joint, place, flat_of_enter he⟩

theorem Text.flat {ts rest : Tokens} {l : TextLiteral} (h : ts.Text l rest) :
    ∃ written, ts.flat = .literal written l.span :: rest.flat := by
  obtain ⟨written, he, -⟩ := h
  exact ⟨written, flat_of_enter he⟩

theorem OptionsBehind.flat {ts os : Tokens} (h : ts.OptionsBehind os) :
    ts.flat = [] ∧ os = [] ∨ ∃ joint place, ts.flat = .punct ',' joint place :: os.flat := by
  rcases h with ⟨rfl, rfl⟩ | comma
  · exact .inl ⟨rfl, rfl⟩
  · exact .inr comma.flat

end Tokens

namespace Reader

/-- At the start of an input, or behind what was read before, the reader gives the value and takes
just what is shown by these tokens. -/
def Takes {α : Type} (p : Reader α) (c : Cursor) (a : α) (taken : Tokens) (c' : Cursor) : Prop :=
  p .top c = .ok (a, c') ∧ c.rest.flat = taken ++ c'.rest.flat

theorem Forward.takes {α : Type} {p : Reader α} (hp : Forward p) {c c' : Cursor} {a : α}
    (h : p .top c = .ok (a, c')) : ∃ taken, p.Takes c a taken c' := by
  obtain ⟨taken, ht⟩ := hp _ _ _ _ h
  exact ⟨taken, h, ht.symm⟩

end Reader

open Reader

variable {s : Scope} {ts : Tokens} {stray : Option Fault}

theorem not_barren_of_anyType {c : Cursor} {r : RawType × Cursor}
    (h : Grammar.anyType s c = .ok r) : ¬ c.rest.Barren := by
  intro hb
  obtain ⟨f, hf⟩ := Grammar.anyType_needs s c hb
  rw [hf] at h
  cases h

namespace Tokens

theorem not_text_of_not_barren (h : ¬ ts.Barren) (l : TextLiteral) (rest : Tokens) :
    ¬ ts.Text l rest := by
  rintro ⟨written, he, -⟩
  exact h (.inr (.inl ⟨written, l.span, rest, he⟩))

theorem not_comma_of_not_barren (h : ¬ ts.Barren) (rest : Tokens) : ¬ ts.Comma rest := by
  rintro ⟨joint, place, he⟩
  exact h (.inr (.inr ⟨joint, place, rest, he⟩))

theorem isEmpty_of_not_barren (h : ¬ ts.Barren) : ts.isEmpty = false := by
  rw [List.isEmpty_eq_false_iff]
  rintro rfl
  exact h (.inl blank_nil)

end Tokens

/-! ## The freestanding form -/

namespace Freestanding

/-- What an input is made of. -/
structure Parts where
  visibility : Visibility
  visibilityTokens : Tokens
  rawType : RawType
  rawTypeTokens : Tokens
  name : TextLiteral
  options : Tokens

/-- The parts of an input, each read where the one before it ends. -/
inductive Split (ts : Tokens) (p : Parts) : Prop
  | mk {behind named rest : Tokens} {c : Cursor}
      (visibility : Grammar.visibility.Takes ⟨ts, none⟩ p.visibility p.visibilityTokens c)
      (noText : ∀ l rest, ¬ c.rest.Text l rest) (noComma : ∀ rest, ¬ c.rest.Comma rest)
      (rawType : Grammar.anyType.Takes c p.rawType p.rawTypeTokens ⟨behind, none⟩)
      (comma : behind.Comma named) (name : named.Text p.name rest)
      (options : rest.OptionsBehind p.options)

theorem separator_eq_ok_iff {c : Cursor} :
    separator s ⟨ts, stray⟩ = .ok ((), c) ↔ ∃ os, ts.OptionsBehind os ∧ c = ⟨os, stray⟩ := by
  rw [separator, atEnd_bind]
  cases ts with
  | nil =>
    constructor
    · intro h
      cases h
      exact ⟨[], .inl ⟨rfl, rfl⟩, rfl⟩
    · rintro ⟨os, ⟨-, rfl⟩ | comma, rfl⟩
      · rfl
      · exact absurd rfl comma.ne_nil
  | cons t ts =>
    have marked : (operator "," >>= fun _ => pure ()) s ⟨t :: ts, stray⟩ = .ok ((), c) ↔
        ∃ rest, Tokens.Comma (t :: ts) rest ∧
          (pure () : Reader Unit) s ⟨rest, stray⟩ = .ok ((), c) := comma_bind_eq_ok_iff
    refine marked.trans ?_
    simp [Tokens.OptionsBehind, eq_comm]

/-- Where a type can be read, no text and no comma stands before it. -/
theorem rawType?_eq_some_iff {t : RawType} {c c' : Cursor} :
    rawType? s c = .ok (some t, c') ↔ Grammar.anyType s c = .ok (t, c') := by
  rw [rawType?, atEnd_bind, peekAny, bind_apply, look]
  simp only [List.any_cons, List.any_nil, Bool.or_false]
  constructor
  · intro h
    split at h
    · cases h
    · obtain ⟨t', c₁, ht, h⟩ := bind_eq_ok_iff.mp h
      cases h
      exact ht
  · intro ht
    have begun := not_barren_of_anyType ht
    have noText := Tokens.shows_text_eq_false_iff.mpr (Tokens.not_text_of_not_barren begun)
    have noComma := Tokens.shows_comma_eq_false_iff.mpr (Tokens.not_comma_of_not_barren begun)
    rw [Tokens.isEmpty_of_not_barren begun, noText, noComma]
    exact bind_eq_ok_iff.mpr ⟨t, c', ht, rfl⟩

theorem name?_eq_some_iff {l : TextLiteral} {c : Cursor} :
    name? s ⟨ts, stray⟩ = .ok (some l, c) ↔
      ∃ rest os, ts.Text l rest ∧ rest.OptionsBehind os ∧ c = ⟨os, stray⟩ := by
  rw [name?, peek_bind]
  cases hs : Sign.stringLiteral.shows ts with
  | false =>
    constructor
    · intro h
      cases h
    · rintro ⟨rest, os, text, -⟩
      exact absurd text (Tokens.shows_text_eq_false_iff.mp hs l rest)
  | true =>
    simp only [if_true, bind_eq_ok_iff, textLiteral_eq_ok_iff, pure_apply]
    constructor
    · rintro ⟨_, _, ⟨rest, text, rfl⟩, _, c', hc, h⟩
      cases h
      obtain ⟨os, options, rfl⟩ := separator_eq_ok_iff.mp hc
      exact ⟨rest, os, text, options, rfl⟩
    · rintro ⟨rest, os, text, options, rfl⟩
      exact ⟨l, _, ⟨rest, text, rfl⟩, (), _, separator_eq_ok_iff.mpr ⟨os, options, rfl⟩, rfl⟩

/-- No type stands here: nothing is left, or a text or a comma comes first. -/
def NoType (ts : Tokens) : Prop := ts = [] ∨ (∃ l rest, ts.Text l rest) ∨ ∃ rest, ts.Comma rest

theorem noType_iff : NoType ts ↔
    (ts.isEmpty || (Sign.stringLiteral.shows ts || (Sign.operator ",").shows ts)) = true := by
  rw [NoType, Bool.or_eq_true, Bool.or_eq_true, List.isEmpty_iff, Tokens.shows_text_iff,
    Tokens.shows_comma_iff]

theorem not_noType_of_not_barren (h : ¬ ts.Barren) : ¬ NoType ts := by
  rintro (rfl | ⟨l, rest, text⟩ | ⟨rest, comma⟩)
  · exact h (.inl Tokens.blank_nil)
  · exact Tokens.not_text_of_not_barren h l rest text
  · exact Tokens.not_comma_of_not_barren h rest comma

theorem rawType?_eq_none_iff {c c' : Cursor} :
    rawType? s c = .ok (none, c') ↔ NoType c.rest ∧ c' = c := by
  rw [rawType?, atEnd_bind, peekAny, bind_apply, look, noType_iff]
  simp only [List.any_cons, List.any_nil, Bool.or_false]
  split
  · next absent =>
    rw [and_iff_right absent]
    exact ⟨fun h => by cases h; rfl, fun h => by rw [h]; rfl⟩
  · next present =>
    refine ⟨fun h => ?_, fun h => absurd h.1 present⟩
    obtain ⟨t, c₁, -, h⟩ := bind_eq_ok_iff.mp h
    cases h

theorem name?_eq_none_iff {c : Cursor} :
    name? s ⟨ts, stray⟩ = .ok (none, c) ↔ (∀ l rest, ¬ ts.Text l rest) ∧ c = ⟨ts, stray⟩ := by
  rw [name?, peek_bind, ← Tokens.shows_text_eq_false_iff]
  cases Sign.stringLiteral.shows ts with
  | false => exact ⟨fun h => by cases h; exact ⟨rfl, rfl⟩, fun h => by rw [h.2]; rfl⟩
  | true =>
    refine ⟨fun h => ?_, fun h => nomatch h.1⟩
    obtain ⟨l, c₁, -, h⟩ := bind_eq_ok_iff.mp h
    obtain ⟨_, c₂, -, h⟩ := bind_eq_ok_iff.mp h
    cases h

/-- The type behind the visibility, if one stands there, and what is left behind its comma. -/
inductive TypeAt : Cursor → Option RawType → Tokens → Prop
  | missing {ts named : Tokens} (absent : NoType ts)
      (comma : ts.Comma named ∨ (∀ rest, ¬ ts.Comma rest) ∧ named = ts) :
      TypeAt ⟨ts, none⟩ none named
  | given {c : Cursor} {t : RawType} {behind named : Tokens} (present : ¬ NoType c.rest)
      (read : Grammar.anyType .top c = .ok (t, ⟨behind, none⟩))
      (comma : behind.OptionsBehind named) : TypeAt c (some t) named

/-- The name in front, if one stands there, and the options behind its comma. -/
inductive NameAt : Tokens → Option TextLiteral → Tokens → Prop
  | missing {ts : Tokens} (absent : ∀ l rest, ¬ ts.Text l rest) : NameAt ts none ts
  | given {ts rest os : Tokens} {l : TextLiteral} (text : ts.Text l rest)
      (options : rest.OptionsBehind os) : NameAt ts (some l) os

/-- The pieces stand in the input one behind the other, where some may be missing. -/
inductive Holds (ts : Tokens) (p : Pieces) : Prop
  | mk {c : Cursor} {named : Tokens}
      (visibility : Grammar.visibility .top ⟨ts, none⟩ = .ok (p.visibility, c))
      (rawType : TypeAt c p.rawType named) (name : NameAt named p.name p.options)

theorem name?_eq_ok_iff {l : Option TextLiteral} {os : Tokens} :
    name? s ⟨ts, stray⟩ = .ok (l, ⟨os, none⟩) ↔ stray = none ∧ NameAt ts l os := by
  cases l with
  | none =>
    rw [name?_eq_none_iff]
    constructor
    · rintro ⟨absent, h⟩
      cases h
      exact ⟨rfl, .missing absent⟩
    · rintro ⟨rfl, ⟨absent⟩⟩
      exact ⟨absent, rfl⟩
  | some l =>
    rw [name?_eq_some_iff]
    constructor
    · rintro ⟨rest, os, text, options, h⟩
      cases h
      exact ⟨rfl, .given text options⟩
    · rintro ⟨rfl, h⟩
      cases h with
      | given text options => exact ⟨_, _, text, options, rfl⟩

/-- The type, and the comma behind it or in its place. -/
theorem typeAt_iff {c : Cursor} {t : Option RawType} {named : Tokens} :
    TypeAt c t named ↔ ∃ c', rawType? .top c = .ok (t, c') ∧
      if t.isSome || (Sign.operator ",").shows c'.rest then
        separator .top c' = .ok ((), ⟨named, none⟩)
      else c' = ⟨named, none⟩ := by
  constructor
  · intro h
    cases h with
    | missing absent comma =>
      refine ⟨_, rawType?_eq_none_iff.mpr ⟨absent, rfl⟩, ?_⟩
      rcases comma with comma | ⟨none, rfl⟩
      · rw [if_pos (by simpa using Tokens.shows_comma_iff.mpr ⟨_, comma⟩)]
        exact separator_eq_ok_iff.mpr ⟨_, .inr comma, rfl⟩
      · rw [if_neg (by simpa using Tokens.shows_comma_eq_false_iff.mpr none)]
    | given present read comma =>
      exact ⟨_, rawType?_eq_some_iff.mpr read, separator_eq_ok_iff.mpr ⟨_, comma, rfl⟩⟩
  · rintro ⟨⟨behind, stray⟩, ht, h⟩
    cases t with
    | none =>
      obtain ⟨absent, rfl⟩ := rawType?_eq_none_iff.mp ht
      cases shown : (Sign.operator ",").shows behind with
      | false =>
        rw [if_neg (by simp [shown])] at h
        cases h
        exact .missing absent (.inr ⟨Tokens.shows_comma_eq_false_iff.mp shown, rfl⟩)
      | true =>
        rw [if_pos (by simp [shown])] at h
        obtain ⟨_, ⟨rfl, -⟩ | comma, he⟩ := separator_eq_ok_iff.mp h
        · cases shown
        · cases he
          exact .missing absent (.inl comma)
    | some t =>
      have read := rawType?_eq_some_iff.mp ht
      obtain ⟨_, comma, he⟩ := separator_eq_ok_iff.mp h
      cases he
      exact .given (not_noType_of_not_barren (not_barren_of_anyType read)) read comma

theorem pieces_eq_ok_iff {p : Pieces} : run pieces ts = .ok p ↔ Holds ts p := by
  obtain ⟨v, t, l, os⟩ := p
  rw [run, runIn_eq_ok_iff]
  have last {v' : Visibility} {t' : Option RawType} {c : Cursor} {left : Tokens} :
      (name? >>= fun name => remaining >>= fun os' => pure (Pieces.mk v' t' name os')) .top c =
        .ok (⟨v, t, l, os⟩, ⟨left, none⟩) ↔
      (v' = v ∧ t' = t ∧ left = []) ∧ name? .top c = .ok (l, ⟨os, none⟩) := by
    rw [bind_eq_ok_iff]
    constructor
    · rintro ⟨name, ⟨rest, stray⟩, hn, h⟩
      cases h
      exact ⟨⟨rfl, rfl, rfl⟩, hn⟩
    · rintro ⟨⟨rfl, rfl, rfl⟩, hn⟩
      exact ⟨l, _, hn, rfl⟩
  constructor
  · rintro ⟨left, h, -⟩
    rw [pieces] at h
    obtain ⟨v', c, hv, h⟩ := bind_eq_ok_iff.mp h
    obtain ⟨t', c', ht, h⟩ := bind_eq_ok_iff.mp h
    rw [peek_bind] at h
    split at h
    · next shown =>
      obtain ⟨_, ⟨named, stray⟩, hs, h⟩ := bind_eq_ok_iff.mp h
      obtain ⟨⟨rfl, rfl, rfl⟩, hn⟩ := last.mp h
      obtain ⟨rfl, name⟩ := name?_eq_ok_iff.mp hn
      exact ⟨hv, typeAt_iff.mpr ⟨c', ht, by rwa [if_pos shown]⟩, name⟩
    · next shown =>
      obtain ⟨⟨rfl, rfl, rfl⟩, hn⟩ := last.mp h
      obtain ⟨named, stray⟩ := c'
      obtain ⟨rfl, name⟩ := name?_eq_ok_iff.mp hn
      exact ⟨hv, typeAt_iff.mpr ⟨_, ht, by rw [if_neg shown]⟩, name⟩
  · rintro ⟨visibility, rawType, name⟩
    obtain ⟨c', ht, h⟩ := typeAt_iff.mp rawType
    refine ⟨[], ?_, rfl⟩
    rw [pieces]
    refine bind_eq_ok_iff.mpr ⟨v, _, visibility, bind_eq_ok_iff.mpr ⟨t, c', ht, ?_⟩⟩
    rw [peek_bind]
    split at h
    · next shown =>
      rw [if_pos shown]
      exact bind_eq_ok_iff.mpr ⟨(), _, h, last.mpr ⟨⟨rfl, rfl, rfl⟩, name?_eq_ok_iff.mpr ⟨rfl, name⟩⟩⟩
    · next shown =>
      rw [if_neg shown]
      subst h
      exact last.mpr ⟨⟨rfl, rfl, rfl⟩, name?_eq_ok_iff.mpr ⟨rfl, name⟩⟩

theorem split_of_pieces {v : Visibility} {t : RawType} {l : TextLiteral} {os : Tokens}
    (h : run pieces ts = .ok ⟨v, some t, some l, os⟩) :
    ∃ vs us, Split ts ⟨v, vs, t, us, l, os⟩ := by
  obtain ⟨hv, rawType, name⟩ := pieces_eq_ok_iff.mp h
  cases rawType with
  | given present read comma =>
    cases name with
    | given text options =>
      obtain ⟨vs, visibility⟩ := Grammar.visibility_forward.takes hv
      obtain ⟨us, rawType⟩ := Grammar.anyType_forward.takes read
      refine ⟨vs, us, visibility, fun l rest text => present (.inr (.inl ⟨l, rest, text⟩)),
        fun rest comma => present (.inr (.inr ⟨rest, comma⟩)), rawType, ?_, text, options⟩
      rcases comma with ⟨-, rfl⟩ | comma
      · obtain ⟨_, he, -⟩ := text
        cases he
      · exact comma

theorem pieces_of_split {p : Parts} (h : Split ts p) :
    run pieces ts = .ok ⟨p.visibility, some p.rawType, some p.name, p.options⟩ := by
  obtain ⟨visibility, -, -, rawType, comma, name, options⟩ := h
  have present := not_noType_of_not_barren (not_barren_of_anyType rawType.1)
  exact pieces_eq_ok_iff.mpr ⟨visibility.1, .given present rawType.1 (.inr comma), .given name options⟩

theorem Pieces.declaration_eq_ok_iff {p : Pieces} {d : Declaration} :
    p.declaration = .ok d ↔ ∃ t l options, p.rawType = some t ∧ p.name = some l ∧
      Options.ofTokens .deriveAndCrate p.options = .ok options ∧
      d = {
        name := ⟨l.text, l.span⟩
        rawType := t
        capabilities := options.capabilities
        visibility := p.visibility
        attributes := []
        form := .freestanding
        cratePath := options.cratePath } := by
  obtain ⟨visibility, rawType, name, os⟩ := p
  rw [declaration]
  constructor
  · intro h
    generalize hr : Options.ofTokens .deriveAndCrate os = read at h
    -- whatever is missing was recorded, and then no declaration comes out
    cases rawType <;> cases name <;> cases read <;> cases h
    exact ⟨_, _, _, rfl, rfl, rfl, rfl⟩
  · rintro ⟨t, l, options, rfl, rfl, hr, rfl⟩
    simp only [hr]
    rfl

theorem parse_eq_ok_iff {d : Declaration} :
    parse ts = .ok d ↔ ∃ p options, Split ts p ∧
      Options.ofTokens .deriveAndCrate p.options = .ok options ∧
      d = {
        name := ⟨p.name.text, p.name.span⟩
        rawType := p.rawType
        capabilities := options.capabilities
        visibility := p.visibility
        attributes := []
        form := .freestanding
        cratePath := options.cratePath } := by
  rw [parse, result_bind_eq_ok_iff]
  simp only [mapError_eq_ok_iff]
  constructor
  · rintro ⟨⟨v, _, _, os⟩, hp, hd⟩
    obtain ⟨t, l, options, rfl, rfl, ho, rfl⟩ := Pieces.declaration_eq_ok_iff.mp hd
    obtain ⟨vs, us, split⟩ := split_of_pieces hp
    exact ⟨_, options, split, ho, rfl⟩
  · rintro ⟨p, options, split, ho, rfl⟩
    refine ⟨_, pieces_of_split split, ?_⟩
    exact Pieces.declaration_eq_ok_iff.mpr ⟨p.rawType, p.name, options, rfl, rfl, ho, rfl⟩

/-- All that shows of an input is in its parts. -/
theorem Split.flat {p : Parts} (h : Split ts p) : ∃ joint place written more,
    ts.flat = p.visibilityTokens ++ p.rawTypeTokens ++
      .punct ',' joint place :: .literal written p.name.span :: more ∧
    (more = [] ∧ p.options = [] ∨
      ∃ joint place, more = .punct ',' joint place :: p.options.flat) := by
  obtain ⟨visibility, -, -, rawType, comma, name, options⟩ := h
  obtain ⟨joint, place, hc⟩ := comma.flat
  obtain ⟨written, hn⟩ := name.flat
  refine ⟨joint, place, written, _, ?_, options.flat⟩
  rw [← hn, ← hc, List.append_assoc, ← rawType.2]
  exact visibility.2

/-- **Which inputs are declarations.** Those that split into a visibility, a type that begins
neither with a text nor with a comma, a comma, a name, and options that may be given behind one
more comma; nothing else shows in them. -/
theorem declares_iff (ts : Tokens) :
    (∀ d, parse ts = .ok d ↔ ∃ p options, Split ts p ∧
      Options.ofTokens .deriveAndCrate p.options = .ok options ∧
      d = {
        name := ⟨p.name.text, p.name.span⟩
        rawType := p.rawType
        capabilities := options.capabilities
        visibility := p.visibility
        attributes := []
        form := .freestanding
        cratePath := options.cratePath }) ∧
    ∀ p, Split ts p → ∃ joint place written more,
      ts.flat = p.visibilityTokens ++ p.rawTypeTokens ++
        .punct ',' joint place :: .literal written p.name.span :: more ∧
      (more = [] ∧ p.options = [] ∨
        ∃ joint place, more = .punct ',' joint place :: p.options.flat) :=
  ⟨fun _ => parse_eq_ok_iff, fun _ => Split.flat⟩

end Freestanding

/-! ## The attached form -/

/-- The attribute holds a list of these paths. -/
def Attribute.Lists (a : Attribute) (ps : List Path) : Prop :=
  ∃ d content place, a.body = .list d content place ∧ Tokens.Paths content ps

/-- The derive attributes give their lists in order, all others are left as they are. -/
theorem splitDerives_eq_ok_iff {as left : List Attribute} {cs : List Capability} :
    splitDerives as = .ok (cs, left) ↔
      (∃ lists, List.Forall₂ Attribute.Lists (as.filter (·.isDerive)) lists ∧
        cs = lists.flatten.map Capability.mk) ∧
      left = as.filter (!·.isDerive) := by
  induction as generalizing cs left with
  | nil =>
    constructor
    · intro h
      cases h
      exact ⟨⟨[], .nil, rfl⟩, rfl⟩
    · rintro ⟨⟨lists, each, rfl⟩, rfl⟩
      cases each
      rfl
  | cons a as ih =>
    rw [splitDerives]
    cases ha : a.isDerive with
    | true =>
      simp only [if_true, List.filter_cons, ha, Bool.not_true, Bool.false_eq_true, if_false,
        result_bind_eq_ok_iff]
      constructor
      · rintro ⟨first, hd, ⟨later, left⟩, hs, he⟩
        cases he
        obtain ⟨d, content, place, ps, body, paths, rfl⟩ := Attribute.derived_eq_ok_iff.mp hd
        obtain ⟨⟨lists, each, rfl⟩, rfl⟩ := ih.mp hs
        refine ⟨⟨ps :: lists, .cons ⟨d, content, place, body, paths⟩ each, ?_⟩, rfl⟩
        rw [List.flatten_cons, List.map_append]
      · rintro ⟨⟨_, ⟨⟩, rfl⟩, rfl⟩
        next ps lists first each =>
        obtain ⟨d, content, place, body, paths⟩ := first
        refine ⟨_, Attribute.derived_eq_ok_iff.mpr ⟨d, content, place, ps, body, paths, rfl⟩, _,
          ih.mpr ⟨⟨lists, each, rfl⟩, rfl⟩, ?_⟩
        rw [List.flatten_cons, List.map_append]
        rfl
    | false =>
      simp only [Bool.false_eq_true, if_false, List.filter_cons, ha, Bool.not_false, if_true,
        result_bind_eq_ok_iff]
      constructor
      · rintro ⟨⟨later, left⟩, hs, he⟩
        cases he
        obtain ⟨each, rfl⟩ := ih.mp hs
        exact ⟨each, rfl⟩
      · rintro ⟨each, rfl⟩
        exact ⟨_, ih.mpr ⟨each, rfl⟩, rfl⟩

namespace Attached

/-- The arguments: a type, and options that may be given behind a comma. -/
inductive Split (ts : Tokens) (t : RawType) (us os : Tokens) : Prop
  | mk {behind : Tokens} (rawType : Grammar.anyType.Takes ⟨ts, none⟩ t us ⟨behind, none⟩)
      (options : behind.OptionsBehind os)

/-- A struct without parameters, where clause and fields. -/
structure Bare (s : StructItem) : Prop where
  generics : s.generics.count = 0
  whereClause : s.whereClause = none
  fields : s.fields = []

theorem fillable_eq_ok_iff {item : Item} {s : StructItem} :
    fillable item = .ok s ↔ (∃ whole, item = .struct s whole) ∧ Bare s := by
  cases item with
  | other ts => simp [fillable]
  | struct s' whole =>
    rw [fillable]
    constructor
    · intro h
      split at h
      · cases h
      · next hg =>
        split at h
        · cases h
        · cases h
        · next hw hf =>
          cases h
          exact ⟨⟨whole, rfl⟩, Decidable.not_not.mp hg, hw, hf⟩
    · rintro ⟨⟨_, ⟨⟩⟩, hg, hw, hf⟩
      simp [hg, hw, hf]

theorem arguments_eq_ok_iff {t : RawType} {os : Tokens} :
    run arguments ts = .ok ⟨some t, os⟩ ↔ ∃ us, Split ts t us os := by
  rw [run, runIn_eq_ok_iff, arguments]
  constructor
  · rintro ⟨left, h, -⟩
    rw [atEnd_bind] at h
    split at h
    · cases h
    · obtain ⟨t', ⟨behind, stray⟩, ht, h⟩ := bind_eq_ok_iff.mp h
      rw [atEnd_bind] at h
      cases behind with
      | nil =>
        cases h
        obtain ⟨us, rawType⟩ := Grammar.anyType_forward.takes ht
        exact ⟨us, rawType, .inl ⟨rfl, rfl⟩⟩
      | cons b behind =>
        obtain ⟨rest, comma, h⟩ := comma_bind_eq_ok_iff.mp h
        cases h
        obtain ⟨us, rawType⟩ := Grammar.anyType_forward.takes ht
        exact ⟨us, rawType, .inr comma⟩
  · rintro ⟨us, ⟨rawType, options⟩⟩
    refine ⟨[], ?_, rfl⟩
    have more : ts.isEmpty = false :=
      Tokens.isEmpty_of_not_barren (not_barren_of_anyType rawType.1)
    rw [atEnd_bind]
    simp only [more, Bool.false_eq_true, if_false]
    refine bind_eq_ok_iff.mpr ⟨t, _, rawType.1, ?_⟩
    rw [atEnd_bind]
    rcases options with ⟨rfl, rfl⟩ | comma
    · rfl
    · rw [if_neg (by simpa using comma.ne_nil)]
      exact comma_bind_eq_ok_iff.mpr ⟨os, comma, rfl⟩

theorem declaration_eq_ok_iff {args : Arguments} {item : Item} {d : Declaration} :
    declaration args item = .ok d ↔ ∃ t options s cs left, args.rawType = some t ∧
      Options.ofTokens .crateOnly args.options = .ok options ∧ fillable item = .ok s ∧
      splitDerives s.attributes = .ok (cs, left) ∧
      d = {
        name := .ofIdent s.name
        rawType := t
        capabilities := cs
        visibility := s.visibility
        attributes := left
        form := .attached
        cratePath := options.cratePath } := by
  obtain ⟨rawType, os⟩ := args
  rw [declaration]
  constructor
  · intro h
    generalize ho : Options.ofTokens .crateOnly os = read at h
    cases hf : fillable item with
    | error f =>
      rw [hf] at h
      cases rawType <;> cases read <;> cases h
    | ok s =>
      rw [hf] at h
      cases hs : splitDerives s.attributes with
      | error f =>
        simp only [Except.mapError, Diagnostics.check, hs] at h
        cases rawType <;> cases read <;> cases h
      | ok split =>
        simp only [Except.mapError, Diagnostics.check, hs] at h
        cases rawType <;> cases read <;> cases h
        exact ⟨_, _, s, split.1, split.2, rfl, rfl, rfl, hs, rfl⟩
  · rintro ⟨t, options, s, cs, left, rfl, ho, hf, hs, rfl⟩
    simp only [ho, hf, Except.mapError, Diagnostics.check, hs]
    rfl

theorem parse_eq_ok_iff {args item : Tokens} {d : Declaration} :
    parse args item = .ok d ↔ ∃ t us os options s whole lists, Split args t us os ∧
      Options.ofTokens .crateOnly os = .ok options ∧
      run Grammar.anyItem item = .ok (.struct s whole) ∧ Bare s ∧
      List.Forall₂ Attribute.Lists (s.attributes.filter (·.isDerive)) lists ∧
      d = {
        name := .ofIdent s.name
        rawType := t
        capabilities := lists.flatten.map Capability.mk
        visibility := s.visibility
        attributes := s.attributes.filter (!·.isDerive)
        form := .attached
        cratePath := options.cratePath } := by
  rw [parse, result_bind_eq_ok_iff]
  simp only [result_bind_eq_ok_iff, mapError_eq_ok_iff]
  constructor
  · rintro ⟨⟨_, os⟩, ha, item', hi, hd⟩
    obtain ⟨t, options, s, cs, left, rfl, ho, hf, hs, rfl⟩ := declaration_eq_ok_iff.mp hd
    obtain ⟨us, split⟩ := arguments_eq_ok_iff.mp ha
    obtain ⟨⟨whole, rfl⟩, bare⟩ := fillable_eq_ok_iff.mp hf
    obtain ⟨⟨lists, each, rfl⟩, rfl⟩ := splitDerives_eq_ok_iff.mp hs
    exact ⟨t, us, os, options, s, whole, lists, split, ho, hi, bare, each, rfl⟩
  · rintro ⟨t, us, os, options, s, whole, lists, split, ho, hi, bare, each, rfl⟩
    refine ⟨_, arguments_eq_ok_iff.mpr ⟨us, split⟩, _, hi, ?_⟩
    exact declaration_eq_ok_iff.mpr ⟨t, options, s, _, _, rfl, ho,
      fillable_eq_ok_iff.mpr ⟨⟨whole, rfl⟩, bare⟩,
      splitDerives_eq_ok_iff.mpr ⟨⟨lists, each, rfl⟩, rfl⟩, rfl⟩

/-- **Which arguments and items are declarations.** Arguments that split into a type and options,
and a struct with nothing to it but its attributes, visibility and name, whose derive attributes
hold lists of paths. All of these come into the declaration, in their order. -/
theorem augments_iff (args item : Tokens) :
    (∀ d, parse args item = .ok d ↔ ∃ t us os options s whole lists, Split args t us os ∧
      Options.ofTokens .crateOnly os = .ok options ∧
      run Grammar.anyItem item = .ok (.struct s whole) ∧ Bare s ∧
      List.Forall₂ Attribute.Lists (s.attributes.filter (·.isDerive)) lists ∧
      d = {
        name := .ofIdent s.name
        rawType := t
        capabilities := lists.flatten.map Capability.mk
        visibility := s.visibility
        attributes := s.attributes.filter (!·.isDerive)
        form := .attached
        cratePath := options.cratePath }) ∧
    ∀ t us os, Split args t us os → ∃ more, args.flat = us ++ more ∧
      (more = [] ∧ os = [] ∨ ∃ joint place, more = .punct ',' joint place :: os.flat) := by
  refine ⟨fun _ => parse_eq_ok_iff, ?_⟩
  rintro t us os ⟨rawType, options⟩
  exact ⟨_, rawType.2, options.flat⟩

end Attached

end TypedId
