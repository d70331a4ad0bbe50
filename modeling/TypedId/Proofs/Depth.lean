/-
Reading over a deeper grammar. A grammar that allows less nesting gets stuck
where it runs out of depth; `Below` says that this is all it can do worse:
whatever the lower reader does not get stuck on, the upper one reads, or
refuses, in just the same way. Every way of putting readers together keeps
this, so every part of the grammar does (`TypedId.Proofs.Depth.Items`).
-/
import TypedId.Grammar.Core
import Mathlib.Tactic.GCongr

namespace TypedId

/-- Reading ended because it ran out of depth or of rounds. -/
def IsStuck {α : Type} (r : Except Fault α) : Prop := ∃ f, r = .error f ∧ f.complaint = .stuck

namespace Reader

/-- Where `p` does not get stuck, `q` gives the same answer. -/
def Below {α : Type} (p q : Reader α) : Prop :=
  ∀ s c, IsStuck (p s c) ∨ q s c = p s c

variable {α β σ : Type}

@[refl] theorem Below.refl (p : Reader α) : p.Below p := fun _ _ => .inr rfl

theorem Below.of_ok {p q : Reader α} (h : p.Below q) {s c r} (hp : p s c = .ok r) :
    q s c = .ok r := by
  rcases h s c with ⟨f, hf, -⟩ | h
  · rw [hp] at hf; cases hf
  · rw [h, hp]

@[simp] theorem bind_apply (p : Reader α) (f : α → Reader β) (s : Scope) (c : Cursor) :
    (p >>= f) s c =
      match p s c with
      | .ok (a, c') => f a s c'
      | .error e => .error e := rfl

@[simp] theorem pure_apply (a : α) (s : Scope) (c : Cursor) :
    (pure a : Reader α) s c = .ok (a, c) := rfl

theorem map_eq_bind (f : α → β) (p : Reader α) : f <$> p = p >>= fun a => pure (f a) := rfl

/-! ## Sequences and choices -/

@[gcongr] theorem Below.bind {p q : Reader α} {f h : α → Reader β} (hp : p.Below q)
    (hf : ∀ a, (f a).Below (h a)) : (p >>= f).Below (q >>= h) := by
  intro s c
  rw [bind_apply, bind_apply]
  rcases hp s c with ⟨e, he, hs⟩ | hp
  · exact .inl ⟨e, by rw [he], hs⟩
  · rw [hp]
    cases p s c with
    | error e => exact .inr rfl
    | ok r => exact hf r.1 s r.2

@[gcongr] theorem Below.map {p q : Reader α} (f : α → β) (hp : p.Below q) :
    (f <$> p).Below (f <$> q) := by
  rw [map_eq_bind, map_eq_bind]
  exact hp.bind fun _ => .refl _

@[gcongr] theorem Below.ite {c : Prop} [Decidable c] {p q p' q' : Reader α} (h : p.Below q)
    (h' : p'.Below q') : (if c then p else p').Below (if c then q else q') := by
  by_cases hc : c
  · rw [if_pos hc, if_pos hc]; exact h
  · rw [if_neg hc, if_neg hc]; exact h'

/-! ## Groups -/

@[gcongr] theorem Below.groupThen {d : Delimiter} {p q : Reader α} {f h : Span → α → Reader β}
    (hp : p.Below q) (hf : ∀ span a, (f span a).Below (h span a)) :
    (groupThen d p f).Below (groupThen d q h) := by
  intro s c
  simp only [Reader.groupThen]
  cases Tokens.group? d c.rest with
  | none => exact .inr rfl
  | some g =>
    obtain ⟨content, span, rest⟩ := g
    rcases hp ⟨span.closing, d⟩ { c with rest := content } with ⟨e, he, hs⟩ | hp
    · exact .inl ⟨e, by simp only [he], hs⟩
    · simp only [hp]
      cases p ⟨span.closing, d⟩ { c with rest := content } with
      | error e => exact .inr rfl
      | ok r =>
        rcases hf span r.1 s { r.2 with rest } with ⟨e, he, hs⟩ | hf
        · exact .inl ⟨e, by simp only [he], hs⟩
        · exact .inr (by simp only [hf])

@[gcongr] theorem Below.group {d : Delimiter} {p q : Reader α} (h : p.Below q) :
    (group d p).Below (group d q) :=
  h.groupThen fun _ _ => .refl _

@[gcongr] theorem Below.groupTokens {d : Delimiter} {p q : Reader Tokens} (h : p.Below q) :
    (groupTokens d p).Below (groupTokens d q) := by
  unfold Reader.groupTokens
  gcongr

/-! ## Trial reading -/

/-- This is why a trial passes on that it got stuck: if it took that for an answer, a deeper
grammar could answer otherwise. -/
@[gcongr] theorem Below.attempt {p q : Reader α} (h : p.Below q) :
    (attempt p).Below (attempt q) := by
  intro s c
  simp only [Reader.attempt]
  rcases h s c with ⟨e, he, hs⟩ | h
  · exact .inl ⟨e, by simp only [he, hs, if_true], hs⟩
  · exact .inr (by rw [h])

@[gcongr] theorem Below.withSource {p q : Reader α} (h : p.Below q) :
    (withSource p).Below (withSource q) := by
  intro s c
  simp only [Reader.withSource]
  rcases h s c with ⟨e, he, hs⟩ | h
  · exact .inl ⟨e, by rw [he], hs⟩
  · exact .inr (by rw [h])

/-! ## Loops -/

theorem Below.go {p q : σ → Reader (Round σ α)} (h : ∀ state, (p state).Below (q state)) :
    ∀ (n : Nat) (state : σ), (loop.go p n state).Below (loop.go q n state)
  | 0, _ => .refl _
  | n + 1, state => by
    rw [Reader.loop.go, Reader.loop.go]
    refine (h state).bind fun r => ?_
    cases r with
    | again state => exact Below.go h n state
    | done a => exact .refl _

@[gcongr] theorem Below.loop {p q : σ → Reader (Round σ α)} (h : ∀ state, (p state).Below (q state))
    (state : σ) : (loop p state).Below (loop q state) :=
  fun s c => Below.go h (c.weight + 1) state s c

@[gcongr] theorem Below.pieces {p q : Reader (Tokens × Bool)} (h : p.Below q) :
    (pieces p).Below (pieces q) := by
  unfold Reader.pieces
  gcongr

@[gcongr] theorem Below.whileM {more more' : Reader Bool} {p q : Reader α} (hm : more.Below more')
    (h : p.Below q) : (whileM more p).Below (whileM more' q) := by
  unfold Reader.whileM
  gcongr

@[gcongr] theorem Below.commaList {p q : Reader α} (h : p.Below q) :
    (commaList p).Below (commaList q) := by
  unfold Reader.commaList
  gcongr

@[gcongr] theorem Below.commaTokens {p q : Reader Tokens} (h : p.Below q) :
    (commaTokens p).Below (commaTokens q) := by
  unfold Reader.commaTokens
  gcongr

end Reader

/-! ## Grammars -/

/-- Every part of the one grammar is below the same part of the other. -/
structure Grammar.Below (g h : Grammar) : Prop where
  type : ∀ plus generic, (g.type plus generic).Below (h.type plus generic)
  bound : ∀ capture const, (g.bound capture const).Below (h.bound capture const)
  expression : ∀ braces, (g.expression braces).Below (h.expression braces)
  unary : ∀ braces, (g.unary braces).Below (h.unary braces)
  climb : ∀ braces base left, (g.climb braces base left).Below (h.climb braces base left)
  early : g.early.Below h.early
  pattern : g.pattern.Below h.pattern
  statements : g.statements.Below h.statements
  item : g.item.Below h.item
  fields : g.fields.Below h.fields
  imports : ∀ root, (g.imports root).Below (h.imports root)

namespace Grammar

theorem stuck_below (h : Grammar) : stuck.Below h := by
  have refuses : ∀ {α : Type} (p : Reader α), (Reader.complain .stuck : Reader α).Below p := by
    intro α p s c
    refine .inl ⟨_, rfl, ?_⟩
    cases c.rest <;> rfl
  constructor <;> intros <;> exact refuses _

section

variable {g h : Grammar}

@[gcongr] theorem type_mono (hg : g.Below h) (plus generic : Bool) :
    (g.type plus generic).Below (h.type plus generic) := hg.type plus generic

@[gcongr] theorem bound_mono (hg : g.Below h) (capture const : Bool) :
    (g.bound capture const).Below (h.bound capture const) := hg.bound capture const

@[gcongr] theorem expression_mono (hg : g.Below h) (braces : Bool) :
    (g.expression braces).Below (h.expression braces) := hg.expression braces

@[gcongr] theorem unary_mono (hg : g.Below h) (braces : Bool) :
    (g.unary braces).Below (h.unary braces) := hg.unary braces

@[gcongr] theorem climb_mono (hg : g.Below h) (braces : Bool) (base : Precedence)
    (left : Expression) : (g.climb braces base left).Below (h.climb braces base left) :=
  hg.climb braces base left

@[gcongr] theorem early_mono (hg : g.Below h) : g.early.Below h.early := hg.early

@[gcongr] theorem pattern_mono (hg : g.Below h) : g.pattern.Below h.pattern := hg.pattern

@[gcongr] theorem statements_mono (hg : g.Below h) : g.statements.Below h.statements :=
  hg.statements

@[gcongr] theorem item_mono (hg : g.Below h) : g.item.Below h.item := hg.item

@[gcongr] theorem fields_mono (hg : g.Below h) : g.fields.Below h.fields := hg.fields

@[gcongr] theorem imports_mono (hg : g.Below h) (root : Bool) :
    (g.imports root).Below (h.imports root) := hg.imports root

end

end Grammar

end TypedId
