/-
What readers give. Some properties of tokens stay with whatever is left of them
and with what is in their groups (`Tokens.Lasting`). From tokens with such a
property a reader can be known to give certain values only: `Reader.Gives` says
so of a reader from the readers it is put together from. A list of options gives
the traits whose paths its elements begin with, so what all those paths have,
the capabilities have (`Options.capabilities_of_ofTokens`).
-/
import TypedId.Options
import TypedId.Proofs.Forward.Types
import TypedId.Proofs.Steps

namespace TypedId

/-- The property stays with the tokens that are left behind others, and with those in a group. -/
class Tokens.Lasting (T : Tokens → Prop) : Prop where
  leaves {ts rest : Tokens} : T ts → Leaves ts rest → T rest
  content {d : Delimiter} {ts content rest : Tokens} {place : Span} :
    T ts → group? d ts = some (content, place, rest) → T content

instance : Tokens.Lasting fun _ => True := ⟨fun _ _ => trivial, fun _ _ => trivial⟩

namespace Reader

variable {α β σ : Type} {T : Tokens → Prop} {p : Reader α} {f : α → Reader β} {P : α → Prop}
  {Q : β → Prop}

/-- What the reader takes from tokens of the one kind is a value of the other. -/
def Gives (p : Reader α) (T : Tokens → Prop) (P : α → Prop) : Prop :=
  ∀ s c a c', T c.rest → p s c = .ok (a, c') → P a

theorem Gives.of_runIn (h : p.Gives T P) {s : Scope} {ts : Tokens} {a : α} (start : T ts)
    (hr : runIn s p ts = .ok a) : P a := by
  obtain ⟨rest, hr, -⟩ := runIn_eq_ok_iff.mp hr
  exact h _ _ _ _ start hr

/-! ## Sequences and choices -/

theorem Gives.pure {a : α} (h : P a) : (pure a : Reader α).Gives T P := by
  rintro s c b c' - h'
  cases h'
  exact h

/-- What is made of a value at the end takes no more tokens. -/
theorem Gives.bind_pure {f : α → β} (hp : p.Gives T P) (hf : ∀ a, P a → Q (f a)) :
    (p >>= fun a => Pure.pure (f a)).Gives T Q := by
  intro s c b c' start h
  obtain ⟨a, c₁, first, h⟩ := bind_eq_ok_iff.mp h
  cases h
  exact hf a (hp _ _ _ _ start first)

theorem Gives.ite {c : Prop} [Decidable c] {q : Reader α} (hp : p.Gives T P) (hq : q.Gives T P) :
    (if c then p else q).Gives T P := by
  split
  · exact hp
  · exact hq

theorem Gives.complain (complaint : Complaint) : (complain complaint : Reader α).Gives T P := by
  rintro s c a c' - h
  cases h

theorem Gives.failAt (span : Span) (complaint : Complaint) :
    (failAt span complaint : Reader α).Gives T P := by
  rintro s c a c' - h
  cases h

variable [Tokens.Lasting T]

theorem Gives.bind (forward : Forward p) (hp : p.Gives T P) (hf : ∀ a, P a → (f a).Gives T Q) :
    (p >>= f).Gives T Q := by
  intro s c b c' start h
  obtain ⟨a, c₁, first, h⟩ := bind_eq_ok_iff.mp h
  have later : T c₁.rest := Tokens.Lasting.leaves start (forward _ _ _ _ first)
  exact hf a (hp _ _ _ _ start first) _ _ _ _ later h

/-- Nothing has to be known of what is read first. -/
theorem Gives.after (forward : Forward p) (hf : ∀ a, (f a).Gives T Q) : (p >>= f).Gives T Q :=
  .bind (P := fun _ => True) forward (fun _ _ _ _ _ _ => trivial) fun a _ => hf a

/-! ## Groups and loops -/

theorem Gives.anyGroup : anyGroup.Gives T fun g => T g.2.1 := by
  intro s c g c' start h
  rw [Reader.anyGroup] at h
  split at h
  · next d content place rest hc =>
    split at h
    · cases h
    · cases h
      rw [hc] at start
      exact Tokens.Lasting.content start (Tokens.group?_cons ..)
  · cases h

theorem Gives.group (d : Delimiter) (h : p.Gives T P) : (group d p).Gives T fun r => P r.2 := by
  rintro s c ⟨place, a⟩ c' start hg
  obtain ⟨content, rest, c₁, front, inner, -⟩ := group_of_ok hg
  exact h _ _ _ _ (Tokens.Lasting.content start front) inner

/-- What a round leads to: a state or a value of these. -/
def Round.Holds (I : σ → Prop) (P : α → Prop) : Round σ α → Prop
  | .again state => I state
  | .done a => P a

theorem Gives.loop {round : σ → Reader (Round σ α)} {I : σ → Prop}
    (forward : ∀ state, Forward (round state))
    (step : ∀ state, I state → (round state).Gives T (Round.Holds I P)) {state : σ}
    (start : I state) : (loop round state).Gives T P := by
  have rounds : ∀ n state, I state → (Reader.loop.go round n state).Gives T P := by
    intro n
    induction n with
    | zero => exact fun _ _ => .complain _
    | succ n ih =>
      intro state here
      refine .bind (forward state) (step state here) fun r hr => ?_
      cases r with
      | again next => exact ih next hr
      | done a => exact .pure hr
  exact fun s c => rounds _ state start s c

theorem Gives.whileM {more : Reader Bool} {item : Reader α} (hm : Forward more)
    (hi : Forward item) (h : item.Gives T P) : (whileM more item).Gives T fun as => ∀ a ∈ as, P a := by
  refine .loop (I := fun as => ∀ a ∈ as, P a) (fun read => ?_) (fun read before => ?_)
    (List.forall_mem_nil _)
  · grind
  · refine .after hm fun b => .ite ?_ (.pure before)
    refine .bind_pure h fun a ha => ?_
    exact List.forall_mem_append.mpr ⟨before, List.forall_mem_singleton.mpr ha⟩

end Reader

/-! ## Lists of options -/

namespace Options

open Reader

theorem segments_forward (read : Path) : Forward (path.segments read) := by
  unfold path.segments
  grind

@[grind ←] theorem path_forward : Forward path := by
  unfold path wanted atEnd
  grind [segments_forward]

theorem capability_forward (p : Path) (read : List Capability) : Forward (capability p read) :=
  .pure _

theorem givenPath_forward : Forward givenPath := by
  have literal : Forward textLiteral := .bind (.literalOf _) fun _ => .pure _
  refine .bind (.operator _) fun _ => .bind literal fun l => ?_
  cases CratePath.ofLiteral l with
  | ok given => exact .pure given
  | error f => rintro s c a c' ⟨⟩

theorem option_forward (allowed : Allowed) (p : Path) (options : Options) :
    Forward (option allowed p options) := by
  unfold option
  grind [givenPath_forward]

variable {T : Tokens → Prop} {W : Path → Prop}

theorem capability_gives {p : Path} (hp : W p) {read : List Capability}
    (before : ∀ c ∈ read, W c.path) :
    (capability p read).Gives T fun cs => ∀ c ∈ cs, W c.path :=
  .pure (List.forall_mem_append.mpr ⟨before, List.forall_mem_singleton.mpr hp⟩)

variable [Tokens.Lasting T]

/-- What one element keeps, a list of elements keeps. -/
theorem elements_gives {σ : Type} {element : Path → σ → Reader σ} {I : σ → Prop}
    (words : path.Gives T W) (forward : ∀ p state, Forward (element p state))
    (keeps : ∀ p state, W p → I state → (element p state).Gives T I) {state : σ}
    (start : I state) : (elements element state).Gives T I := by
  have behind : ∀ state, I state → (do
      if ← atEnd then return Round.done state
      let _ ← operator ","
      if ← atEnd then return .done state else return .again state : Reader (Round σ σ)).Gives T
        (Round.Holds I I) := by
    intro state here
    refine .after (.look _) fun last => .ite (.pure here) (.after (.operator _) fun _ => ?_)
    exact .after (.look _) fun last => .ite (.pure here) (.pure here)
  refine .loop (I := I) (fun state => ?_) (fun state here => ?_) start
  · unfold elements.round atEnd
    grind
  · refine .bind path_forward words fun p hp => ?_
    exact .bind (forward p state) (keeps p state hp here) behind

theorem elements?_gives {σ : Type} {element : Path → σ → Reader σ} {I : σ → Prop}
    (words : path.Gives T W) (forward : ∀ p state, Forward (element p state))
    (keeps : ∀ p state, W p → I state → (element p state).Gives T I) {state : σ}
    (start : I state) : (elements? element state).Gives T I :=
  .after (.look _) fun _ => .ite (.pure start) (elements_gives words forward keeps start)

theorem capabilities_gives (words : path.Gives T W) :
    (elements? capability []).Gives T fun cs => ∀ c ∈ cs, W c.path :=
  elements?_gives words capability_forward (fun _ _ hp => capability_gives hp)
    (List.forall_mem_nil _)

theorem option_gives (words : path.Gives T W) (allowed : Allowed) (p : Path) {options : Options}
    (before : ∀ c ∈ options.capabilities, W c.path) :
    (option allowed p options).Gives T fun o => ∀ c ∈ o.capabilities, W c.path := by
  refine .ite (.after givenPath_forward fun _ => .pure before) (.ite ?_ (.failAt _ _))
  refine .bind_pure (.group (P := fun cs => ∀ c ∈ cs, W c.path) _ ?_) fun r listed => listed
  exact elements_gives words capability_forward (fun _ _ hp => capability_gives hp) before

/-- Options that are read give capabilities only by such paths. -/
theorem capabilities_of_ofTokens (words : path.Gives T W) {allowed : Allowed} {ts : Tokens}
    (start : T ts) {options : Options} (h : ofTokens allowed ts = .ok options) :
    ∀ c ∈ options.capabilities, W c.path :=
  Gives.of_runIn (elements?_gives words (option_forward allowed)
    (fun p _ _ => option_gives words allowed p) (List.forall_mem_nil _)) start h

end Options

end TypedId
