/-
Reading only goes forward. Invisible groups are taken apart while their
contents are read, so what is left of some tokens need not be the end of
them; it is once these groups do not count (`Tokens.flat`). Every way of
putting readers together keeps this, whatever is read inside of groups.
-/
import TypedId.Grammar.Core
import TypedId.Proofs.BeforeComma.Signs
import TypedId.Proofs.Depth

namespace TypedId

/-! ## Tokens without invisible groups -/

mutual

/-- A token, or what shows of it if it is an invisible group. -/
def Token.flat : Token → List Token
  | .group .invisible ts _ => flatAll ts
  | t => [t]

def Token.flatAll : List Token → List Token
  | [] => []
  | t :: ts => t.flat ++ flatAll ts

end

namespace Tokens

/-- The tokens that show: invisible groups do not, however deep they stand in each other. What
stands between other delimiters is left as it is. -/
def flat (ts : Tokens) : Tokens := Token.flatAll ts

@[simp] theorem flat_nil : flat [] = [] := rfl

@[simp] theorem flat_cons (t : Token) (ts : Tokens) : flat (t :: ts) = t.flat ++ flat ts := rfl

@[simp] theorem flat_append (a b : Tokens) : flat (a ++ b) = flat a ++ flat b := by
  induction a with
  | nil => rfl
  | cons t ts ih => rw [List.cons_append, flat_cons, ih, flat_cons, List.append_assoc]

mutual

theorem flat_entered (t : Token) : flat t.entered = t.flat :=
  match t with
  | .group .invisible ts s => by
    rw [Token.entered, Token.flat]
    exact flat_enter ts
  | .group .parenthesis .. | .group .bracket .. | .group .brace .. | .ident .. | .punct ..
  | .literal .. => by simp [Token.entered, Token.flat]

theorem flat_enter (ts : Tokens) : flat (enter ts) = flat ts :=
  match ts with
  | [] => rfl
  | t :: ts => by
    have front := flat_entered t
    have later := flat_enter ts
    rw [enter, Token.enterAll]
    split
    · next he =>
      rw [he] at front
      rw [flat_cons, ← front]
      exact later
    · rw [flat_append, flat_cons, front]

end

/-- The token in front shows before all others. -/
theorem flat_of_enter {ts rest : Tokens} {t : Token} (h : ts.enter = t :: rest) :
    ts.flat = t.flat ++ rest.flat := by
  rw [← flat_enter, h, flat_cons]

/-- What shows of `rest` is the end of what shows of `ts`. -/
def Leaves (ts rest : Tokens) : Prop := rest.flat <:+ ts.flat

theorem Leaves.refl (ts : Tokens) : Leaves ts ts := List.suffix_refl _

theorem Leaves.trans {ts us rest : Tokens} (h : Leaves ts us) (h' : Leaves us rest) :
    Leaves ts rest := List.IsSuffix.trans h' h

theorem Leaves.cons (t : Token) (ts : Tokens) : Leaves (t :: ts) ts := List.suffix_append _ _

theorem Leaves.of_enter {ts rest : Tokens} {t : Token} (h : ts.enter = t :: rest) :
    Leaves ts rest := by
  rw [Leaves, flat_of_enter h]
  exact List.suffix_append _ _

theorem leaves_word? {ts rest : Tokens} {i : Ident} (h : word? ts = some (i, rest)) :
    Leaves ts rest := .of_enter (enter_eq_of_word? h)

theorem leaves_literal? {ts rest : Tokens} {text : String} {place : Span}
    (h : literal? ts = some (text, place, rest)) : Leaves ts rest := by
  rw [literal?] at h
  split at h
  · next he => cases h; exact .of_enter he
  · cases h

theorem leaves_mark? {ts rest : Tokens} {c : Char} {joint : Bool} {place : Span}
    (h : mark? ts = some (c, joint, place, rest)) : Leaves ts rest := by
  rw [mark?] at h
  split at h
  · next he =>
    split at h
    · cases h
    · cases h; exact .of_enter he
  · cases h

theorem leaves_lifetime? {ts rest taken : Tokens} (h : lifetime? ts = some (taken, rest)) :
    Leaves ts rest := by
  rw [lifetime?] at h
  split at h
  · next he =>
    split at h
    · split at h
      · next hw => cases h; exact (Leaves.of_enter he).trans (leaves_word? hw)
      · cases h
    · cases h
  · cases h

theorem leaves_group? {d : Delimiter} {ts content rest : Tokens} {place : Span}
    (h : group? d ts = some (content, place, rest)) : Leaves ts rest := by
  by_cases hd : d = .invisible
  · rw [group?, if_pos hd] at h
    split at h
    · split at h
      · cases h; exact .cons _ _
      · cases h
    · cases h
  · exact .of_enter (enter_eq_of_group? hd h)

theorem leaves_operator? {cs : List Char} {ts taken rest : Tokens}
    (h : operator? cs ts = some (taken, rest)) : Leaves ts rest := by
  induction cs generalizing ts taken with
  | nil =>
    rw [operator?] at h
    cases h
    exact .refl _
  | cons c cs ih =>
    cases cs with
    | nil =>
      rw [operator?] at h
      split at h
      · next hm =>
        split at h
        · cases h; exact leaves_mark? hm
        · cases h
      · cases h
    | cons d cs =>
      rw [operator?] at h
      split at h
      · next hm =>
        split at h
        · obtain ⟨r, hr, heq⟩ := Option.map_eq_some_iff.mp h
          cases heq
          exact (leaves_mark? hm).trans (ih hr)
        · cases h
      · cases h
      · simp

theorem leaves_value? {ts taken rest : Tokens} (h : value? ts = some (taken, rest)) :
    Leaves ts rest := by
  rw [value?] at h
  split at h
  · next he => cases h; exact .of_enter he
  · next he =>
    split at h
    · cases h; exact .of_enter he
    · cases h
  · next he =>
    split at h
    · split at h
      · next hl =>
        split at h
        · cases h; exact (Leaves.of_enter he).trans (leaves_literal? hl)
        · cases h
      · cases h
    · cases h
  · cases h

end Tokens

/-! ## Readers that go forward -/

namespace Reader

variable {α β σ : Type}

/-- Whatever the reader takes, it takes from the front. -/
def Forward (p : Reader α) : Prop :=
  ∀ s c a c', p s c = .ok (a, c') → c.rest.Leaves c'.rest

/-! ### Sequences and choices -/

@[grind ←] theorem Forward.pure (a : α) : Forward (pure a) := by
  intro s c b c' h
  cases h
  exact .refl _

@[grind ←] theorem Forward.bind {p : Reader α} {f : α → Reader β} (hp : Forward p)
    (hf : ∀ a, Forward (f a)) : Forward (p >>= f) := by
  intro s c b c' h
  rw [bind_apply] at h
  split at h
  · next a c₁ h₁ => exact (hp s c a c₁ h₁).trans (hf a s c₁ b c' h)
  · cases h

@[grind ←] theorem Forward.map (f : α → β) {p : Reader α} (hp : Forward p) :
    Forward (f <$> p) := by
  rw [map_eq_bind]
  exact hp.bind fun _ => .pure _

theorem Forward.ite {c : Prop} [Decidable c] {p q : Reader α} (hp : Forward p) (hq : Forward q) :
    Forward (if c then p else q) := by
  by_cases hc : c
  · rw [if_pos hc]; exact hp
  · rw [if_neg hc]; exact hq

@[grind ←] theorem Forward.complain (complaint : Complaint) :
    Forward (complain complaint : Reader α) := by
  intro s c a c' h
  cases h

@[grind ←] theorem Forward.expected (signs : List Sign) :
    Forward (expected signs : Reader α) :=
  Forward.complain _

@[grind ←] theorem Forward.failAt (span : Span) (complaint : Complaint) :
    Forward (failAt span complaint : Reader α) := by
  intro s c a c' h
  cases h

@[grind ←] theorem Forward.unexpected : Forward (unexpected : Reader α) := by
  intro s c a c' h
  rw [Reader.unexpected] at h
  split at h <;> cases h

/-! ### Looking ahead -/

@[grind ←] theorem Forward.look (f : Tokens → α) : Forward (look f) := by
  intro s c a c' h
  cases h
  exact .refl _

@[grind ←] theorem Forward.peek (sign : Sign) : Forward (peek sign) := .look _

@[grind ←] theorem Forward.peekAny (signs : List Sign) : Forward (peekAny signs) := .look _

@[grind ←] theorem Forward.peek2 (sign : Sign) : Forward (peek2 sign) := .look _

@[grind ←] theorem Forward.peek3 (sign : Sign) : Forward (peek3 sign) := .look _

@[grind ←] theorem Forward.peekBehind (sign : Sign) : Forward (peekBehind sign) := by
  rw [Reader.peekBehind]
  grind

@[grind ←] theorem Forward.here : Forward here := by
  intro s c a c' h
  cases h
  exact .refl _

/-! ### Taking tokens -/

@[grind ←] theorem Forward.operator (text : String) : Forward (operator text) := by
  intro s c a c' h
  rw [Reader.operator] at h
  split at h
  · next ho => cases h; exact Tokens.leaves_operator? ho
  · cases h

@[grind ←] theorem Forward.keyword (text : String) : Forward (keyword text) := by
  intro s c a c' h
  rw [Reader.keyword] at h
  split at h
  · next hw =>
    split at h
    · cases h; exact Tokens.leaves_word? hw
    · cases h
  · cases h

@[grind ←] theorem Forward.identifier : Forward identifier := by
  intro s c a c' h
  rw [Reader.identifier] at h
  split at h
  · next hw =>
    split at h
    · cases h
    · cases h; exact Tokens.leaves_word? hw
  · cases h

@[grind ←] theorem Forward.word : Forward word := by
  intro s c a c' h
  rw [Reader.word] at h
  split at h
  · next hw => cases h; exact Tokens.leaves_word? hw
  · cases h

@[grind ←] theorem Forward.lifetime : Forward lifetime := by
  intro s c a c' h
  rw [Reader.lifetime] at h
  split at h
  · next hl => cases h; exact Tokens.leaves_lifetime? hl
  · cases h

@[grind ←] theorem Forward.literal : Forward literal := by
  intro s c a c' h
  rw [Reader.literal] at h
  split at h
  · next hv => cases h; exact Tokens.leaves_value? hv
  · cases h

@[grind ←] theorem Forward.literalOf (sign : Sign) : Forward (literalOf sign) := by
  intro s c a c' h
  rw [Reader.literalOf] at h
  split at h
  · exact Forward.literal s c a c' h
  · cases h

@[grind ←] theorem Forward.anyGroup : Forward anyGroup := by
  intro s c a c' h
  rw [Reader.anyGroup] at h
  split at h
  · next hr =>
    split at h
    · cases h
    · cases h; rw [hr]; exact .cons _ _
  · cases h

@[grind ←] theorem Forward.optional (sign : Sign) {p : Reader Tokens} (hp : Forward p) :
    Forward (optional sign p) := by
  rw [Reader.optional]
  grind

@[grind ←] theorem Forward.operator? (text : String) : Forward (operator? text) :=
  .optional _ (.operator text)

@[grind ←] theorem Forward.keyword? (text : String) : Forward (keyword? text) :=
  .optional _ (.keyword text)

/-! ### Groups, sources and loops -/

/-- A group is one token, whatever is read of it. -/
@[grind ←] theorem Forward.groupThen (d : Delimiter) (p : Reader α) {f : Span → α → Reader β}
    (hf : ∀ place a, Forward (f place a)) : Forward (groupThen d p f) := by
  intro s c b c' h
  rw [Reader.groupThen] at h
  split at h
  · next content place rest hg =>
    split at h
    · next a c₁ hp =>
      split at h
      · next b' c₂ ha =>
        cases h
        exact (Tokens.leaves_group? hg).trans (hf place a s _ _ _ ha)
      · cases h
    · cases h
  · cases h

@[grind ←] theorem Forward.group (d : Delimiter) (p : Reader α) : Forward (group d p) :=
  .groupThen d p fun _ _ => .pure _

@[grind ←] theorem Forward.groupTokens (d : Delimiter) (p : Reader Tokens) :
    Forward (groupTokens d p) :=
  .bind (.group d p) fun _ => .pure _

@[grind ←] theorem Forward.withSource {p : Reader α} (hp : Forward p) : Forward (withSource p) := by
  intro s c a c' h
  rw [Reader.withSource] at h
  split at h
  · next h₁ => cases h; exact hp s c _ _ h₁
  · cases h

theorem Forward.go {round : σ → Reader (Round σ α)} (h : ∀ state, Forward (round state)) :
    ∀ (n : Nat) (state : σ), Forward (loop.go round n state)
  | 0, _ => .complain _
  | n + 1, state => by
    rw [Reader.loop.go]
    refine (h state).bind fun r => ?_
    cases r with
    | again state => exact Forward.go h n state
    | done a => exact .pure a

@[grind ←] theorem Forward.loop {round : σ → Reader (Round σ α)}
    (h : ∀ state, Forward (round state)) (state : σ) : Forward (loop round state) :=
  fun s c => Forward.go h (c.weight + 1) state s c

@[grind ←] theorem Forward.pieces {p : Reader (Tokens × Bool)} (hp : Forward p) :
    Forward (pieces p) :=
  .loop (fun _ => .bind hp fun _ => .pure _) []

@[grind ←] theorem Forward.whileM {more : Reader Bool} {item : Reader α} (hm : Forward more)
    (hi : Forward item) : Forward (whileM more item) := by
  rw [Reader.whileM]
  grind

end Reader

end TypedId
