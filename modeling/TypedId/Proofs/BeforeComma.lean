/-
Reading in front of a comma. `StopsAt` says that a reader, given the tokens
that another one reads by themselves, with a comma and anything else behind
them, reads the same and stops at that comma. It is what lets a piece be read
out of a longer input. Inside a group nothing is behind, so there it is enough
that the one reader is below the other (`TypedId.Proofs.Depth`).
-/
import TypedId.Grammar.Paths
import TypedId.Proofs.BeforeComma.Signs
import TypedId.Proofs.Depth

namespace TypedId

/-- Puts tokens behind those that are left to read. -/
def Cursor.upTo (k : Tail) (c : Cursor) : Cursor := { c with rest := c.rest ++ k.tokens }

@[simp] theorem Cursor.rest_upTo (k : Tail) (c : Cursor) : (c.upTo k).rest = c.rest ++ k.tokens := rfl

@[simp] theorem Cursor.stray_upTo (k : Tail) (c : Cursor) : (c.upTo k).stray = c.stray := rfl

/-- What is read, and where reading stops, is the same but for the tokens behind. Says nothing if
the first result is a fault. -/
def Agrees (k : Tail) {α : Type} (r r' : Except Fault (α × Cursor)) : Prop :=
  ∀ a c, r = .ok (a, c) → r' = .ok (a, c.upTo k)

namespace Reader

/-- What `p` reads, `q` reads in front of the comma. -/
def StopsAt (k : Tail) {α : Type} (p q : Reader α) : Prop :=
  ∀ s c, Agrees k (p s c) (q s (c.upTo k))

variable {α β σ : Type} {k : Tail}

theorem Agrees.of_error {f : Fault} {r : Except Fault (α × Cursor)} : Agrees k (.error f) r :=
  fun _ _ h => by cases h

/-! ## Sequences and choices -/

@[simp] theorem StopsAt.pure (a : α) : StopsAt k (pure a) (pure a) := by
  intro s c b c' h
  cases h
  rfl

@[gcongr] theorem StopsAt.bind {p q : Reader α} {f h : α → Reader β} (hp : StopsAt k p q)
    (hf : ∀ a, StopsAt k (f a) (h a)) : StopsAt k (p >>= f) (q >>= h) := by
  intro s c b c' hr
  rw [bind_apply] at hr ⊢
  cases hpc : p s c with
  | error e => rw [hpc] at hr; cases hr
  | ok r =>
    obtain ⟨a, c₁⟩ := r
    rw [hpc] at hr
    rw [hp s c a c₁ hpc]
    exact hf a s c₁ b c' hr

@[gcongr] theorem StopsAt.map {p q : Reader α} (f : α → β) (hp : StopsAt k p q) :
    StopsAt k (f <$> p) (f <$> q) := by
  rw [map_eq_bind, map_eq_bind]
  exact hp.bind fun _ => .pure _

@[gcongr] theorem StopsAt.ite {c : Prop} [Decidable c] {p q p' q' : Reader α} (h : StopsAt k p q)
    (h' : StopsAt k p' q') : StopsAt k (if c then p else p') (if c then q else q') := by
  by_cases hc : c
  · rw [if_pos hc, if_pos hc]; exact h
  · rw [if_neg hc, if_neg hc]; exact h'

/-- A reader that only refuses has nothing to agree on. -/
@[simp] theorem StopsAt.complain (complaint : Complaint) (q : Reader α) :
    StopsAt k (complain complaint) q := fun _ _ => Agrees.of_error

@[simp] theorem StopsAt.expected (signs : List Sign) (q : Reader α) :
    StopsAt k (expected signs) q :=
  StopsAt.complain _ q

@[simp] theorem StopsAt.failAt (span : Span) (complaint : Complaint) (q : Reader α) :
    StopsAt k (failAt span complaint) q := fun _ _ => Agrees.of_error

@[simp] theorem StopsAt.unexpected (q : Reader α) : StopsAt k unexpected q := by
  intro s c
  rw [Reader.unexpected]
  cases c.rest <;> exact Agrees.of_error

/-! ## Where nothing begins -/

/-- A reader that never succeeds where nothing, a literal or a comma stands. -/
def NeedsTokens (p : Reader α) : Prop :=
  ∀ s c, c.rest.Barren → ∃ f, p s c = .error f

/-- A reader that gives `a`, and takes nothing, where nothing, a literal or a comma stands. -/
def Idles (p : Reader α) (a : α) : Prop :=
  ∀ s c, c.rest.Barren → p s c = .ok (a, c)

theorem Idles.pure (a : α) : (Pure.pure a : Reader α).Idles a := fun _ _ _ => rfl

theorem Idles.bind {p : Reader α} {f : α → Reader β} {a : α} {b : β} (hp : p.Idles a)
    (hf : (f a).Idles b) : (p >>= f).Idles b := by
  intro s c h
  rw [bind_apply, hp s c h]
  exact hf s c h

theorem Idles.peek {sign : Sign} (h : sign.opens = true) : (peek sign).Idles false := by
  intro s c hb
  rw [Reader.peek, look, Sign.shows_of_barren h hb]

theorem Idles.peekAny {signs : List Sign} (h : signs.all Sign.opens = true) :
    (peekAny signs).Idles false := by
  intro s c hb
  have none : signs.any (·.shows c.rest) = false := by
    rw [List.any_eq_false]
    intro sign hs
    rw [Sign.shows_of_barren (List.all_eq_true.mp h sign hs) hb]
    exact Bool.false_ne_true
  rw [Reader.peekAny, look, none]

theorem Idles.optional {sign : Sign} (h : sign.opens = true) (p : Reader Tokens) :
    (optional sign p).Idles [] :=
  .bind (.peek h) (.pure [])

theorem NeedsTokens.complain (complaint : Complaint) :
    (complain complaint : Reader α).NeedsTokens := fun _ _ _ => ⟨_, rfl⟩

theorem NeedsTokens.identifier : Reader.identifier.NeedsTokens := by
  intro s c hb
  rw [Reader.identifier, Tokens.word?_of_barren hb]
  exact ⟨_, rfl⟩

theorem NeedsTokens.lifetime : Reader.lifetime.NeedsTokens := by
  intro s c hb
  rw [Reader.lifetime, Tokens.lifetime?_of_barren hb]
  exact ⟨_, rfl⟩

theorem NeedsTokens.bind {p : Reader α} (hp : p.NeedsTokens) (f : α → Reader β) :
    (p >>= f).NeedsTokens := by
  intro s c h
  obtain ⟨e, he⟩ := hp s c h
  rw [bind_apply, he]
  exact ⟨e, rfl⟩

theorem NeedsTokens.after {p : Reader α} {a : α} {f : α → Reader β} (hp : p.Idles a)
    (hf : (f a).NeedsTokens) : (p >>= f).NeedsTokens := by
  intro s c h
  rw [bind_apply, hp s c h]
  exact hf s c h

theorem NeedsTokens.look {f : Tokens → α} {p : α → Reader β} (hp : ∀ a, (p a).NeedsTokens) :
    (look f >>= p).NeedsTokens :=
  fun s c h => hp (f c.rest) s c h

/-- An invisible group begins as what it holds does. -/
theorem NeedsTokens.invisible {p : Reader α} (hp : p.NeedsTokens) :
    (group .invisible p).NeedsTokens := by
  intro s c h
  rw [group, groupThen]
  cases hg : Tokens.group? .invisible c.rest with
  | none => exact ⟨_, rfl⟩
  | some g =>
    obtain ⟨e, he⟩ := hp ⟨g.2.1.closing, .invisible⟩ { c with rest := g.1 } (h.content hg)
    simp only [he]
    exact ⟨e, rfl⟩

theorem NeedsTokens.withSource {p : Reader α} (hp : p.NeedsTokens) :
    (withSource p).NeedsTokens := by
  intro s c h
  obtain ⟨e, he⟩ := hp s c h
  rw [Reader.withSource, he]
  exact ⟨e, rfl⟩

theorem NeedsTokens.loop {p : σ → Reader (Round σ α)} {state : σ} (hp : (p state).NeedsTokens) :
    (loop p state).NeedsTokens := by
  intro s c h
  rw [Reader.loop, Reader.loop.go]
  exact hp.bind _ s c h

/-! ## Looking ahead -/

theorem StopsAt.look {f : Tokens → α} (h : ∀ ts, f (ts ++ k.tokens) = f ts) :
    StopsAt k (look f) (look f) := by
  intro s c a c' hr
  cases hr
  rw [Reader.look, Cursor.rest_upTo, h]

@[simp] theorem StopsAt.peek {sign : Sign} (h : sign.noComma = true) :
    StopsAt k (peek sign) (peek sign) :=
  .look (Sign.shows_append k h)

theorem any_shows_congr {signs : List Sign} {ts us : Tokens}
    (h : ∀ sign ∈ signs, sign.shows us = sign.shows ts) :
    signs.any (·.shows us) = signs.any (·.shows ts) := by
  induction signs with
  | nil => rfl
  | cons sign signs ih =>
    rw [List.forall_mem_cons] at h
    rw [List.any_cons, List.any_cons, h.1, ih h.2]

@[simp] theorem StopsAt.peekAny {signs : List Sign} (h : signs.all Sign.noComma = true) :
    StopsAt k (peekAny signs) (peekAny signs) :=
  .look fun _ => any_shows_congr fun sign hm =>
    Sign.shows_append k (List.all_eq_true.mp h sign hm) _

/-- A look that counts only behind a sign. The continuations may differ where the sign does not
show, since the look can then reach beyond the comma. -/
theorem StopsAt.peekThen {sign : Sign} (hs : sign.noComma = true) {f : Tokens → β}
    {p q : Bool → β → Reader α}
    (hf : ∀ ts, sign.shows ts = true → f (ts ++ k.tokens) = f ts)
    (hpq : ∀ b v w, (b = true → w = v) → StopsAt k (p b v) (q b w)) :
    StopsAt k (do let b ← Reader.peek sign; let v ← Reader.look f; p b v)
      (do let b ← Reader.peek sign; let v ← Reader.look f; q b v) := by
  intro s c
  show Agrees k (p (sign.shows c.rest) (f c.rest) s c)
    (q (sign.shows (c.rest ++ k.tokens)) (f (c.rest ++ k.tokens)) s (c.upTo k))
  rw [Sign.shows_append k hs]
  exact hpq _ _ _ (hf c.rest) s c

/-- A double colon is two tokens, so what stands behind it stands before the comma. -/
@[simp] theorem StopsAt.peekBehind {sign : Sign} (h : sign.noComma = true) :
    StopsAt k (peekBehind sign) (peekBehind sign) := by
  refine .peekThen rfl ?_ ?_
  · intro ts hs
    obtain ⟨us, vs, hu, hv⟩ := Tokens.exists_skip?_skip? hs
    simp only [Tokens.skip?_append k hu, Tokens.skip?_append k hv, hu, hv, Option.bind_some,
      Option.any_some, Sign.shows_append k h]
  · intro b v w hw
    cases b with
    | false => exact .pure false
    | true => rw [hw rfl]; exact .pure _

@[simp] theorem StopsAt.showsLifetime :
    StopsAt k Grammar.showsLifetime Grammar.showsLifetime := by
  refine .peekThen rfl ?_ ?_
  · intro ts hs
    have behind : ¬ ts.Blank := by
      intro hb
      rw [Sign.shows_of_blank rfl hb] at hs
      cases hs
    obtain ⟨us, hu⟩ := Tokens.exists_skip? behind
    simp only [Tokens.skip?_append k hu, hu, Option.any_some]
    exact Sign.shows_append k rfl us
  · intro b v w hw
    cases b with
    | false => exact .pure false
    | true => rw [hw rfl]; exact .pure _

/-- Where nothing is left, a piece that needs tokens fails, so what shows there does not matter. -/
theorem StopsAt.look_needs {f : Tokens → Bool} {p q : Bool → Reader α}
    (hf : ∀ ts, ¬ ts.Blank → f (ts ++ k.tokens) = f ts) (hb : ∀ ts, ts.Blank → f ts = false)
    (hp : (p false).NeedsTokens) (hpq : ∀ v, StopsAt k (p v) (q v)) :
    StopsAt k (Reader.look f >>= p) (Reader.look f >>= q) := by
  intro s c
  show Agrees k (p (f c.rest) s c) (q (f (c.rest ++ k.tokens)) s (c.upTo k))
  by_cases h : c.rest.Blank
  · rw [hb c.rest h]
    obtain ⟨e, he⟩ := hp s c (.inl h)
    rw [he]
    exact Agrees.of_error
  · rw [hf c.rest h]
    exact hpq _ s c

theorem StopsAt.peekComma_needs {p q : Bool → Reader α} (hp : (p false).NeedsTokens)
    (hpq : ∀ v, StopsAt k (p v) (q v)) :
    StopsAt k (Reader.peek (.operator ",") >>= p) (Reader.peek (.operator ",") >>= q) :=
  .look_needs (fun _ h => Sign.shows_comma_append k h) (fun _ h => Sign.shows_of_blank rfl h) hp hpq

theorem StopsAt.peekAny_needs {signs : List Sign} (hv : signs.all Sign.visible = true)
    (hs : signs.all Sign.commaOrNone = true) {p q : Bool → Reader α} (hp : (p false).NeedsTokens)
    (hpq : ∀ v, StopsAt k (p v) (q v)) :
    StopsAt k (Reader.peekAny signs >>= p) (Reader.peekAny signs >>= q) := by
  refine .look_needs (fun ts h => ?_) (fun ts h => ?_) hp hpq
  · refine any_shows_congr fun sign hm => ?_
    exact Sign.shows_append_of_not_blank k (List.all_eq_true.mp hs sign hm) h
  · rw [List.any_eq_false]
    intro sign hm
    rw [Sign.shows_of_blank (List.all_eq_true.mp hv sign hm) h]
    exact Bool.false_ne_true

/-- A place is that of the next token, which is the same unless there is none. -/
theorem StopsAt.here_needs {p q : Span → Reader α} (hp : ∀ place, (p place).NeedsTokens)
    (hpq : ∀ place, StopsAt k (p place) (q place)) :
    StopsAt k (Reader.here >>= p) (Reader.here >>= q) := by
  intro s c
  match c with
  | ⟨[], stray⟩ =>
    obtain ⟨e, he⟩ := hp s.close s ⟨[], stray⟩ (.inl Tokens.blank_nil)
    show Agrees k (p s.close s ⟨[], stray⟩) _
    rw [he]
    exact Agrees.of_error
  | ⟨t :: ts, stray⟩ => exact hpq t.errorSpan s ⟨t :: ts, stray⟩

/-! ## Taking tokens -/

@[simp] theorem StopsAt.operator {text : String} (h : text.toList.contains ',' = false) :
    StopsAt k (operator text) (operator text) := by
  intro s c a c' hr
  simp only [List.contains_eq_mem, decide_eq_false_iff_not] at h
  simp only [Reader.operator] at hr ⊢
  rw [Cursor.rest_upTo, Tokens.operator?_append k h]
  cases ho : Tokens.operator? text.toList c.rest with
  | none => rw [ho] at hr; cases hr
  | some r => rw [ho] at hr; cases hr; rfl

/-- A comma among the tokens is taken before the one behind them. -/
@[simp] theorem StopsAt.comma : StopsAt k (Reader.operator ",") (Reader.operator ",") := by
  intro s c a c' hr
  have hc : ",".toList = [','] := rfl
  simp only [Reader.operator, hc] at hr ⊢
  by_cases hb : c.rest.Blank
  · rw [Tokens.operator?_of_blank hb (by simp)] at hr
    cases hr
  · rw [Cursor.rest_upTo, Tokens.operator?_comma_append k hb]
    cases ho : Tokens.operator? [','] c.rest with
    | none => rw [ho] at hr; cases hr
    | some r => rw [ho] at hr; cases hr; rfl

@[simp] theorem StopsAt.keyword (text : String) : StopsAt k (keyword text) (keyword text) := by
  intro s c a c' hr
  simp only [Reader.keyword] at hr ⊢
  rw [Cursor.rest_upTo, Tokens.word?_append]
  cases hw : Tokens.word? c.rest with
  | none => rw [hw] at hr; cases hr
  | some w =>
    simp only [hw, Option.map_some] at hr ⊢
    by_cases ht : w.1.text = text
    · rw [if_pos ht] at hr ⊢; cases hr; rfl
    · rw [if_neg ht] at hr; cases hr

@[simp] theorem StopsAt.identifier : StopsAt k identifier identifier := by
  intro s c a c' hr
  simp only [Reader.identifier] at hr ⊢
  rw [Cursor.rest_upTo, Tokens.word?_append]
  cases hw : Tokens.word? c.rest with
  | none => rw [hw] at hr; cases hr
  | some w =>
    simp only [hw, Option.map_some] at hr ⊢
    by_cases ht : isKeyword w.1.text = true
    · rw [if_pos ht] at hr; cases hr
    · rw [if_neg ht] at hr ⊢; cases hr; rfl

@[simp] theorem StopsAt.word : StopsAt k word word := by
  intro s c a c' hr
  simp only [Reader.word] at hr ⊢
  rw [Cursor.rest_upTo, Tokens.word?_append]
  cases hw : Tokens.word? c.rest with
  | none => rw [hw] at hr; cases hr
  | some w => rw [hw] at hr; cases hr; rfl

@[simp] theorem StopsAt.lifetime : StopsAt k lifetime lifetime := by
  intro s c a c' hr
  simp only [Reader.lifetime] at hr ⊢
  rw [Cursor.rest_upTo, Tokens.lifetime?_append]
  cases hl : Tokens.lifetime? c.rest with
  | none => rw [hl] at hr; cases hr
  | some l => rw [hl] at hr; cases hr; rfl

@[simp] theorem StopsAt.literal : StopsAt k literal literal := by
  intro s c a c' hr
  simp only [Reader.literal] at hr ⊢
  rw [Cursor.rest_upTo, Tokens.value?_append]
  cases hl : Tokens.value? c.rest with
  | none => rw [hl] at hr; cases hr
  | some l => rw [hl] at hr; cases hr; rfl

@[simp] theorem StopsAt.literalOf {sign : Sign} (h : sign.noComma = true) :
    StopsAt k (literalOf sign) (literalOf sign) := by
  intro s c a c' hr
  simp only [Reader.literalOf] at hr ⊢
  rw [Cursor.rest_upTo, Sign.shows_append k h]
  by_cases hs : sign.shows c.rest = true
  · rw [if_pos hs] at hr ⊢
    exact StopsAt.literal s c a c' hr
  · rw [if_neg hs] at hr; cases hr

@[simp] theorem StopsAt.anyGroup : StopsAt k anyGroup anyGroup := by
  intro s c a c' hr
  simp only [Reader.anyGroup] at hr ⊢
  rw [Cursor.rest_upTo]
  match hts : c.rest with
  | [] | .ident .. :: _ | .punct .. :: _ | .literal .. :: _ => rw [hts] at hr; cases hr
  | .group d content span :: rest =>
    simp only [hts, List.cons_append] at hr ⊢
    by_cases hd : d = .invisible
    · rw [if_pos hd] at hr; cases hr
    · rw [if_neg hd] at hr ⊢; cases hr; rfl

/-! ## Optional pieces -/

theorem StopsAt.optional {sign : Sign} (hs : sign.noComma = true) {p q : Reader Tokens}
    (h : StopsAt k p q) : StopsAt k (optional sign p) (optional sign q) :=
  .bind (.peek hs) fun _ => .ite h (.pure [])

@[simp] theorem StopsAt.operator? {text : String} (h : text.toList.contains ',' = false) :
    StopsAt k (operator? text) (operator? text) :=
  .optional (by rw [Sign.noComma, h]; rfl) (.operator h)

@[simp] theorem StopsAt.keyword? (text : String) : StopsAt k (keyword? text) (keyword? text) :=
  .optional rfl (.keyword text)

/-! ## Groups -/

/-- The contents of a group are the same, so reading them has only to be as deep. -/
@[gcongr] theorem StopsAt.groupThen {d : Delimiter} {p q : Reader α} {f h : Span → α → Reader β}
    (hp : p.Below q) (hf : ∀ span a, StopsAt k (f span a) (h span a)) :
    StopsAt k (groupThen d p f) (groupThen d q h) := by
  intro s c b c' hr
  simp only [Reader.groupThen] at hr ⊢
  rw [Cursor.rest_upTo, Tokens.group?_append]
  cases hg : Tokens.group? d c.rest with
  | none => rw [hg] at hr; cases hr
  | some g =>
    obtain ⟨content, span, rest⟩ := g
    simp only [hg, Option.map_some] at hr ⊢
    cases hi : p ⟨span.closing, d⟩ { c with rest := content } with
    | error e => rw [hi] at hr; cases hr
    | ok r =>
      obtain ⟨a, c₁⟩ := r
      have hq : q ⟨span.closing, d⟩ { c.upTo k with rest := content } = .ok (a, c₁) := hp.of_ok hi
      simp only [hi] at hr
      simp only [hq]
      cases ha : f span a s { c₁ with rest } with
      | error e => rw [ha] at hr; cases hr
      | ok r =>
        obtain ⟨b', c₂⟩ := r
        have hh : h span a s { c₁ with rest := rest ++ k.tokens } = .ok (b', c₂.upTo k) :=
          hf span a s _ _ _ ha
        simp only [ha] at hr
        simp only [hh]
        cases hr
        rfl

@[gcongr] theorem StopsAt.group {d : Delimiter} {p q : Reader α} (h : p.Below q) :
    StopsAt k (group d p) (group d q) :=
  .groupThen h fun _ _ => .pure _

@[gcongr] theorem StopsAt.groupTokens {d : Delimiter} {p q : Reader Tokens} (h : p.Below q) :
    StopsAt k (groupTokens d p) (groupTokens d q) :=
  .bind (.group h) fun _ => .pure _

/-! ## Sources -/

theorem between_cons (stop : Nat) (t : Token) (ts : Tokens) :
    between stop (t :: ts) =
      if Tokens.weight (t :: ts) ≤ stop then []
      else if stop ≤ Tokens.weight ts then t :: between stop ts
      else
        match t with
        | .group _ content _ => between stop (content ++ ts)
        | t => [t] := by
  cases t <;> rw [between]
  all_goals simp

theorem between_append (e : Tokens) (stop : Nat) (ts : Tokens) :
    between (stop + e.weight) (ts ++ e) = between stop ts := by
  have front : ∀ (t : Token) (us : Tokens),
      Tokens.weight (t :: (us ++ e)) ≤ stop + e.weight ↔ Tokens.weight (t :: us) ≤ stop := by
    intro t us
    rw [← List.cons_append, Tokens.weight_append]
    omega
  have behind : ∀ us : Tokens, stop + e.weight ≤ (us ++ e).weight ↔ stop ≤ us.weight := by
    intro us
    rw [Tokens.weight_append]
    omega
  fun_induction between stop ts with
  | case1 =>
    cases e with
    | nil => rw [List.append_nil, between]
    | cons t e => rw [List.nil_append, between_cons, if_pos (by omega)]
  | case2 t ts h => rw [List.cons_append, between_cons, if_pos ((front t ts).mpr h)]
  | case3 t ts h h' ih =>
    rw [List.cons_append, between_cons, if_neg (mt (front t ts).mp h), if_pos ((behind ts).mpr h'),
      ih]
  | case4 ts h' d content place h ih =>
    rw [List.cons_append, between_cons, if_neg (mt (front _ ts).mp h),
      if_neg (mt (behind ts).mp h')]
    rw [List.append_assoc] at ih
    exact ih
  | case5 ts h' t hd h =>
    rw [List.cons_append, between_cons, if_neg (mt (front t ts).mp h),
      if_neg (mt (behind ts).mp h')]
    cases t with
    | group d content place => exact absurd rfl (hd d content place)
    | ident | punct | literal => rfl

@[gcongr] theorem StopsAt.withSource {p q : Reader α} (h : StopsAt k p q) :
    StopsAt k (withSource p) (withSource q) := by
  intro s c a c' hr
  simp only [Reader.withSource] at hr ⊢
  cases hp : p s c with
  | error e => rw [hp] at hr; cases hr
  | ok r =>
    obtain ⟨b, c₁⟩ := r
    rw [hp] at hr
    cases hr
    rw [h s c _ _ hp]
    simp only [Cursor.weight, Cursor.rest_upTo, Tokens.weight_append, between_append]

/-! ## Loops -/

theorem StopsAt.go {p q : σ → Reader (Round σ α)} (h : ∀ state, StopsAt k (p state) (q state))
    (extra : Nat) : ∀ (n : Nat) (state : σ),
      StopsAt k (loop.go p n state) (loop.go q (n + extra) state)
  | 0, _ => .complain _ _
  | n + 1, state => by
    rw [Nat.add_right_comm, Reader.loop.go, Reader.loop.go]
    refine (h state).bind fun r => ?_
    cases r with
    | again state => exact StopsAt.go h extra n state
    | done a => exact .pure a

@[gcongr] theorem StopsAt.loop {p q : σ → Reader (Round σ α)}
    (h : ∀ state, StopsAt k (p state) (q state)) (state : σ) : StopsAt k (loop p state) (loop q state) := by
  intro s c
  have rounds : (c.upTo k).weight + 1 = c.weight + 1 + k.tokens.weight := by
    simp only [Cursor.weight, Cursor.rest_upTo, Tokens.weight_append]
    omega
  rw [Reader.loop, Reader.loop, rounds]
  exact StopsAt.go h _ _ state s c

@[gcongr] theorem StopsAt.pieces {p q : Reader (Tokens × Bool)} (h : StopsAt k p q) :
    StopsAt k (pieces p) (pieces q) :=
  .loop (fun _ => .bind h fun _ => .pure _) []

@[gcongr] theorem StopsAt.whileM {more more' : Reader Bool} {p q : Reader α} (hm : StopsAt k more more')
    (h : StopsAt k p q) : StopsAt k (whileM more p) (whileM more' q) :=
  .loop (fun _ => .bind hm fun _ => .ite (.bind h fun _ => .pure _) (.pure _)) []

end Reader

end TypedId
