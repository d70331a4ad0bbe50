/-
Readers that succeed, step by step. Each lemma says exactly when a reader
gives a value, what it then takes from the front and what it gives; a loop
whose rounds all take something is its first round and then the loop again,
the bound on the rounds forgotten (`loop_eq_ok_iff`).
-/
import TypedId.Derives
import TypedId.Proofs.BeforeComma.Signs
import TypedId.Proofs.Depth

namespace TypedId

theorem result_bind_eq_ok_iff {ε α β : Type} {x : Except ε α} {f : α → Except ε β} {b : β} :
    (x >>= f) = .ok b ↔ ∃ a, x = .ok a ∧ f a = .ok b := by
  cases x with
  | error e =>
    constructor
    · intro h
      cases h
    · rintro ⟨a, ⟨⟩, -⟩
  | ok a =>
    constructor
    · exact fun h => ⟨a, rfl, h⟩
    · rintro ⟨_, ⟨⟩, h⟩
      exact h

theorem mapError_eq_ok_iff {ε ε' α : Type} {x : Except ε α} {f : ε → ε'} {a : α} :
    x.mapError f = .ok a ↔ x = .ok a := by
  cases x <;> simp [Except.mapError]

/-- A string literal is one that has a text. -/
theorem Token.Literal.kind_eq_string_iff {written : String} :
    kind written = .string ↔ ∃ value, stringValue? written = some value := by
  rw [kind, stringValue?]
  split
  · next rest hw => simp [hw]
  · next rest hw => simp [hw]
  · next rest hw => cases isFloat rest <;> simp [hw]
  · next c rest _ _ _ _ => cases c.isDigit <;> cases isFloat (c :: rest) <;> simp_all
  · next hw => simp [hw]

/-! ## What is in front -/

namespace Tokens

/-- A comma, and the tokens behind it. -/
def Comma (ts rest : Tokens) : Prop :=
  ∃ joint place, ts.enter = .punct ',' joint place :: rest

/-- A double colon, its place, and the tokens behind it. -/
def DoubleColon (ts : Tokens) (place : Span) (rest : Tokens) : Prop :=
  ∃ (first : Span) (mid : Tokens) (joint : Bool) (second : Span),
    ts.enter = .punct ':' true first :: mid ∧ mid.enter = .punct ':' joint second :: rest ∧
    place = first.join second

/-- A string literal, and the tokens behind it. -/
def Text (ts : Tokens) (l : TextLiteral) (rest : Tokens) : Prop :=
  ∃ written, ts.enter = .literal written l.span :: rest ∧
    Token.Literal.stringValue? written = some (l.text, l.suffix)

theorem weight_lt_of_enter {ts rest : Tokens} {t : Token} (h : ts.enter = t :: rest) :
    rest.weight < ts.weight := by
  have entered := weight_enter ts
  rw [h, weight_cons] at entered
  have := weight_pos t
  omega

theorem Comma.weight_lt {ts rest : Tokens} (h : ts.Comma rest) : rest.weight < ts.weight := by
  obtain ⟨_, _, he⟩ := h
  exact weight_lt_of_enter he

theorem DoubleColon.weight_lt {ts rest : Tokens} {place : Span} (h : ts.DoubleColon place rest) :
    rest.weight < ts.weight := by
  obtain ⟨_, _, _, _, he, hm, -⟩ := h
  exact Nat.lt_trans (weight_lt_of_enter hm) (weight_lt_of_enter he)

theorem mark?_eq_some_iff {ts rest : Tokens} {c : Char} {joint : Bool} {place : Span}
    (hc : c ≠ '\x27') :
    mark? ts = some (c, joint, place, rest) ↔ ts.enter = .punct c joint place :: rest := by
  rw [mark?]
  constructor
  · intro h
    split at h
    · next he =>
      split at h
      · cases h
      · cases h; exact he
    · cases h
  · intro h
    simp only [h, if_neg hc]

theorem operator?_one_eq_some_iff {c : Char} (hc : c ≠ '\x27') {ts marks rest : Tokens} :
    operator? [c] ts = some (marks, rest) ↔
      ∃ joint place, ts.enter = .punct c joint place :: rest ∧ marks = [.punct c false place] := by
  rw [operator?]
  constructor
  · intro h
    split at h
    · next c' joint place us hm =>
      split at h
      · next same =>
        cases h
        rw [same] at hm
        exact ⟨joint, place, (mark?_eq_some_iff hc).mp hm, rfl⟩
      · cases h
    · cases h
  · rintro ⟨joint, place, he, rfl⟩
    rw [(mark?_eq_some_iff hc).mpr he]
    exact if_pos rfl

theorem operator?_cons_eq_some_iff {c : Char} (hc : c ≠ '\x27') {cs : List Char} (hcs : cs ≠ [])
    {ts marks rest : Tokens} :
    operator? (c :: cs) ts = some (marks, rest) ↔
      ∃ place mid more, ts.enter = .punct c true place :: mid ∧
        operator? cs mid = some (more, rest) ∧ marks = .punct c true place :: more := by
  rw [operator?.eq_3 ts c cs hcs]
  constructor
  · intro h
    split at h
    · next c' joint place mid hm =>
      split at h
      · next same =>
        rw [Bool.and_eq_true, decide_eq_true_iff] at same
        obtain ⟨r, hr, heq⟩ := Option.map_eq_some_iff.mp h
        cases heq
        rw [same.1, same.2] at hm
        exact ⟨place, mid, r.1, (mark?_eq_some_iff hc).mp hm, hr, rfl⟩
      · cases h
    · cases h
  · rintro ⟨place, mid, more, he, hm, rfl⟩
    rw [(mark?_eq_some_iff hc).mpr he]
    simp [hm]

theorem operator?_doubleColon_eq_some_iff {ts marks rest : Tokens} :
    operator? [':', ':'] ts = some (marks, rest) ↔
      ∃ (first : Span) (mid : Tokens) (joint : Bool) (second : Span),
        ts.enter = .punct ':' true first :: mid ∧ mid.enter = .punct ':' joint second :: rest ∧
        marks = [.punct ':' true first, .punct ':' false second] := by
  rw [operator?_cons_eq_some_iff (by decide) (List.cons_ne_nil _ _)]
  constructor
  · rintro ⟨first, mid, more, he, hm, rfl⟩
    obtain ⟨joint, second, hs, rfl⟩ := (operator?_one_eq_some_iff (by decide)).mp hm
    exact ⟨first, mid, joint, second, he, hs, rfl⟩
  · rintro ⟨first, mid, joint, second, he, hs, rfl⟩
    have later := (operator?_one_eq_some_iff (by decide)).mpr ⟨joint, second, hs, rfl⟩
    exact ⟨first, mid, _, he, later, rfl⟩

theorem shows_doubleColon_iff {ts : Tokens} :
    (Sign.operator "::").shows ts = true ↔ ∃ place rest, ts.DoubleColon place rest := by
  have marks : "::".toList = [':', ':'] := by decide
  rw [Sign.shows, marks, Option.isSome_iff_exists]
  constructor
  · rintro ⟨⟨taken, rest⟩, h⟩
    obtain ⟨first, mid, joint, second, he, hs, -⟩ := operator?_doubleColon_eq_some_iff.mp h
    exact ⟨_, rest, first, mid, joint, second, he, hs, rfl⟩
  · rintro ⟨place, rest, first, mid, joint, second, he, hs, -⟩
    exact ⟨_, operator?_doubleColon_eq_some_iff.mpr ⟨first, mid, joint, second, he, hs, rfl⟩⟩

theorem shows_doubleColon_eq_false_iff {ts : Tokens} :
    (Sign.operator "::").shows ts = false ↔ ∀ place rest, ¬ ts.DoubleColon place rest := by
  rw [← Bool.not_eq_true, shows_doubleColon_iff]
  simp only [not_exists]

theorem shows_mark_iff {c : Char} (hc : c ≠ '\x27') {ts : Tokens} :
    (Sign.operator (String.singleton c)).shows ts = true ↔
      ∃ joint place rest, ts.enter = .punct c joint place :: rest := by
  have mark : (String.singleton c).toList = [c] := by simp
  rw [Sign.shows, mark, Option.isSome_iff_exists]
  constructor
  · rintro ⟨⟨marks, rest⟩, h⟩
    obtain ⟨joint, place, he, -⟩ := (operator?_one_eq_some_iff hc).mp h
    exact ⟨joint, place, rest, he⟩
  · rintro ⟨joint, place, rest, he⟩
    exact ⟨_, (operator?_one_eq_some_iff hc).mpr ⟨joint, place, he, rfl⟩⟩

theorem shows_comma_iff {ts : Tokens} :
    (Sign.operator ",").shows ts = true ↔ ∃ rest, ts.Comma rest := by
  refine (shows_mark_iff (c := ',') (by decide)).trans ?_
  constructor
  · rintro ⟨joint, place, rest, he⟩
    exact ⟨rest, joint, place, he⟩
  · rintro ⟨rest, joint, place, he⟩
    exact ⟨joint, place, rest, he⟩

theorem shows_comma_eq_false_iff {ts : Tokens} :
    (Sign.operator ",").shows ts = false ↔ ∀ rest, ¬ ts.Comma rest := by
  rw [← Bool.not_eq_true, shows_comma_iff]
  simp only [not_exists]

theorem shows_text_iff {ts : Tokens} :
    Sign.stringLiteral.shows ts = true ↔ ∃ l rest, ts.Text l rest := by
  rw [Sign.shows, literal?]
  constructor
  · intro h
    split at h
    · next written place rest he =>
      obtain ⟨value, hv⟩ := Token.Literal.kind_eq_string_iff.mp (of_decide_eq_true h)
      exact ⟨⟨value.1, value.2, place⟩, rest, written, he, hv⟩
    · cases h
  · rintro ⟨l, rest, written, he, hv⟩
    simp only [he]
    exact decide_eq_true (Token.Literal.kind_eq_string_iff.mpr ⟨_, hv⟩)

theorem shows_text_eq_false_iff {ts : Tokens} :
    Sign.stringLiteral.shows ts = false ↔ ∀ l rest, ¬ ts.Text l rest := by
  rw [← Bool.not_eq_true, shows_text_iff]
  simp only [not_exists]

theorem shows_word_iff {ts : Tokens} :
    Sign.word.shows ts = true ↔ ∃ (i : Ident) (rest : Tokens), ts.enter = i.token :: rest := by
  rw [Sign.shows, Option.isSome_iff_exists]
  constructor
  · rintro ⟨⟨i, rest⟩, h⟩
    exact ⟨i, rest, enter_eq_of_word? h⟩
  · rintro ⟨i, rest, he⟩
    exact ⟨_, word?_of_enter he⟩

end Tokens

namespace Reader

variable {α β σ : Type} {s : Scope} {ts : Tokens} {stray : Option Fault}

theorem bind_eq_ok_iff {p : Reader α} {f : α → Reader β} {c : Cursor} {r : β × Cursor} :
    (p >>= f) s c = .ok r ↔ ∃ a c', p s c = .ok (a, c') ∧ f a s c' = .ok r := by
  rw [bind_apply]
  cases p s c with
  | error f => simp
  | ok r =>
    constructor
    · exact fun h => ⟨r.1, r.2, rfl, h⟩
    · rintro ⟨_, _, hr, h⟩
      cases hr
      exact h

theorem atEnd_bind (f : Bool → Reader β) (c : Cursor) :
    (atEnd >>= f) s c = f c.rest.isEmpty s c := rfl

theorem peek_bind (sign : Sign) (f : Bool → Reader β) (c : Cursor) :
    (peek sign >>= f) s c = f (sign.shows c.rest) s c := rfl

/-! ## Taking one piece -/

theorem word_eq_ok_iff {i : Ident} {c : Cursor} :
    word s ⟨ts, stray⟩ = .ok (i, c) ↔ ∃ rest, ts.enter = i.token :: rest ∧ c = ⟨rest, stray⟩ := by
  rw [word]
  constructor
  · intro h
    split at h
    · next hw => cases h; exact ⟨_, Tokens.enter_eq_of_word? hw, rfl⟩
    · cases h
  · rintro ⟨rest, he, rfl⟩
    simp only [Tokens.word?_of_enter he]

theorem comma_eq_ok_iff {c : Cursor} :
    (∃ marks, operator "," s ⟨ts, stray⟩ = .ok (marks, c)) ↔
      ∃ rest, ts.Comma rest ∧ c = ⟨rest, stray⟩ := by
  have mark : ",".toList = [','] := by decide
  simp only [operator, mark]
  constructor
  · rintro ⟨marks, h⟩
    split at h
    · next ho =>
      cases h
      obtain ⟨joint, place, he, -⟩ := (Tokens.operator?_one_eq_some_iff (by decide)).mp ho
      exact ⟨_, ⟨joint, place, he⟩, rfl⟩
    · cases h
  · rintro ⟨rest, ⟨joint, place, he⟩, rfl⟩
    rw [(Tokens.operator?_one_eq_some_iff (by decide)).mpr ⟨joint, place, he, rfl⟩]
    exact ⟨_, rfl⟩

theorem comma_bind_eq_ok_iff {p : Reader β} {r : β × Cursor} :
    (operator "," >>= fun _ => p) s ⟨ts, stray⟩ = .ok r ↔
      ∃ rest, ts.Comma rest ∧ p s ⟨rest, stray⟩ = .ok r := by
  rw [bind_eq_ok_iff]
  constructor
  · rintro ⟨marks, c, hc, hp⟩
    obtain ⟨rest, comma, rfl⟩ := comma_eq_ok_iff.mp ⟨marks, hc⟩
    exact ⟨rest, comma, hp⟩
  · rintro ⟨rest, comma, hp⟩
    obtain ⟨marks, hc⟩ := comma_eq_ok_iff.mpr ⟨rest, comma, rfl⟩
    exact ⟨marks, _, hc, hp⟩

theorem separator_eq_ok_iff {place : Span} {c : Cursor} :
    Grammar.separator s ⟨ts, stray⟩ = .ok (place, c) ↔
      ∃ rest, ts.DoubleColon place rest ∧ c = ⟨rest, stray⟩ := by
  have marks : "::".toList = [':', ':'] := by decide
  rw [Grammar.separator, bind_eq_ok_iff]
  simp only [operator, marks, pure_apply]
  constructor
  · rintro ⟨taken, c', h, hp⟩
    cases hp
    split at h
    · next ho =>
      cases h
      obtain ⟨first, mid, joint, second, he, hs, rfl⟩ :=
        Tokens.operator?_doubleColon_eq_some_iff.mp ho
      exact ⟨_, ⟨first, mid, joint, second, he, hs, rfl⟩, rfl⟩
    · cases h
  · rintro ⟨rest, ⟨first, mid, joint, second, he, hs, rfl⟩, rfl⟩
    rw [Tokens.operator?_doubleColon_eq_some_iff.mpr ⟨first, mid, joint, second, he, hs, rfl⟩]
    exact ⟨_, _, rfl, rfl⟩

theorem textLiteral_eq_ok_iff {l : TextLiteral} {c : Cursor} :
    textLiteral s ⟨ts, stray⟩ = .ok (l, c) ↔ ∃ rest, ts.Text l rest ∧ c = ⟨rest, stray⟩ := by
  have read : ∀ {l' rest}, ts.Text l' rest →
      textLiteral s ⟨ts, stray⟩ = .ok (l', ⟨rest, stray⟩) := by
    rintro l' rest ⟨written, he, hv⟩
    have shown : Sign.stringLiteral.shows ts = true :=
      Tokens.shows_text_iff.mpr ⟨l', rest, written, he, hv⟩
    have taken : literalOf .stringLiteral s ⟨ts, stray⟩ =
        .ok ([.literal written l'.span], ⟨rest, stray⟩) := by
      rw [literalOf, if_pos shown, literal, Tokens.value?, he]
    rw [textLiteral, bind_apply, taken]
    simp [hv, Token.span]
  constructor
  · intro h
    by_cases shown : Sign.stringLiteral.shows ts = true
    · obtain ⟨l', rest, text⟩ := Tokens.shows_text_iff.mp shown
      rw [read text] at h
      cases h
      exact ⟨rest, text, rfl⟩
    · rw [textLiteral, bind_apply, literalOf, if_neg shown] at h
      cases h
  · rintro ⟨rest, text, rfl⟩
    exact read text

/-- A group that was read, and what was read in it. -/
theorem group_of_ok {d : Delimiter} {p : Reader α} {c c' : Cursor} {place : Span} {a : α}
    (h : group d p s c = .ok ((place, a), c')) :
    ∃ content rest c₁, Tokens.group? d c.rest = some (content, place, rest) ∧
      p ⟨place.closing, d⟩ { c with rest := content } = .ok (a, c₁) ∧
      c' = ⟨rest, c₁.stray <|> remainder d c₁.rest⟩ := by
  rw [group, groupThen] at h
  split at h
  · next content place' rest front =>
    split at h
    · next a' c₁ inner =>
      cases h
      exact ⟨content, rest, c₁, front, inner, rfl⟩
    · cases h
  · cases h

/-! ## Whole inputs -/

/-- Nothing may be left over, neither at the end nor in a group. -/
theorem runIn_eq_ok_iff {p : Reader α} {a : α} :
    runIn s p ts = .ok a ↔
      ∃ rest, p s ⟨ts, none⟩ = .ok (a, ⟨rest, none⟩) ∧ remainder s.delimiter rest = none := by
  rw [runIn]
  constructor
  · intro h
    split at h
    · cases h
    · next a' c hp =>
      obtain ⟨rest, stray⟩ := c
      cases stray with
      | some f => cases h
      | none =>
        cases hr : remainder s.delimiter rest with
        | some f => rw [hr] at h; cases h
        | none => rw [hr] at h; cases h; exact ⟨rest, hp, hr⟩
  · rintro ⟨rest, hp, hr⟩
    rw [hp]
    simp only [hr]
    rfl

/-! ## Loops -/

variable {round : σ → Reader (Round σ α)}

/-- A round, and what is left of the bound for the others. -/
theorem go_succ_eq_ok_iff {n : Nat} {state : σ} {c : Cursor} {r : α × Cursor} :
    loop.go round (n + 1) state s c = .ok r ↔
      round state s c = .ok (.done r.1, r.2) ∨
      ∃ state' c', round state s c = .ok (.again state', c') ∧
        loop.go round n state' s c' = .ok r := by
  rw [loop.go, bind_apply]
  cases hr : round state s c with
  | error f => simp
  | ok first =>
    obtain ⟨first, c'⟩ := first
    cases first with
    | done a => simp [Prod.ext_iff]
    | again state' =>
      simp only [Except.ok.injEq, Prod.mk.injEq, reduceCtorEq, false_and, false_or]
      constructor
      · exact fun h => ⟨state', c', ⟨rfl, rfl⟩, h⟩
      · rintro ⟨_, _, ⟨⟨⟩, rfl⟩, h⟩
        exact h

/-- What every round keeps holds in the end. -/
theorem go_keeps {P : σ → Prop} {Q : α → Prop}
    (again : ∀ {state s c state' c'}, P state →
      round state s c = .ok (.again state', c') → P state')
    (done : ∀ {state s c a c'}, P state → round state s c = .ok (.done a, c') → Q a) {n : Nat}
    {state : σ} {c : Cursor} {r : α × Cursor} (start : P state)
    (h : loop.go round n state s c = .ok r) : Q r.1 := by
  induction n generalizing state c with
  | zero => cases h
  | succ n ih =>
    rcases go_succ_eq_ok_iff.mp h with last | ⟨state', c', first, later⟩
    · exact done start last
    · exact ih (again start first) later

theorem loop_keeps {P : σ → Prop} {Q : α → Prop}
    (again : ∀ {state s c state' c'}, P state →
      round state s c = .ok (.again state', c') → P state')
    (done : ∀ {state s c a c'}, P state → round state s c = .ok (.done a, c') → Q a)
    {state : σ} {c c' : Cursor} {a : α} (start : P state)
    (h : loop round state s c = .ok (a, c')) : Q a :=
  go_keeps again done start h

/-- A round that is not the last takes something. -/
def Lowers (round : σ → Reader (Round σ α)) : Prop :=
  ∀ s state c state' c', round state s c = .ok (.again state', c') → c'.weight < c.weight

/-- Enough rounds are as good as more. -/
theorem go_eq_of_lowers (h : Lowers round) {n m : Nat} (state : σ) {c : Cursor}
    (hn : c.weight < n) (hm : c.weight < m) :
    loop.go round n state s c = loop.go round m state s c := by
  induction n generalizing m state c with
  | zero => omega
  | succ n ih =>
    obtain ⟨m, rfl⟩ := Nat.exists_eq_add_of_lt hm
    rw [loop.go, loop.go, bind_apply, bind_apply]
    cases hr : round state s c with
    | error f => rfl
    | ok r =>
      obtain ⟨r, c'⟩ := r
      cases r with
      | done a => rfl
      | again state' =>
        have less := h s state c state' c' hr
        exact ih state' (by omega) (by omega)

/-- A loop is its first round, and the loop again behind it. -/
theorem loop_eq_ok_iff (h : Lowers round) {state : σ} {c : Cursor} {r : α × Cursor} :
    loop round state s c = .ok r ↔
      round state s c = .ok (.done r.1, r.2) ∨
      ∃ state' c', round state s c = .ok (.again state', c') ∧ loop round state' s c' = .ok r := by
  rw [loop, go_succ_eq_ok_iff]
  refine or_congr_right (exists₂_congr fun state' c' => and_congr_right fun hr => ?_)
  have less := h s state c state' c' hr
  rw [loop, go_eq_of_lowers h state' less (Nat.lt_succ_self c'.weight)]

end Reader

end TypedId
