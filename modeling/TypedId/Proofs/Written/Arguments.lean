/-
Generic arguments, read where they are written: lifetimes, literals, types
and named types in angle brackets, behind the word of a path that they belong
to (`argumentsBehind_angles`).
-/
import TypedId.Proofs.Written.Lists

namespace TypedId

open Reader

/-! ## Where a type ends -/

namespace Tokens

/-- Nothing follows that a type could go on with. -/
structure EndsType (plus : Bool) (ts : Tokens) : Prop where
  colons : (Sign.operator "::").shows ts = false
  angle : (Sign.operator "<").shows ts = false
  bang : ((Sign.operator "!").shows ts && !(Sign.operator "!=").shows ts) = false
  arrow : (Sign.operator "->").shows ts = false
  parens : (Sign.group .parenthesis).shows ts = false
  sum : plus = true → (Sign.operator "+").shows ts = false

variable {ts : Tokens} {plus : Bool}

theorem EndsType.noAngles (h : ts.EndsType plus) : NoAngles false ts :=
  .of_noColons (fun _ => h.angle) h.colons

theorem EndsType.withoutSum (h : ts.EndsType plus) : ts.EndsType false :=
  ⟨h.colons, h.angle, h.bang, h.arrow, h.parens, nofun⟩

theorem AtComma.endsType (h : ts.AtComma) (plus : Bool) : ts.EndsType plus := by
  rcases h with rfl | ⟨place, more, rfl⟩ <;> exact ⟨rfl, rfl, rfl, rfl, rfl, fun _ => rfl⟩

theorem AtAngle.endsType (h : ts.AtAngle) (plus : Bool) : ts.EndsType plus := by
  obtain ⟨c, place, more, rfl | rfl, rfl⟩ := h <;> exact ⟨rfl, rfl, rfl, rfl, rfl, fun _ => rfl⟩

end Tokens

/-! ## Where a type begins -/

/-- The words that a type begins with, besides those of a path. -/
def typeWords : List String := ["fn", "unsafe", "extern", "dyn", "impl", "for", "_"]

/-- Whether a type can begin with the token. -/
def Token.opensType : Token → Bool
  | .ident x _ => isSegmentWord x || typeWords.contains x
  | .punct c _ _ => [':', '<', '*', '&', '!'].contains c
  | .group d _ _ => d == .parenthesis || d == .bracket
  | .literal _ _ => false

/-- What is looked for where a type may follow, and is no beginning of one. -/
def otherSigns : List Sign :=
  [.lifetime, .literal, .group .brace, .operator ">", .operator ",", .operator "?", .operator "#",
   .operator "...", .keyword "mut", .keyword "const"]

theorem Token.otherSigns_of_opensType {t : Token} (h : t.opensType = true) (more : Tokens) :
    otherSigns.any (·.shows (t :: more)) = false := by
  cases t with
  | literal => cases h
  | group d content place =>
    cases d with
    | parenthesis | bracket => rfl
    | brace | invisible => cases h
  | punct c j place =>
    simp only [opensType, List.contains_cons, List.contains_nil, Bool.or_false, Bool.or_eq_true,
      beq_iff_eq] at h
    rcases h with rfl | rfl | rfl | rfl | rfl <;> cases j <;> rfl
  | ident x place =>
    have apart {y : String} (other : (isSegmentWord y || typeWords.contains y) = false) :
        x ≠ y := by
      rintro rfl
      exact Bool.false_ne_true (other.symm.trans h)
    have value : Tokens.value? (.ident x place :: more) =
        if x = "true" || x = "false" then some ([.ident x place], more) else none := rfl
    have literal : Sign.literal.shows (.ident x place :: more) = false := by
      simp [Sign.shows, value, apart (y := "true") (by decide), apart (y := "false") (by decide)]
    have keyword {y : String} (other : (isSegmentWord y || typeWords.contains y) = false) :
        (Sign.keyword y).shows (.ident x place :: more) = false :=
      decide_eq_false (apart other)
    have marks : [Sign.lifetime, .group .brace, .operator ">", .operator ",", .operator "?",
        .operator "#", .operator "..."].any (·.shows (.ident x place :: more)) = false := rfl
    simp only [List.any_cons, List.any_nil, Bool.or_false, Bool.or_eq_false_iff] at marks
    simp only [otherSigns, List.any_cons, List.any_nil, literal, marks,
      keyword (y := "mut") (by decide), keyword (y := "const") (by decide), Bool.or_false]

/-- A sign shows what is in front, whatever hides it. -/
theorem Sign.shows_congr {sign : Sign} (hs : sign.visible = true) {ts us : Tokens}
    (h : ts.enter = us.enter) : sign.shows ts = sign.shows us := by
  have marks : Tokens.mark? ts = Tokens.mark? us := by simp only [Tokens.mark?, h]
  cases sign with
  | operator text =>
    rw [shows, shows]
    cases hc : text.toList with
    | nil => simp [visible, hc] at hs
    | cons c cs => cases cs <;> simp only [Tokens.operator?, marks]
  | group d =>
    simp only [visible, bne_iff_ne] at hs
    simp only [shows, Tokens.group?, if_neg hs, h]
  | keyword | identifier | word => simp only [shows, Tokens.word?, h]
  | lifetime => simp only [shows, Tokens.lifetime?, h]
  | stringLiteral => simp only [shows, Tokens.literal?, h]
  | literal | integerLiteral | floatLiteral => simp only [shows, shows.kindIs, Tokens.value?, h]

namespace Tokens

theorem enter_of_opensType {t : Token} (h : t.opensType = true) (more : Tokens) :
    enter (t :: more) = t :: more := by
  cases t with
  | group d content place =>
    cases d with
    | invisible => cases h
    | parenthesis | bracket | brace => rfl
  | ident | punct | literal => rfl

/-- The tokens begin as a type does. -/
def TypeFront (ts : Tokens) : Prop := ∃ t more, ts.enter = t :: more ∧ t.opensType = true

theorem TypeFront.cons {t : Token} (h : t.opensType = true) (more : Tokens) :
    TypeFront (t :: more) := ⟨t, more, enter_of_opensType h more, h⟩

theorem TypeFront.append {ts : Tokens} (h : ts.TypeFront) (more : Tokens) :
    TypeFront (ts ++ more) := by
  obtain ⟨t, behind, front, opens⟩ := h
  exact ⟨t, behind ++ more, enter_append_of_cons front more, opens⟩

theorem TypeFront.ne_nil {ts : Tokens} (h : ts.TypeFront) : ts ≠ [] := by
  rintro rfl
  obtain ⟨t, more, front, -⟩ := h
  cases front

theorem TypeFront.inserted {ts : Tokens} (h : ts.TypeFront) (place : Span) :
    TypeFront [.group .invisible ts place] := by
  obtain ⟨t, more, front, opens⟩ := h
  refine ⟨t, more, ?_, opens⟩
  rw [enter_invisible, if_neg (by rw [front]; exact List.cons_ne_nil _ _), front, List.append_nil]

theorem TypeFront.otherSigns {ts : Tokens} (h : ts.TypeFront) (rest : Tokens) :
    otherSigns.any (·.shows (ts ++ rest)) = false := by
  obtain ⟨t, more, front, opens⟩ := h
  have same : enter (ts ++ rest) = enter (t :: (more ++ rest)) := by
    rw [enter_append_of_cons front, enter_of_opensType opens]
  refine (any_shows_congr fun sign hm => Sign.shows_congr ?_ same).trans
    (Token.otherSigns_of_opensType opens _)
  revert sign
  decide

theorem TypeFront.not_shows {ts : Tokens} (h : ts.TypeFront) {sign : Sign}
    (hs : sign ∈ TypedId.otherSigns) (rest : Tokens) : sign.shows (ts ++ rest) = false :=
  Bool.not_eq_true _ ▸ List.any_eq_false.mp (h.otherSigns rest) sign hs

/-! ## Names in front of types -/

/-- One colon is in front, or two with dots behind them. -/
def oneColon (ts : Tokens) : Bool :=
  (Sign.operator ":").shows ts &&
    (!(Sign.operator "::").shows ts || (skip? ts).any (Sign.operator "...").shows)

/-- No word is in front that a colon behind it makes a name. -/
def Unnamed (ts : Tokens) : Prop :=
  ∀ rest, AtComma rest → ([Sign.identifier, .keyword "_", .keyword "self"].any
    (·.shows (ts ++ rest)) && (skip? (ts ++ rest)).any oneColon) = false

theorem AtComma.oneColon {ts : Tokens} (h : ts.AtComma) : ts.oneColon = false := by
  rcases h with rfl | ⟨place, more, rfl⟩ <;> rfl

theorem Unnamed.inserted {ts : Tokens} (h : ts.Unnamed) (front : ts.TypeFront) (place : Span) :
    Unnamed [.group .invisible ts place] := by
  intro rest ends
  have same : enter ([.group .invisible ts place] ++ rest) = enter (ts ++ rest) := by
    obtain ⟨t, more, shown, -⟩ := front
    have begun : enter ts ≠ [] := by
      rw [shown]
      exact List.cons_ne_nil _ _
    rw [List.singleton_append, enter_invisible, if_neg begun, enter_append, if_neg begun]
  have signs : [Sign.identifier, .keyword "_", .keyword "self"].any
      (·.shows ([.group .invisible ts place] ++ rest)) =
      [Sign.identifier, .keyword "_", .keyword "self"].any (·.shows (ts ++ rest)) :=
    any_shows_congr fun sign hm => Sign.shows_congr (by revert sign; decide) same
  have behind : skip? ([.group .invisible ts place] ++ rest) = skip? (ts ++ rest) := by
    rw [skip?, same, skip?]
  rw [signs, behind]
  exact h rest ends

theorem TypeFront.not_constant {ts : Tokens} (h : ts.TypeFront) (rest : Tokens) :
    [Sign.literal, .group .brace].any (·.shows (ts ++ rest)) = false := by
  have literal := h.not_shows (show Sign.literal ∈ TypedId.otherSigns by decide) rest
  have brace := h.not_shows (show Sign.group .brace ∈ TypedId.otherSigns by decide) rest
  simp only [List.any_cons, List.any_nil, literal, brace, Bool.or_false]

end Tokens

/-! ## Arguments -/

/-- One literal, as it is written. -/
inductive Tokens.IsValue : Tokens → Prop
  | literal (x : String) (place : Span) : IsValue [.literal x place]
  | truth {x : String} (h : x = "true" ∨ x = "false") (place : Span) : IsValue [.ident x place]
  | negative {x : String} (h : Token.Literal.isNumber x = true) (place : Span) :
      IsValue [.punct '-' false place, .literal x place]

theorem Tokens.IsValue.value? {ts : Tokens} (h : ts.IsValue) (rest : Tokens) :
    Tokens.value? (ts ++ rest) = some (ts, rest) := by
  cases h with
  | literal x place => rfl
  | truth h place =>
    next x =>
    have known : (x = "true" || x = "false") = true := by simpa using h
    exact if_pos known
  | negative h place =>
    simp [Tokens.value?, Tokens.enter, Token.enterAll, Token.entered, Tokens.literal?, h,
      Span.join_self]

/-- A lifetime, as it is written. -/
inductive Tokens.IsLifetime : Tokens → Prop
  | mk (mark : Span) (i : Ident) : IsLifetime [.punct '\x27' true mark, i.token]

theorem Reader.lifetime_written {ts : Tokens} (h : ts.IsLifetime) (s : Scope) (rest : Tokens) :
    lifetime s ⟨ts ++ rest, none⟩ = .ok (ts, ⟨rest, none⟩) := by
  obtain ⟨mark, i⟩ := h
  rfl

/-- The segment has no arguments, or such behind a double colon, as segments in expressions do. -/
def Segment.InExpression (x : Segment) : Prop :=
  x.arguments.tokens = [] ∨ ∃ place more, x.arguments.tokens = Path.separator place ++ more

namespace Grammar

variable {g : Grammar} {ts rest : Tokens}

theorem showsLifetime_bind {β : Type} (f : Bool → Reader β) (s : Scope) (c : Cursor) :
    (showsLifetime >>= f) s c = f (Sign.lifetime.shows c.rest &&
      !(Tokens.skip? c.rest).any (Sign.operator "+").shows) s c := rfl

theorem genericArgument_lifetime (h : ts.IsLifetime) (ends : rest.AtAngle) (s : Scope) :
    genericArgument g s ⟨ts ++ rest, none⟩ = .ok ((true, ts), ⟨rest, none⟩) := by
  have read := lifetime_written h s rest
  obtain ⟨mark, i⟩ := h
  obtain ⟨c, place, more, hc, rfl⟩ := ends
  have shown : (Sign.lifetime.shows ([.punct '\x27' true mark, i.token] ++
      .punct c false place :: more) && !(Tokens.skip? ([.punct '\x27' true mark, i.token] ++
        .punct c false place :: more)).any (Sign.operator "+").shows) = true := by
    rcases hc with rfl | rfl <;> rfl
  rw [genericArgument, showsLifetime_bind, shown, if_pos rfl, bind_apply, read]
  rfl

theorem constArgument_value (h : ts.IsValue) (s : Scope) (rest : Tokens) :
    constArgument g s ⟨ts ++ rest, none⟩ = .ok (ts, ⟨rest, none⟩) := by
  have shown : Sign.literal.shows (ts ++ rest) = true := by rw [Sign.shows, h.value?]; rfl
  rw [constArgument, peek_bind, shown, if_pos rfl, literal]
  simp only [h.value?]

theorem genericArgument_value (h : ts.IsValue) (s : Scope) (rest : Tokens) :
    genericArgument g s ⟨ts ++ rest, none⟩ = .ok ((false, ts), ⟨rest, none⟩) := by
  have noLifetime : Sign.lifetime.shows (ts ++ rest) = false := by
    cases h <;> rfl
  have shown : [Sign.literal, .group .brace].any (·.shows (ts ++ rest)) = true := by
    simp [Sign.shows, h.value?]
  rw [genericArgument, showsLifetime_bind, noLifetime, Bool.false_and, if_neg Bool.false_ne_true,
    peekAny_bind, shown, if_pos rfl, bind_apply, constArgument_value h]
  rfl

/-- The tokens are read back as a type. -/
structure ReadsType (type : Reader RawType) (plus : Bool) (ts : Tokens) : Prop where
  front : ts.TypeFront
  unnamed : ts.Unnamed
  read : type.ReadsBack RawType.tokens (Tokens.EndsType plus) ts

theorem genericArgument_type (h : ReadsType (g.type true true) true ts) (ends : rest.AtAngle)
    (s : Scope) :
    genericArgument g s ⟨ts ++ rest, none⟩ = .ok ((false, ts), ⟨rest, none⟩) := by
  obtain ⟨front, -, h⟩ := h
  obtain ⟨t, read, rfl⟩ := h s rest (ends.endsType true)
  have noLifetime := front.not_shows (show Sign.lifetime ∈ otherSigns by decide) rest
  have noConstant := front.not_constant rest
  obtain ⟨c, place, more, hc, rfl⟩ := ends
  have noEquals : (Sign.operator "=").shows (.punct c false place :: more) = false := by
    rcases hc with rfl | rfl <;> rfl
  have noColon : (Sign.operator ":").shows (.punct c false place :: more) = false := by
    rcases hc with rfl | rfl <;> rfl
  rw [genericArgument, showsLifetime_bind, noLifetime, Bool.false_and, if_neg Bool.false_ne_true,
    peekAny_bind, noConstant, if_neg Bool.false_ne_true, bind_apply, read]
  simp only
  split
  · rw [peek_bind, noEquals, if_neg Bool.false_ne_true, peek_bind, noColon,
      if_neg Bool.false_ne_true]
    rfl
  · rfl

/-- The tokens of an argument that names an associated type. -/
def named (x : Segment) (equals : Span) (value : Tokens) : Tokens :=
  x.tokens ++ .punct '=' false equals :: value

/-- The segment names an associated type. -/
def Names (g : Grammar) (x : Segment) : Prop :=
  ∀ s rest, Tokens.EndsType true rest →
    g.type true true s ⟨x.tokens ++ rest, none⟩ = .ok (.path [] ⟨none, x, []⟩, ⟨rest, none⟩)

theorem genericArgument_named {x : Segment} (front : x.tokens.TypeFront) (h : Names g x)
    (binds : genericArgument.takesBinding (.path [] ⟨none, x, []⟩) = true)
    (value : ts.IsValue ∨ ReadsType (g.type true true) true ts)
    (equals : Span) (ends : rest.AtAngle) (s : Scope) :
    genericArgument g s ⟨named x equals ts ++ rest, none⟩ =
      .ok ((false, named x equals ts), ⟨rest, none⟩) := by
  have name := h s (.punct '=' false equals :: (ts ++ rest))
    ⟨rfl, rfl, rfl, rfl, rfl, fun _ => rfl⟩
  have noLifetime := front.not_shows (show Sign.lifetime ∈ otherSigns by decide)
    (.punct '=' false equals :: (ts ++ rest))
  have noConstant := front.not_constant (.punct '=' false equals :: (ts ++ rest))
  have mark : operator "=" s ⟨.punct '=' false equals :: (ts ++ rest), none⟩ =
      .ok ([.punct '=' false equals], ⟨ts ++ rest, none⟩) := rfl
  have shown : (Sign.operator "=").shows (.punct '=' false equals :: (ts ++ rest)) = true := rfl
  have written : (RawType.path [] ⟨none, x, []⟩).tokens = x.tokens := by
    simp [RawType.tokens, Path.tokens]
  rw [named, List.append_assoc, List.cons_append, genericArgument, showsLifetime_bind, noLifetime,
    Bool.false_and, if_neg Bool.false_ne_true, peekAny_bind, noConstant,
    if_neg Bool.false_ne_true, bind_apply, name]
  simp only [binds, if_true]
  rw [peek_bind, shown, if_pos rfl, bind_apply, mark]
  simp only [written]
  rw [peekAny_bind]
  rcases value with constant | ⟨begun, -, type⟩
  · have literal : [Sign.literal, .group .brace].any (·.shows (ts ++ rest)) = true := by
      simp [Sign.shows, constant.value?]
    rw [literal, if_pos rfl, bind_apply, constArgument_value constant]
    simp [pure_apply]
  · obtain ⟨t, read, rfl⟩ := type s rest (ends.endsType true)
    have noLiteral := begun.not_constant rest
    rw [noLiteral, if_neg Bool.false_ne_true, bind_apply, map_eq_bind, bind_apply, read]
    simp [pure_apply]

/-! ## Angle brackets -/

/-- An argument in angle brackets, and whether it is a lifetime. -/
def ReadsArgument (g : Grammar) (isLifetime : Bool) (ts : Tokens) : Prop :=
  ts ≠ [] ∧ (∀ more, (Sign.operator ">").shows (ts ++ more) = false) ∧
    ∀ s more, Tokens.AtAngle more →
      genericArgument g s ⟨ts ++ more, none⟩ = .ok ((isLifetime, ts), ⟨more, none⟩)

/-- Arguments in their brackets, behind a double colon or not. -/
def angleTokens (colons : Option Span) (opening : Span) (items : List (Tokens × Tokens))
    (closing : Span) : Tokens :=
  (colons.map Path.separator).getD [] ++
    .punct '<' false opening :: (Tokens.listed items ++ [.punct '>' false closing])

theorem readsArgument_lifetime (h : ts.IsLifetime) : ReadsArgument g true ts := by
  refine ⟨?_, ?_, fun s more ends => genericArgument_lifetime h ends s⟩
  · obtain ⟨mark, i⟩ := h
    exact List.cons_ne_nil _ _
  · obtain ⟨mark, i⟩ := h
    exact fun _ => rfl

theorem readsArgument_value (h : ts.IsValue) : ReadsArgument g false ts := by
  refine ⟨?_, ?_, fun s more _ => genericArgument_value h s more⟩
  · cases h <;> exact List.cons_ne_nil _ _
  · cases h <;> exact fun _ => rfl

theorem readsArgument_type (h : ReadsType (g.type true true) true ts) : ReadsArgument g false ts :=
  ⟨h.front.ne_nil, h.front.not_shows (by decide), fun s _ ends => genericArgument_type h ends s⟩

theorem readsArgument_named {x : Segment} (front : x.tokens.TypeFront) (h : Names g x)
    (binds : genericArgument.takesBinding (.path [] ⟨none, x, []⟩) = true)
    (value : ts.IsValue ∨ ReadsType (g.type true true) true ts) (equals : Span) :
    ReadsArgument g false (named x equals ts) := by
  have begun : (named x equals ts).TypeFront := front.append _
  exact ⟨begun.ne_nil, begun.not_shows (by decide),
    fun s _ ends => genericArgument_named front h binds value equals ends s⟩

theorem anglesAfter_written {lifetimes others : List (Tokens × Tokens)}
    (parted : Tokens.Parted (lifetimes ++ others))
    (regions : ∀ p ∈ lifetimes, ReadsArgument g true p.1)
    (types : ∀ p ∈ others, ReadsArgument g false p.1)
    (colons : Tokens) (opening closing : Span) (s : Scope) (rest : Tokens) :
    anglesAfter g colons s ⟨.punct '<' false opening ::
        (Tokens.listed (lifetimes ++ others) ++ .punct '>' false closing :: rest), none⟩ =
      .ok (.angle (colons ++ .punct '<' false opening ::
          (Tokens.listed (lifetimes ++ others) ++ [.punct '>' false closing]))
        (lifetimes ++ others).isEmpty, ⟨rest, none⟩) := by
  have less : operator "<" s ⟨.punct '<' false opening ::
      (Tokens.listed (lifetimes ++ others) ++ .punct '>' false closing :: rest), none⟩ =
      .ok ([.punct '<' false opening],
        ⟨Tokens.listed (lifetimes ++ others) ++ .punct '>' false closing :: rest, none⟩) := rfl
  have greater : operator ">" s ⟨.punct '>' false closing :: rest, none⟩ =
      .ok ([.punct '>' false closing], ⟨rest, none⟩) := rfl
  have same : (lifetimes.map (Prod.mk true) ++ others.map (Prod.mk false)).map (·.2) =
      lifetimes ++ others := by
    simp [Function.comp_def]
  have alone : (lifetimes.map (Prod.mk true) ++ others.map (Prod.mk false)).isEmpty =
      (lifetimes ++ others).isEmpty := by
    rw [← same, List.isEmpty_map]
  have list : angleList (genericArgument g) s
      ⟨Tokens.listed (lifetimes ++ others) ++ .punct '>' false closing :: rest, none⟩ =
      .ok (lifetimes.map (Prod.mk true) ++ others.map (Prod.mk false),
        ⟨.punct '>' false closing :: rest, none⟩) := by
    rw [← same]
    refine angleList_parted (same.symm ▸ parted) (fun i hi => ?_) s closing rest
    rcases List.mem_append.mp hi with region | other
    · obtain ⟨p, hp, rfl⟩ := List.mem_map.mp region
      exact regions p hp
    · obtain ⟨p, hp, rfl⟩ := List.mem_map.mp other
      exact types p hp
  rw [anglesAfter, bind_apply, less]
  simp only [bind_apply, list, greater]
  rw [lifetimesFirst_sorted parted, alone]
  simp [pure_apply]

/-- **Arguments read back** behind the word that takes them. -/
theorem argumentsBehind_angles {lifetimes others : List (Tokens × Tokens)}
    (parted : Tokens.Parted (lifetimes ++ others))
    (regions : ∀ p ∈ lifetimes, ReadsArgument g true p.1)
    (types : ∀ p ∈ others, ReadsArgument g false p.1)
    {inExpression : Bool} {colons : Option Span} (opened : inExpression = true → colons ≠ none)
    (opening closing : Span) (i : Ident) (s : Scope) (rest : Tokens) :
    argumentsBehind g inExpression i s
        ⟨angleTokens colons opening (lifetimes ++ others) closing ++ rest, none⟩ =
      .ok (⟨i, .angle (angleTokens colons opening (lifetimes ++ others) closing)
        (lifetimes ++ others).isEmpty⟩, ⟨rest, none⟩) := by
  have after := anglesAfter_written (g := g) parted regions types
    ((colons.map Path.separator).getD []) opening closing s rest
  have front : angleTokens colons opening (lifetimes ++ others) closing ++ rest =
      (colons.map Path.separator).getD [] ++ .punct '<' false opening ::
        (Tokens.listed (lifetimes ++ others) ++ .punct '>' false closing :: rest) := by
    simp [angleTokens]
  have taken : angles g s
      ⟨angleTokens colons opening (lifetimes ++ others) closing ++ rest, none⟩ =
      .ok (.angle (angleTokens colons opening (lifetimes ++ others) closing)
        (lifetimes ++ others).isEmpty, ⟨rest, none⟩) := by
    rw [angles, bind_apply, front]
    cases colons with
    | none => exact after
    | some place => exact after
  have shown : (!inExpression && (Sign.operator "<").shows
        (angleTokens colons opening (lifetimes ++ others) closing ++ rest) &&
      !(Sign.operator "<=").shows
        (angleTokens colons opening (lifetimes ++ others) closing ++ rest) ||
      ((Sign.operator "::").shows
          (angleTokens colons opening (lifetimes ++ others) closing ++ rest) &&
        ((Tokens.skip? (angleTokens colons opening (lifetimes ++ others) closing ++ rest)).bind
          Tokens.skip?).any (Sign.operator "<").shows)) = true := by
    rw [front]
    cases colons with
    | some place => cases inExpression <;> rfl
    | none =>
      cases inExpression with
      | false => rfl
      | true => exact absurd rfl (opened rfl)
  rw [argumentsBehind, peek_bind, peek_bind, peekBehind_bind, shown, if_pos rfl, bind_apply, taken]
  rfl

/-! ## Segments -/

/-- The segment is read as itself, and its arguments are no colon behind a name. -/
structure ReadsSegment (g : Grammar) (x : Segment) : Prop where
  rereads : Rereads g false x
  expression : x.InExpression → Rereads g true x
  clear : ∀ us, Tokens.oneColon us = false → Tokens.oneColon (x.arguments.tokens ++ us) = false

theorem readsSegment_word {i : Ident} (h : isSegmentWord i.text = true) :
    ReadsSegment g ⟨i, .none⟩ where
  rereads := rereads_word (.inl h)
  expression _ := rereads_word (.inl h)
  clear _ clear := clear

theorem readsSegment_angles {i : Ident} (plain : isBareWord i.text = false)
    (known : isKeyword i.text = false ∨ i.text = "Self")
    {lifetimes others : List (Tokens × Tokens)}
    (parted : Tokens.Parted (lifetimes ++ others))
    (regions : ∀ p ∈ lifetimes, ReadsArgument g true p.1)
    (types : ∀ p ∈ others, ReadsArgument g false p.1)
    (colons : Option Span) (opening closing : Span) :
    ReadsSegment g ⟨i, .angle (angleTokens colons opening (lifetimes ++ others) closing)
      (lifetimes ++ others).isEmpty⟩ where
  rereads s rest _ := (segment_named plain known s _).trans
    (argumentsBehind_angles parted regions types (absurd · Bool.false_ne_true) opening closing i s
      rest)
  expression opened s rest _ := by
    have double : colons ≠ none := by
      rintro rfl
      rcases opened with empty | ⟨place, more, front⟩
      · cases empty
      · cases front
    exact (segment_named plain known s _).trans
      (argumentsBehind_angles parted regions types (fun _ => double) opening closing i s rest)
  clear us _ := by cases colons <;> rfl

theorem readsSegment_plain {p : Path} (h : p.Plain) : ∀ x ∈ p.segments, ReadsSegment g x := by
  obtain ⟨head, tail⟩ := h
  next absolute first others =>
  rw [Path.segments, List.forall_mem_cons]
  refine ⟨readsSegment_word head, fun x hx => ?_⟩
  obtain ⟨i, hi, rfl⟩ := List.mem_map.mp hx
  exact readsSegment_word (tail i hi)

/-- No single colon is behind the first word of a path of such segments. -/
theorem skip?_path {p : Path} (h : ∀ x ∈ p.segments, ReadsSegment g x)
    (clear : Tokens.oneColon rest = false) :
    ([Sign.identifier, .keyword "_", .keyword "self"].any (·.shows (p.tokens ++ rest)) &&
      (Tokens.skip? (p.tokens ++ rest)).any Tokens.oneColon) = false := by
  obtain ⟨absolute, first, others⟩ := p
  cases absolute with
  | some place => rfl
  | none =>
    have behind : Tokens.oneColon
        (others.flatMap (fun x => Path.separator x.ident.span ++ x.tokens) ++ rest) = false := by
      cases others with
      | nil => exact clear
      | cons x others => rfl
    have colon := (h first List.mem_cons_self).clear _ behind
    have front : Tokens.skip? ((Path.mk none first others).tokens ++ rest) =
        some (first.arguments.tokens ++
          (others.flatMap (fun x => Path.separator x.ident.span ++ x.tokens) ++ rest)) := by
      rw [← List.append_assoc]
      rfl
    rw [front, Option.any_some, colon, Bool.and_false]

theorem unnamed_path {p : Path} (h : ∀ x ∈ p.segments, ReadsSegment g x) : p.tokens.Unnamed :=
  fun _ ends => skip?_path h ends.oneColon

end Grammar

end TypedId
