/-
Bounds, read where they are written: lifetimes and traits, the latter with a
question mark, with lifetimes of their own, or with inputs in parentheses and
a result (`boundOnce_trait`, `boundOnce_lifetime`), and sums of them.
-/
import TypedId.Proofs.Written.Arguments
import TypedId.Proofs.Written.Calls

namespace TypedId

open Reader

/-! ## Where a path begins -/

/-- The path begins with a double colon or with a word that a type can begin with. -/
def Path.Front (p : Path) : Prop := p.absolute = none → isSegmentWord p.first.ident.text = true

namespace Path.Front

variable {p : Path}

theorem cases (h : p.Front) (rest : Tokens) :
    (∃ more, p.tokens ++ rest = p.first.ident.token :: more ∧
      isSegmentWord p.first.ident.text = true) ∨
    ∃ place more, p.tokens ++ rest = .punct ':' true place :: .punct ':' false place :: more := by
  obtain ⟨absolute, first, others⟩ := p
  cases absolute with
  | none => exact .inl ⟨_, by simp [Path.tokens, Segment.tokens]; rfl, h rfl⟩
  | some place =>
    exact .inr ⟨place, _, by simp [Path.tokens, Path.separator, Tokens.operator]; rfl⟩

theorem keyword (h : p.Front) {text : String} (other : isSegmentWord text = false)
    (rest : Tokens) : (Sign.keyword text).shows (p.tokens ++ rest) = false := by
  rcases h.cases rest with ⟨more, front, word⟩ | ⟨place, more, front⟩
  · rw [front]
    exact Grammar.keyword_not_shown word other more
  · rw [front]
    rfl

theorem typeFront (h : p.Front) : p.tokens.TypeFront := by
  rcases h.cases [] with ⟨more, front, word⟩ | ⟨place, more, front⟩
  · rw [List.append_nil] at front
    rw [front]
    exact .cons (by simp [Token.opensType, Ident.token, word]) more
  · rw [List.append_nil] at front
    rw [front]
    exact .cons rfl _

/-- No group is in front, and none of the marks that stand before a path. -/
theorem noGroup (h : p.Front) (rest : Tokens) :
    [Sign.group .parenthesis, .group .bracket, .group .invisible, .operator "?", .operator "<",
      .operator "*", .operator "#"].any (·.shows (p.tokens ++ rest)) = false := by
  rcases h.cases rest with ⟨more, front, -⟩ | ⟨place, more, front⟩ <;> rw [front] <;> rfl

end Path.Front

/-- New arguments stand behind a path that had none. -/
theorem Path.tokens_withArguments {p : Path} (h : p.last.arguments = .none) (arguments : Arguments) :
    (p.withArguments arguments).tokens = p.tokens ++ arguments.tokens := by
  obtain ⟨absolute, ⟨i, args⟩, others⟩ := p
  rcases List.eq_nil_or_concat others with rfl | ⟨before, x, rfl⟩
  · obtain rfl : args = .none := h
    simp [Path.withArguments, Path.tokens, Segment.tokens, Arguments.tokens]
  · rw [List.concat_eq_append] at h ⊢
    obtain ⟨j, behind⟩ := x
    have last : (Path.mk absolute ⟨i, args⟩ (before ++ [⟨j, behind⟩])).last = ⟨j, behind⟩ :=
      Path.last_push ⟨absolute, ⟨i, args⟩, before⟩ ⟨j, behind⟩
    rw [last] at h
    obtain rfl : behind = .none := h
    simp [Path.withArguments, Path.tokens, Segment.tokens, Arguments.tokens]

/-! ## Results and inputs -/

namespace Grammar

variable {g : Grammar} {ts rest : Tokens} {plus : Bool}

/-- The result of a function: an arrow at two places, and a type. -/
def resultTokens : Option (Span × Span × Tokens) → Tokens
  | none => []
  | some (first, second, ts) => .punct '-' true first :: .punct '>' false second :: ts

theorem result_written {r : Option (Span × Span × Tokens)}
    (h : ∀ a ∈ r, ReadsType (g.type plus true) plus a.2.2)
    (ends : rest.EndsType plus) (s : Scope) :
    result g plus s ⟨resultTokens r ++ rest, none⟩ = .ok (resultTokens r, ⟨rest, none⟩) := by
  cases r with
  | none => rw [resultTokens, List.nil_append, result, peek_bind, ends.arrow]; rfl
  | some a =>
    obtain ⟨first, second, ts⟩ := a
    obtain ⟨t, read, rfl⟩ := (h _ rfl).read s rest ends
    have arrow : operator "->" s
        ⟨.punct '-' true first :: .punct '>' false second :: (t.tokens ++ rest), none⟩ =
        .ok ([.punct '-' true first, .punct '>' false second], ⟨t.tokens ++ rest, none⟩) := rfl
    have shown : (Sign.operator "->").shows
        (.punct '-' true first :: .punct '>' false second :: (t.tokens ++ rest)) = true := rfl
    rw [resultTokens, List.cons_append, List.cons_append, result, peek_bind, shown, if_pos rfl,
      bind_apply, arrow]
    simp only [bind_apply, read]
    rfl

theorem commaTokens_types {items : List (Tokens × Tokens)} (parted : Tokens.Parted items)
    (h : ∀ p ∈ items, ReadsType (g.type true true) true p.1) (s : Scope) :
    commaTokens (RawType.tokens <$> g.type true true) s ⟨Tokens.listed items, none⟩ =
      .ok (Tokens.listed items, ⟨[], none⟩) := by
  refine commaTokens_parted parted (fun p hp => ⟨(h p hp).front.ne_nil, fun s rest ends => ?_⟩) s
  obtain ⟨t, read, same⟩ := (h p hp).read s rest (ends.endsType true)
  refine ⟨t.tokens, ?_, same⟩
  rw [map_eq_bind, bind_apply, read]
  rfl

theorem parenthesised_written {items : List (Tokens × Tokens)} (parted : Tokens.Parted items)
    (h : ∀ p ∈ items, ReadsType (g.type true true) true p.1) {r : Option (Span × Span × Tokens)}
    (hr : ∀ a ∈ r, ReadsType (g.type false true) false a.2.2)
    (ends : rest.EndsType false) (place : Span) (s : Scope) :
    parenthesised g s
        ⟨.group .parenthesis (Tokens.listed items) place :: (resultTokens r ++ rest), none⟩ =
      .ok (.parenthesised (.group .parenthesis (Tokens.listed items) place :: resultTokens r),
        ⟨rest, none⟩) := by
  refine groupThen_read (commaTokens_types parted h _) ?_
  rw [bind_apply, result_written hr ends]
  rfl

/-! ## Lifetimes of a bound's own -/

theorem outerTokens_none (h : (Sign.operator "#").shows ts = false) (s : Scope) :
    outerTokens g s ⟨ts, none⟩ = .ok ([], ⟨ts, none⟩) := by
  have more : peek (.operator "#") s ⟨ts, none⟩ = .ok (false, ⟨ts, none⟩) := by
    rw [peek, look, h]
  rw [outerTokens, bind_apply, outerAttributes, whileM_none more]
  rfl

theorem optional_none {sign : Sign} {piece : Reader Tokens} (h : sign.shows ts = false)
    (s : Scope) : Reader.optional sign piece s ⟨ts, none⟩ = .ok ([], ⟨ts, none⟩) := by
  rw [Reader.optional, peek_bind, h]
  rfl

theorem boundParameter_lifetime (h : ts.IsLifetime) (ends : rest.AtAngle) (s : Scope) :
    boundParameter g s ⟨ts ++ rest, none⟩ = .ok (ts, ⟨rest, none⟩) := by
  have taken := lifetime_written h s rest
  have noHash : (Sign.operator "#").shows (ts ++ rest) = false := by
    obtain ⟨mark, i⟩ := h
    rfl
  have noWord : Sign.identifier.shows (ts ++ rest) = false := by
    obtain ⟨mark, i⟩ := h
    rfl
  have shown : Sign.lifetime.shows (ts ++ rest) = true := by
    obtain ⟨mark, i⟩ := h
    rfl
  have noColon : (Sign.operator ":").shows rest = false := by
    obtain ⟨c, place, more, rfl | rfl, rfl⟩ := ends <;> rfl
  have none_ := outerTokens_none (g := g) noHash s
  have parameter : lifetimeParameter g s ⟨ts ++ rest, none⟩ = .ok (ts, ⟨rest, none⟩) := by
    rw [lifetimeParameter, bind_apply, none_]
    simp only [bind_apply, taken, peek, look, noColon, Bool.false_eq_true, if_false]
    rfl
  rw [boundParameter, bind_apply, none_]
  simp only [peek_bind, noWord, shown, Bool.false_eq_true, if_false, if_true]
  rw [bind_apply, parameter]
  rfl

/-- `for<…>` with lifetimes, or nothing. -/
inductive IsBinder : Tokens → Prop
  | none : IsBinder []
  | lifetimes (word opening : Span) {items : List (Tokens × Tokens)}
      (parted : Tokens.Parted items) (h : ∀ p ∈ items, p.1.IsLifetime) (closing : Span) :
      IsBinder (.ident "for" word :: .punct '<' false opening ::
        (Tokens.listed items ++ [.punct '>' false closing]))

theorem binder?_none (h : (Sign.keyword "for").shows ts = false) (s : Scope) :
    binder? g s ⟨ts, none⟩ = .ok ([], ⟨ts, none⟩) := by
  rw [binder?, peek_bind, h]
  rfl

theorem binder?_written (h : IsBinder ts) (noFor : ts = [] → (Sign.keyword "for").shows rest = false)
    (s : Scope) : binder? g s ⟨ts ++ rest, none⟩ = .ok (ts, ⟨rest, none⟩) := by
  cases h with
  | none => exact binder?_none (noFor rfl) s
  | lifetimes word opening parted h closing =>
    next items =>
    have for_ : keyword "for" s ⟨.ident "for" word :: .punct '<' false opening ::
        (Tokens.listed items ++ .punct '>' false closing :: rest), none⟩ =
        .ok ([.ident "for" word], ⟨.punct '<' false opening ::
          (Tokens.listed items ++ .punct '>' false closing :: rest), none⟩) := rfl
    have less : operator "<" s ⟨.punct '<' false opening ::
        (Tokens.listed items ++ .punct '>' false closing :: rest), none⟩ =
        .ok ([.punct '<' false opening],
          ⟨Tokens.listed items ++ .punct '>' false closing :: rest, none⟩) := rfl
    have greater : operator ">" s ⟨.punct '>' false closing :: rest, none⟩ =
        .ok ([.punct '>' false closing], ⟨rest, none⟩) := rfl
    have same : (items.map (Prod.mk false)).map (·.2) = items := by simp [Function.comp_def]
    have list : angleList (do return (false, ← boundParameter g)) s
        ⟨Tokens.listed ((items.map (Prod.mk false)).map (·.2)) ++
          .punct '>' false closing :: rest, none⟩ =
        .ok (items.map (Prod.mk false), ⟨.punct '>' false closing :: rest, none⟩) := by
      refine angleList_parted (same.symm ▸ parted) (fun i hi => ?_) s closing rest
      obtain ⟨p, hp, rfl⟩ := List.mem_map.mp hi
      have ⟨begun, opens, _⟩ := readsArgument_lifetime (g := g) (h p hp)
      refine ⟨begun, opens, fun s ts ends => ?_⟩
      rw [bind_apply, boundParameter_lifetime (h p hp) ends]
      rfl
    rw [same] at list
    have shown : (Sign.keyword "for").shows (.ident "for" word :: .punct '<' false opening ::
        (Tokens.listed items ++ .punct '>' false closing :: rest)) = true := rfl
    rw [List.cons_append, List.cons_append, List.append_assoc, List.singleton_append, binder?,
      peek_bind, shown, if_pos rfl, bind_apply, for_]
    simp only [bind_apply, less, list, greater, List.flatMap_map]
    rfl

/-! ## Traits -/

/-- Nothing, or inputs in parentheses and a result. -/
inductive ReadsInputs (g : Grammar) : Tokens → Prop
  | none : ReadsInputs g []
  | inputs {items : List (Tokens × Tokens)} (parted : Tokens.Parted items)
      (h : ∀ p ∈ items, ReadsType (g.type true true) true p.1) {r : Option (Span × Span × Tokens)}
      (hr : ∀ a ∈ r, ReadsType (g.type false true) false a.2.2)
      (place : Span) :
      ReadsInputs g (.group .parenthesis (Tokens.listed items) place :: resultTokens r)

theorem takesParentheses_bind {β : Type} (p : Path) (f : Bool → Reader β) (s : Scope)
    (c : Cursor) : (takesParentheses p >>= f) s c = f (p.last.arguments.isEmpty &&
      ((Sign.group .parenthesis).shows c.rest || ((Sign.operator "::").shows c.rest &&
        ((Tokens.skip? c.rest).bind Tokens.skip?).any (Sign.group .parenthesis).shows))) s c := rfl

/-- A trait bound behind what may stand before its path. -/
def traitBehind (g : Grammar) (relaxed binder : Tokens) (isConst : Bool) :
    Reader (Tokens × Bool) := do
  let p ← path g false
  let p ←
    if ← takesParentheses p then
      let _ ← operator? "::"
      pure (p.withArguments (← parenthesised g))
    else pure p
  if !binder.isEmpty && !relaxed.isEmpty then failAt (Tokens.span relaxed) .binderWithRelaxed
  else return (relaxed ++ binder ++ p.tokens, isConst)

theorem traitBehind_written {p : Path} (segments : ∀ x ∈ p.segments, Rereads g false x)
    {inputs : Tokens} (h : ReadsInputs g inputs) (bare : inputs ≠ [] → p.last.arguments = .none)
    {relaxed binder : Tokens} (apart : (!binder.isEmpty && !relaxed.isEmpty) = false)
    (ends : rest.EndsType false) (isConst : Bool) (s : Scope) :
    traitBehind g relaxed binder isConst s ⟨p.tokens ++ (inputs ++ rest), none⟩ =
      .ok ((relaxed ++ binder ++ (p.tokens ++ inputs), isConst), ⟨rest, none⟩) := by
  cases h with
  | none =>
    have path := path_again segments ends.noAngles ends.colons s
    rw [List.nil_append, traitBehind, bind_apply, path]
    simp only [takesParentheses_bind, ends.parens, ends.colons, Bool.false_and, Bool.or_false,
      Bool.and_false, Bool.false_eq_true, if_false, apart, List.append_nil]
    rfl
  | inputs parted h hr place =>
    next items r =>
    have taken := parenthesised_written parted h hr ends place s
    have arguments := bare (List.cons_ne_nil _ _)
    have noAngles : Tokens.NoAngles false (.group .parenthesis (Tokens.listed items) place ::
        (resultTokens r ++ rest)) := ⟨fun _ => rfl, rfl⟩
    have path := path_again segments noAngles rfl s
    have open_ : p.last.arguments.isEmpty = true := by
      rw [arguments]
      rfl
    have shown : (Sign.group .parenthesis).shows
        (.group .parenthesis (Tokens.listed items) place :: (resultTokens r ++ rest)) = true := rfl
    have noColons : operator? "::" s
        ⟨.group .parenthesis (Tokens.listed items) place :: (resultTokens r ++ rest), none⟩ =
        .ok ([], ⟨.group .parenthesis (Tokens.listed items) place ::
          (resultTokens r ++ rest), none⟩) := rfl
    have written := Path.tokens_withArguments arguments (.parenthesised
      (.group .parenthesis (Tokens.listed items) place :: resultTokens r))
    rw [List.cons_append, traitBehind, bind_apply, path]
    simp only [takesParentheses_bind, open_, shown, Bool.true_or, Bool.and_self, if_true]
    simp only [bind_apply, noColons, taken, pure_apply, apart, Bool.false_eq_true, if_false, written]
    rfl

/-- The tokens of a trait bound. -/
def traitTokens (relaxed : Option Span) (binder : Tokens) (p : Path) (inputs : Tokens) : Tokens :=
  (relaxed.map fun place => [Token.punct '?' false place]).getD [] ++
    (binder ++ (p.tokens ++ inputs))

theorem constness_none (bracket : (Sign.group .bracket).shows ts = false)
    (word : (Sign.keyword "const").shows ts = false) (allowed : Bool) (s : Scope) :
    constness allowed s ⟨ts, none⟩ = .ok (false, ⟨ts, none⟩) := by
  rw [constness, peek_bind, bracket, if_neg Bool.false_ne_true, peek_bind, word,
    if_neg Bool.false_ne_true]
  rfl

/-- A trait bound as it can be read back. -/
structure ReadsTrait (g : Grammar) (relaxed : Option Span) (binder : Tokens) (p : Path)
    (inputs : Tokens) : Prop where
  isBinder : IsBinder binder
  apart : relaxed = none ∨ binder = []
  front : p.Front
  segments : ∀ x ∈ p.segments, Rereads g false x
  readsInputs : ReadsInputs g inputs
  bare : inputs ≠ [] → p.last.arguments = .none

theorem traitBound_written {relaxed : Option Span} {binder inputs : Tokens} {p : Path}
    (h : ReadsTrait g relaxed binder p inputs) (ends : rest.EndsType false) (const : Bool)
    (s : Scope) :
    traitBound g const s ⟨traitTokens relaxed binder p inputs ++ rest, none⟩ =
      .ok ((traitTokens relaxed binder p inputs, false), ⟨rest, none⟩) := by
  obtain ⟨isBinder, apart, front, segments, readsInputs, bare⟩ := h
  have noGroup := front.noGroup (inputs ++ rest)
  simp only [List.any_cons, List.any_nil, Bool.or_false, Bool.or_eq_false_iff] at noGroup
  have noFor : (Sign.keyword "for").shows (p.tokens ++ (inputs ++ rest)) = false :=
    front.keyword (by decide) _
  have constant := constness_none noGroup.2.1 (front.keyword (by decide) _) const s
  have noMark : operator? "?" s ⟨p.tokens ++ (inputs ++ rest), none⟩ =
      .ok ([], ⟨p.tokens ++ (inputs ++ rest), none⟩) := optional_none noGroup.2.2.2.1 s
  cases relaxed with
  | none =>
    have tokens : traitTokens none binder p inputs ++ rest =
        binder ++ (p.tokens ++ (inputs ++ rest)) := by
      simp [traitTokens]
    have begun := binder?_written (g := g) isBinder (fun _ => noFor) s
    have behind := traitBehind_written segments readsInputs bare
      (show (!binder.isEmpty && !(List.isEmpty ([] : Tokens))) = false by simp) ends false s
    have later : (binder.isEmpty && !(List.isEmpty ([] : Tokens))) = false := Bool.and_false _
    rw [tokens, traitBound, bind_apply, begun]
    simp only
    rw [bind_apply, constant]
    simp only
    rw [bind_apply, noMark]
    simp only [later, Bool.false_eq_true, if_false]
    exact behind
  | some place =>
    obtain rfl : binder = [] := apart.resolve_left (Option.some_ne_none place)
    have mark : operator? "?" s ⟨.punct '?' false place :: (p.tokens ++ (inputs ++ rest)), none⟩ =
        .ok ([.punct '?' false place], ⟨p.tokens ++ (inputs ++ rest), none⟩) := rfl
    have first : binder? g s ⟨.punct '?' false place :: (p.tokens ++ (inputs ++ rest)), none⟩ =
        .ok ([], ⟨.punct '?' false place :: (p.tokens ++ (inputs ++ rest)), none⟩) :=
      binder?_none rfl s
    have plain : constness const s ⟨.punct '?' false place :: (p.tokens ++ (inputs ++ rest)), none⟩ =
        .ok (false, ⟨.punct '?' false place :: (p.tokens ++ (inputs ++ rest)), none⟩) :=
      constness_none rfl rfl const s
    have behind := traitBehind_written segments readsInputs bare
      (show (!(List.isEmpty ([] : Tokens)) && !(List.isEmpty [Token.punct '?' false place])) = false
        from rfl) ends false s
    have tokens : traitTokens (some place) [] p inputs ++ rest =
        .punct '?' false place :: (p.tokens ++ (inputs ++ rest)) := by
      simp [traitTokens]
    rw [tokens, traitBound, bind_apply, first]
    simp only
    rw [bind_apply, plain]
    simp only
    rw [bind_apply, mark]
    simp only [List.isEmpty_nil, List.isEmpty_cons, Bool.not_false, Bool.and_self, if_true]
    rw [bind_apply, binder?_none noFor]
    exact behind

/-! ## Bounds -/

/-- The tokens are read back as one bound. -/
structure ReadsBound (g : Grammar) (ts : Tokens) (kind : BoundKind) : Prop where
  front : ∀ rest, boundSigns.any (·.shows (ts ++ rest)) = true
  noStar : ∀ rest, (Sign.operator "*").shows (ts ++ rest) = false
  read : ∀ captures const s rest, Tokens.EndsType false rest →
    ∃ b, boundOnce g captures const s ⟨ts ++ rest, none⟩ = .ok (b, ⟨rest, none⟩) ∧
      b.tokens = ts ∧ b.kind = kind

theorem readsBound_lifetime (h : ts.IsLifetime) : ReadsBound g ts .lifetime where
  front := by
    obtain ⟨mark, i⟩ := h
    exact fun _ => rfl
  noStar := by
    obtain ⟨mark, i⟩ := h
    exact fun _ => rfl
  read captures const s rest _ := by
    have taken := lifetime_written h s rest
    have shown : Sign.lifetime.shows (ts ++ rest) = true := by
      obtain ⟨mark, i⟩ := h
      rfl
    refine ⟨⟨ts, .lifetime, (ts.getLast?.map Token.span).getD .callSite⟩, ?_, rfl, rfl⟩
    rw [boundOnce, peek_bind, shown, if_pos rfl, bind_apply, taken]
    rfl

section Traits

variable {relaxed : Option Span} {binder inputs : Tokens} {p : Path}

/-- What a trait bound begins with. -/
theorem ReadsTrait.front_cases (h : ReadsTrait g relaxed binder p inputs) (rest : Tokens) :
    (∃ place more, traitTokens relaxed binder p inputs ++ rest = .punct '?' false place :: more) ∨
    (∃ place more, traitTokens relaxed binder p inputs ++ rest = .ident "for" place :: more) ∨
    traitTokens relaxed binder p inputs ++ rest = p.tokens ++ (inputs ++ rest) := by
  cases relaxed with
  | some place => exact .inl ⟨place, _, rfl⟩
  | none =>
    cases h.isBinder with
    | none => exact .inr (.inr (by simp [traitTokens]))
    | lifetimes word => exact .inr (.inl ⟨word, _, rfl⟩)

theorem ReadsTrait.front_signs (h : ReadsTrait g relaxed binder p inputs) (rest : Tokens) :
    [Sign.lifetime, .keyword "use", .group .parenthesis, .operator "*"].any
      (·.shows (traitTokens relaxed binder p inputs ++ rest)) = false := by
  rcases h.front_cases rest with ⟨place, more, front⟩ | ⟨place, more, front⟩ | front
  · rw [front]
    rfl
  · rw [front]
    rfl
  · have noGroup := h.front.noGroup (inputs ++ rest)
    simp only [List.any_cons, List.any_nil, Bool.or_false, Bool.or_eq_false_iff] at noGroup
    rw [front]
    have noUse := h.front.keyword (show isSegmentWord "use" = false by decide) (inputs ++ rest)
    have noLifetime := h.front.typeFront.not_shows (show Sign.lifetime ∈ otherSigns by decide)
      (inputs ++ rest)
    simp only [List.any_cons, List.any_nil, noUse, noLifetime, noGroup, Bool.or_false]

theorem boundSigns_trait (h : ReadsTrait g relaxed binder p inputs) (rest : Tokens) :
    boundSigns.any (·.shows (traitTokens relaxed binder p inputs ++ rest)) = true := by
  rcases h.front_cases rest with ⟨place, more, front⟩ | ⟨place, more, front⟩ | front
  · rw [front]
    rfl
  · rw [front]
    rfl
  · rw [front]
    rcases h.front.cases (inputs ++ rest) with ⟨more, word, -⟩ | ⟨place, more, colons⟩
    · rw [word]
      rfl
    · rw [colons]
      rfl

/-- **A trait bound** is read back. -/
theorem readsBound_trait (h : ReadsTrait g relaxed binder p inputs) :
    ReadsBound g (traitTokens relaxed binder p inputs) .trait where
  front := boundSigns_trait h
  noStar rest := by
    have signs := h.front_signs rest
    simp only [List.any_cons, List.any_nil, Bool.or_false, Bool.or_eq_false_iff] at signs
    exact signs.2.2.2
  read captures const s rest ends := by
    have signs := h.front_signs rest
    simp only [List.any_cons, List.any_nil, Bool.or_false, Bool.or_eq_false_iff] at signs
    refine ⟨⟨traitTokens relaxed binder p inputs, .trait, .callSite⟩, ?_, rfl, rfl⟩
    rw [boundOnce, peek_bind, signs.1, if_neg Bool.false_ne_true, peek_bind, signs.2.1,
      if_neg Bool.false_ne_true, bind_apply, withSource, peek_bind, signs.2.2.1,
      if_neg Bool.false_ne_true, traitBound_written h ends]
    rfl

/-- So is one in parentheses. -/
theorem readsBound_parens (h : ReadsTrait g relaxed binder p inputs) (place : Span) :
    ReadsBound g [.group .parenthesis (traitTokens relaxed binder p inputs) place] .trait where
  front _ := rfl
  noStar _ := rfl
  read captures const s rest ends := by
    have inner := traitBound_written h
      (show Tokens.EndsType false [] from ⟨rfl, rfl, rfl, rfl, rfl, nofun⟩) const
      ⟨place.closing, .parenthesis⟩
    rw [List.append_nil] at inner
    have noLifetime : Sign.lifetime.shows
        ([.group .parenthesis (traitTokens relaxed binder p inputs) place] ++ rest) = false := rfl
    have noUse : (Sign.keyword "use").shows
        ([.group .parenthesis (traitTokens relaxed binder p inputs) place] ++ rest) = false := rfl
    have shown : (Sign.group .parenthesis).shows
        ([.group .parenthesis (traitTokens relaxed binder p inputs) place] ++ rest) = true := rfl
    refine ⟨⟨[.group .parenthesis (traitTokens relaxed binder p inputs) place], .trait,
      .callSite⟩, ?_, rfl, rfl⟩
    rw [boundOnce, peek_bind, noLifetime, if_neg Bool.false_ne_true, peek_bind, noUse,
      if_neg Bool.false_ne_true, bind_apply, withSource, peek_bind, shown, if_pos rfl, bind_apply,
      List.singleton_append, group_read inner]
    rfl

end Traits

/-! ## Sums of bounds -/

/-- The bounds behind a first one, each behind its mark. -/
def summands (more : List (Span × Tokens)) : Tokens :=
  more.flatMap fun p => .punct '+' false p.1 :: p.2

theorem endsType_summands {more : List (Span × Tokens)} (ends : rest.EndsType true) :
    Tokens.EndsType false (summands more ++ rest) := by
  cases more with
  | nil => exact ends.withoutSum
  | cons p more => exact ⟨rfl, rfl, rfl, rfl, rfl, nofun⟩

theorem boundSum_ends (captures const : Bool) {more : List (Span × Tokens)} {ts : Tokens}
    {kind : BoundKind} (first : ReadsBound g ts kind)
    (h : ∀ p ∈ more, ∃ kind, ReadsBound g p.2 kind) (ends : rest.EndsType true) (s : Scope)
    (read : List (Bound × Tokens)) :
    ∃ bs, Ends (fun read => do
      let b ← boundOnce g captures const
      if true && (← peek (.operator "+")) then
        let sum ← operator "+"
        let more := if const then [.group .bracket, .keyword "const"] ++ boundSigns else boundSigns
        if ← peekAny more then return .again (read ++ [(b, sum)])
        else return .done (read ++ [(b, sum)])
      else return .done (read ++ [(b, [])])) s (more.length + 1) read
      ⟨ts ++ (summands more ++ rest), none⟩ (.ok (read ++ bs, ⟨rest, none⟩)) ∧
      sumTokens bs = ts ++ summands more ∧ bs.any (·.1.kind = kind) := by
  induction more generalizing ts kind read with
  | nil =>
    obtain ⟨b, taken, same, isKind⟩ := first.read captures const s rest
      (show Tokens.EndsType false (summands [] ++ rest) from endsType_summands ends)
    refine ⟨[(b, [])], .done ?_, by simp [sumTokens, summands, same], by simp [isKind]⟩
    rw [summands, List.flatMap_nil, List.nil_append, bind_apply, taken]
    simp only [Bool.true_and, peek_bind, ends.sum rfl, Bool.false_eq_true, if_false]
    rfl
  | cons p more ih =>
    obtain ⟨place, us⟩ := p
    rw [List.forall_mem_cons] at h
    obtain ⟨⟨kind', next⟩, h⟩ := h
    obtain ⟨b, taken, same, isKind⟩ := first.read captures const s
      (summands ((place, us) :: more) ++ rest) (endsType_summands ends)
    obtain ⟨bs, later, tokens, -⟩ := ih next h (read ++ [(b, [.punct '+' false place])])
    rw [List.append_assoc, List.singleton_append] at later
    refine ⟨(b, [.punct '+' false place]) :: bs, .again ?_ later, ?_, by simp [isKind]⟩
    · have tail : summands ((place, us) :: more) ++ rest =
          .punct '+' false place :: (us ++ (summands more ++ rest)) := by
        simp [summands]
      have plus : operator "+" s ⟨.punct '+' false place :: (us ++ (summands more ++ rest)), none⟩ =
          .ok ([.punct '+' false place], ⟨us ++ (summands more ++ rest), none⟩) := rfl
      have shown : (Sign.operator "+").shows
          (.punct '+' false place :: (us ++ (summands more ++ rest))) = true := rfl
      have goesOn : (if const then [.group .bracket, .keyword "const"] ++ boundSigns
          else boundSigns).any (·.shows (us ++ (summands more ++ rest))) = true := by
        cases const with
        | false => exact next.front _
        | true => simp [next.front]
      rw [tail] at taken ⊢
      rw [bind_apply, taken]
      simp only [Bool.true_and, peek_bind, shown, if_true]
      rw [bind_apply, plus]
      simp only [peekAny_bind, goesOn, if_true]
      rfl
    · rw [sumTokens, List.flatMap_cons]
      rw [sumTokens] at tokens
      rw [tokens, same]
      simp [summands]

/-- The tokens are a sum of bounds with a trait among them. Without `plus` there is one only. -/
structure ReadsSum (g : Grammar) (plus : Bool) (ts : Tokens) : Prop where
  noStar : ∀ rest, (Sign.operator "*").shows (ts ++ rest) = false
  read : ∀ captures const s rest, Tokens.EndsType plus rest →
    ∃ bs, boundSum g plus captures const s ⟨ts ++ rest, none⟩ = .ok (bs, ⟨rest, none⟩) ∧
      sumTokens bs = ts ∧ bs.any (·.1.kind = .trait)

theorem readsSum_one (h : ReadsBound g ts .trait) : ReadsSum g false ts where
  noStar := h.noStar
  read captures const s rest ends := by
    obtain ⟨b, taken, same, isTrait⟩ := h.read captures const s rest ends
    refine ⟨[(b, [])], ?_, by simp [sumTokens, same], by simp [isTrait]⟩
    refine loop_of_ends (.done ?_) (Nat.le_add_left 1 _)
    rw [bind_apply, taken]
    simp only [Bool.false_and, peek_bind, Bool.false_eq_true, if_false]
    rfl

theorem readsSum_more {more : List (Span × Tokens)} (first : ReadsBound g ts .trait)
    (h : ∀ p ∈ more, ∃ kind, ReadsBound g p.2 kind) : ReadsSum g true (ts ++ summands more) where
  noStar rest := by
    rw [List.append_assoc]
    exact first.noStar _
  read captures const s rest ends := by
    obtain ⟨bs, ends, tokens, traits⟩ := boundSum_ends captures const first h ends s []
    refine ⟨bs, ?_, tokens, traits⟩
    have long : more.length ≤ (summands more).weight :=
      Tokens.length_le_weight fun p _ => List.cons_ne_nil _ _
    rw [List.append_assoc]
    refine loop_of_ends ends ?_
    rw [Cursor.weight, Tokens.weight_append, Tokens.weight_append]
    omega

end Grammar

end TypedId
