/-
Types, read where they are written, shape by shape: what a type is made of is
read back, so the type is. What stands in front tells which shape is read;
what follows is nothing that a type could go on with.
-/
import TypedId.Proofs.Written.Bounds

namespace TypedId.Grammar

open Reader

variable {g : Grammar} {plus : Bool} {ts rest : Tokens}

theorem endsType_nil (plus : Bool) : Tokens.EndsType plus [] :=
  (show Tokens.AtComma [] from .inl rfl).endsType plus

/-- A type that holds other types is read in front of the end of a group. -/
theorem ReadsType.whole {type : Reader RawType} (h : ReadsType type plus ts) (s : Scope) :
    ∃ t, type s ⟨ts, none⟩ = .ok (t, ⟨[], none⟩) ∧ t.tokens = ts := by
  have read := h.read s [] (endsType_nil plus)
  rwa [List.append_nil] at read

/-! ## Types of one token -/

theorem readsType_infer (place : Span) :
    ReadsType (typeOnce g plus true) plus [.ident "_" place] where
  front := .cons rfl []
  unnamed rest ends := by
    rcases ends with rfl | ⟨comma, more, rfl⟩ <;> rfl
  read _ _ _ := ⟨.infer place, rfl, rfl⟩

theorem readsType_never (place : Span) :
    ReadsType (typeOnce g plus true) plus [.punct '!' false place] where
  front := .cons rfl []
  unnamed _ _ := rfl
  read s rest ends := by
    have bang : operator "!" s ⟨.punct '!' false place :: rest, none⟩ =
        .ok ([.punct '!' false place], ⟨rest, none⟩) := rfl
    have dispatch : typeOnce g plus true s ⟨.punct '!' false place :: rest, none⟩ =
        (do return .never (Tokens.span (← operator "!")) : Reader RawType) s
          ⟨.punct '!' false place :: rest, none⟩ := rfl
    refine ⟨.never place, ?_, rfl⟩
    rw [List.singleton_append, dispatch, bind_apply, bang]
    simp only [Tokens.span_singleton, Token.span]
    rfl

/-! ## Parentheses -/

theorem typeOnce_parentheses (content : Tokens) (place : Span) (s : Scope) (rest : Tokens) :
    typeOnce g plus true s ⟨.group .parenthesis content place :: rest, none⟩ =
      parenthesisType g plus s ⟨.group .parenthesis content place :: rest, none⟩ := rfl

theorem readsType_unit (place : Span) :
    ReadsType (typeOnce g plus true) plus [.group .parenthesis [] place] where
  front := .cons rfl []
  unnamed _ _ := rfl
  read _ _ _ := ⟨.unit place, rfl, rfl⟩

/-- What parentheses hold when they hold a type first: something, and neither a lifetime nor a
question mark in front. -/
structure BeginsType (ts : Tokens) : Prop where
  begun : ts ≠ []
  noLifetime : Sign.lifetime.shows ts = false
  noMark : (Sign.operator "?").shows ts = false

theorem ReadsType.beginsType {type : Reader RawType} (h : ReadsType type plus ts) (rest : Tokens) :
    BeginsType (ts ++ rest) where
  begun := List.append_ne_nil_of_left_ne_nil h.front.ne_nil rest
  noLifetime := h.front.not_shows (by decide) rest
  noMark := h.front.not_shows (by decide) rest

theorem enclosed_first (h : BeginsType ts) (s : Scope) : enclosed g s ⟨ts, none⟩ =
      (do
        let first ← g.type true true
        if ← peek (.operator ",") then
          let comma ← operator ","
          return .tuple (first.tokens ++ comma ++
            (← commaTokens (RawType.tokens <$> g.type true true)))
        else return .single first : Reader Enclosed) s ⟨ts, none⟩ := by
  rw [enclosed, atEnd_bind, List.isEmpty_eq_false_iff.mpr h.begun, if_neg Bool.false_ne_true,
    peek_bind, h.noLifetime, if_neg Bool.false_ne_true, peek_bind, h.noMark,
    if_neg Bool.false_ne_true]

theorem enclosed_single (h : ReadsType (g.type true true) true ts) (s : Scope) :
    ∃ t, enclosed g s ⟨ts, none⟩ = .ok (.single t, ⟨[], none⟩) ∧ t.tokens = ts := by
  obtain ⟨t, read, same⟩ := h.whole s
  have begins := h.beginsType []
  rw [List.append_nil] at begins
  refine ⟨t, ?_, same⟩
  rw [enclosed_first begins, bind_apply, read]
  rfl

/-- A comma behind the first type makes a tuple. -/
theorem enclosed_tuple {behind left comma more : Tokens} {t : RawType} {s : Scope}
    (h : BeginsType ts) (first : g.type true true s ⟨ts, none⟩ = .ok (t, ⟨behind, none⟩))
    (shown : (Sign.operator ",").shows behind = true)
    (taken : operator "," s ⟨behind, none⟩ = .ok (comma, ⟨left, none⟩))
    (list : commaTokens (RawType.tokens <$> g.type true true) s ⟨left, none⟩ =
      .ok (more, ⟨[], none⟩)) :
    enclosed g s ⟨ts, none⟩ = .ok (.tuple (t.tokens ++ comma ++ more), ⟨[], none⟩) := by
  rw [enclosed_first h, bind_apply, first]
  simp only [peek_bind, shown, if_true]
  rw [bind_apply, taken]
  simp only [bind_apply, list]
  rfl

theorem readsType_parens (h : ReadsType (g.type true true) true ts) (place : Span) :
    ReadsType (typeOnce g plus true) plus [.group .parenthesis ts place] where
  front := .cons rfl []
  unnamed _ _ := rfl
  read s rest ends := by
    obtain ⟨t, read, rfl⟩ := enclosed_single h ⟨place.closing, .parenthesis⟩
    refine ⟨.paren t place, ?_, rfl⟩
    rw [List.singleton_append, typeOnce_parentheses]
    refine groupThen_read read ?_
    have noSum : (plus && (Sign.operator "+").shows rest) = false := by
      cases plus with
      | false => rfl
      | true => exact ends.sum rfl
    cases lifted : liftedBound t with
    | none => simp only [lifted]; rfl
    | some ts =>
      simp only [lifted, peek_bind, noSum, Bool.false_eq_true, if_false]
      rfl

/-- A tuple has a comma behind its first element. -/
theorem readsType_tuple (h : ReadsType (g.type true true) true ts) (comma : Span)
    {items : List (Tokens × Tokens)} (parted : Tokens.Parted items)
    (more : ∀ p ∈ items, ReadsType (g.type true true) true p.1) (place : Span) :
    ReadsType (typeOnce g plus true) plus
      [.group .parenthesis (ts ++ .punct ',' false comma :: Tokens.listed items) place] where
  front := .cons rfl []
  unnamed _ _ := rfl
  read s rest ends := by
    obtain ⟨t, first, rfl⟩ := h.read ⟨place.closing, .parenthesis⟩
      (.punct ',' false comma :: Tokens.listed items)
      ((show Tokens.AtComma _ from .inr ⟨comma, _, rfl⟩).endsType true)
    have list := commaTokens_types parted more ⟨place.closing, .parenthesis⟩
    have read := enclosed_tuple (h.beginsType _) first rfl (operator_comma comma _) list
    rw [List.append_assoc, List.singleton_append] at read
    refine ⟨.other [.group .parenthesis (t.tokens ++ .punct ',' false comma :: Tokens.listed items)
      place], ?_, rfl⟩
    rw [List.singleton_append, typeOnce_parentheses]
    exact groupThen_read read rfl

/-! ## Types that another macro put in -/

theorem readsType_inserted (h : ReadsType (g.type true true) true ts) (place : Span) :
    ReadsType (typeOnce g plus true) plus [.group .invisible ts place] where
  front := h.front.inserted place
  unnamed := h.unnamed.inserted h.front place
  read s rest ends := by
    obtain ⟨t, read, rfl⟩ := h.whole ⟨place.closing, .invisible⟩
    have dispatch : typeOnce g plus true s ⟨.group .invisible t.tokens place :: rest, none⟩ =
        insertedType g true s ⟨.group .invisible t.tokens place :: rest, none⟩ := rfl
    refine ⟨.group t place, ?_, rfl⟩
    rw [List.singleton_append, dispatch, insertedType, bind_apply, group_read read]
    simp only [peekBehind_bind, peek_bind, ends.colons, ends.angle, Bool.false_and, Bool.and_false,
      Bool.or_self, Bool.false_eq_true, if_false]
    rfl

/-! ## Brackets -/

theorem readsType_slice (h : ReadsType (g.type true true) true ts) (place : Span) :
    ReadsType (typeOnce g plus true) plus [.group .bracket ts place] where
  front := .cons rfl []
  unnamed _ _ := rfl
  read s rest _ := by
    obtain ⟨t, read, rfl⟩ := h.whole ⟨place.closing, .bracket⟩
    have dispatch : typeOnce g plus true s ⟨.group .bracket t.tokens place :: rest, none⟩ =
        bracketType g s ⟨.group .bracket t.tokens place :: rest, none⟩ := rfl
    have element : (do
        let element ← g.type true true
        if ← peek (.operator ";") then
          let semicolon ← operator ";"
          return element.tokens ++ semicolon ++ (← g.expression true).tokens
        else return element.tokens : Reader Tokens) ⟨place.closing, .bracket⟩ ⟨t.tokens, none⟩ =
        .ok (t.tokens, ⟨[], none⟩) := by
      rw [bind_apply, read]
      rfl
    refine ⟨.other [.group .bracket t.tokens place], ?_, rfl⟩
    rw [List.singleton_append, dispatch, bracketType, bind_apply, groupTokens, bind_apply,
      group_read element]
    rfl

/-- The length of an array is an expression that is read back. -/
theorem readsType_array (h : ReadsType (g.type true true) true ts) (semicolon : Span)
    {length : Tokens} (read : ∀ s, ∃ e, g.expression true s ⟨length, none⟩ = .ok (e, ⟨[], none⟩) ∧
      e.tokens = length) (place : Span) :
    ReadsType (typeOnce g plus true) plus
      [.group .bracket (ts ++ .punct ';' false semicolon :: length) place] where
  front := .cons rfl []
  unnamed _ _ := rfl
  read s rest _ := by
    obtain ⟨t, first, rfl⟩ := h.read ⟨place.closing, .bracket⟩
      (.punct ';' false semicolon :: length) ⟨rfl, rfl, rfl, rfl, rfl, fun _ => rfl⟩
    obtain ⟨e, counted, rfl⟩ := read ⟨place.closing, .bracket⟩
    have dispatch (content : Tokens) :
        typeOnce g plus true s ⟨.group .bracket content place :: rest, none⟩ =
          bracketType g s ⟨.group .bracket content place :: rest, none⟩ := rfl
    have mark : operator ";" ⟨place.closing, .bracket⟩
        ⟨.punct ';' false semicolon :: e.tokens, none⟩ =
        .ok ([.punct ';' false semicolon], ⟨e.tokens, none⟩) := rfl
    have shown : (Sign.operator ";").shows (.punct ';' false semicolon :: e.tokens) = true := rfl
    have content : (do
        let element ← g.type true true
        if ← peek (.operator ";") then
          let semicolon ← operator ";"
          return element.tokens ++ semicolon ++ (← g.expression true).tokens
        else return element.tokens : Reader Tokens) ⟨place.closing, .bracket⟩
        ⟨t.tokens ++ .punct ';' false semicolon :: e.tokens, none⟩ =
        .ok (t.tokens ++ .punct ';' false semicolon :: e.tokens, ⟨[], none⟩) := by
      rw [bind_apply, first]
      simp only [peek_bind, shown, if_true]
      rw [bind_apply, mark]
      simp only [bind_apply, counted]
      simp [pure_apply]
    refine ⟨.other [.group .bracket (t.tokens ++ .punct ';' false semicolon :: e.tokens) place], ?_,
      rfl⟩
    rw [List.singleton_append, dispatch, bracketType, bind_apply, groupTokens, bind_apply,
      group_read content]
    rfl

/-! ## Pointers and references -/

theorem readsType_pointer (h : ReadsType (g.type false true) false ts) (star : Span)
    {access : String} (known : access = "const" ∨ access = "mut") (place : Span) :
    ReadsType (typeOnce g plus true) plus (.punct '*' false star :: .ident access place :: ts) where
  front := .cons rfl _
  unnamed _ _ := rfl
  read s rest ends := by
    obtain ⟨t, read, rfl⟩ := h.read s rest ends.withoutSum
    have dispatch : typeOnce g plus true s
        ⟨.punct '*' false star :: .ident access place :: (t.tokens ++ rest), none⟩ =
        pointerType g s ⟨.punct '*' false star :: .ident access place :: (t.tokens ++ rest), none⟩ :=
      rfl
    have mark : operator "*" s
        ⟨.punct '*' false star :: .ident access place :: (t.tokens ++ rest), none⟩ =
        .ok ([.punct '*' false star], ⟨.ident access place :: (t.tokens ++ rest), none⟩) := rfl
    have shown (text : String) : (Sign.keyword text).shows
        (.ident access place :: (t.tokens ++ rest)) = decide (access = text) := rfl
    have word : keyword access s ⟨.ident access place :: (t.tokens ++ rest), none⟩ =
        .ok ([.ident access place], ⟨t.tokens ++ rest, none⟩) := if_pos rfl
    refine ⟨.other (.punct '*' false star :: .ident access place :: t.tokens), ?_, rfl⟩
    rw [List.cons_append, List.cons_append, dispatch, pointerType, bind_apply, mark]
    simp only [peek_bind, shown]
    rcases known with rfl | rfl
    · rw [if_pos (decide_eq_true rfl), bind_apply, word]
      simp only [bind_apply, read]
      rfl
    · rw [if_neg (by decide), if_pos (decide_eq_true rfl), bind_apply, word]
      simp only [bind_apply, read]
      rfl

/-- A lifetime, or nothing. -/
def IsRegion (ts : Tokens) : Prop := ts = [] ∨ ts.IsLifetime

/-- The word `mut`, or nothing. -/
def mutability (place : Option Span) : Tokens := (place.map fun p => [Token.ident "mut" p]).getD []

theorem region_written {region : Tokens} (h : IsRegion region)
    (none_ : Sign.lifetime.shows ts = false) (s : Scope) :
    Reader.optional .lifetime lifetime s ⟨region ++ ts, none⟩ = .ok (region, ⟨ts, none⟩) := by
  rcases h with rfl | h
  · exact optional_none none_ s
  · have taken := lifetime_written h s ts
    have shown : Sign.lifetime.shows (region ++ ts) = true := by
      obtain ⟨mark, i⟩ := h
      rfl
    rw [Reader.optional, peek_bind, shown, if_pos rfl, taken]

theorem mutability_written (access : Option Span) (none_ : (Sign.keyword "mut").shows ts = false)
    (s : Scope) : keyword? "mut" s ⟨mutability access ++ ts, none⟩ =
      .ok (mutability access, ⟨ts, none⟩) := by
  cases access with
  | none => exact optional_none none_ s
  | some place => rfl

theorem readsType_reference (h : ReadsType (g.type false true) false ts) (mark : Span)
    {region : Tokens} (isRegion : IsRegion region) (access : Option Span) :
    ReadsType (typeOnce g plus true) plus
      (.punct '&' false mark :: (region ++ (mutability access ++ ts))) where
  front := .cons rfl _
  unnamed _ _ := rfl
  read s rest ends := by
    obtain ⟨t, read, rfl⟩ := h.read s rest ends.withoutSum
    have dispatch (more : Tokens) : typeOnce g plus true s ⟨.punct '&' false mark :: more, none⟩ =
        referenceType g s ⟨.punct '&' false mark :: more, none⟩ := rfl
    have and (more : Tokens) : operator "&" s ⟨.punct '&' false mark :: more, none⟩ =
        .ok ([.punct '&' false mark], ⟨more, none⟩) := rfl
    have noLifetime : Sign.lifetime.shows (mutability access ++ (t.tokens ++ rest)) = false := by
      cases access with
      | none => exact h.front.not_shows (by decide) rest
      | some place => rfl
    have lifetime := region_written isRegion noLifetime s
    have word := mutability_written access (h.front.not_shows (by decide) rest) s
    refine ⟨.other (.punct '&' false mark :: (region ++ (mutability access ++ t.tokens))), ?_, rfl⟩
    rw [List.cons_append, List.append_assoc, List.append_assoc, dispatch, referenceType, bind_apply,
      and]
    simp only
    rw [bind_apply, lifetime]
    simp only
    rw [bind_apply, word]
    simp only [bind_apply, read]
    simp [pure_apply]

/-! ## Traits -/

theorem needTrait_met {bs : List (Bound × Tokens)} (h : bs.any (·.1.kind = .trait) = true)
    (start : Span) (complaint : Complaint) (s : Scope) (c : Cursor) :
    needTrait bs start complaint s c = .ok ((), c) := by
  have met : (bs.any fun b => b.1.kind = .trait || b.1.kind = .verbatim) = true := by
    obtain ⟨b, hb, isTrait⟩ := List.any_eq_true.mp h
    exact List.any_eq_true.mpr ⟨b, hb, by rw [isTrait, Bool.true_or]⟩
  rw [needTrait, if_pos met]
  rfl

theorem readsType_dyn (h : ReadsSum g plus ts) (word : Span) :
    ReadsType (typeOnce g plus true) plus (.ident "dyn" word :: ts) where
  front := .cons rfl _
  unnamed _ _ := rfl
  read s rest ends := by
    obtain ⟨bs, read, same, traits⟩ := h.read false true s rest ends
    have dispatch : typeOnce g plus true s ⟨.ident "dyn" word :: (ts ++ rest), none⟩ =
        objectType g plus s ⟨.ident "dyn" word :: (ts ++ rest), none⟩ := rfl
    have dyn : keyword "dyn" s ⟨.ident "dyn" word :: (ts ++ rest), none⟩ =
        .ok ([.ident "dyn" word], ⟨ts ++ rest, none⟩) := rfl
    have noStar : operator? "*" s ⟨ts ++ rest, none⟩ = .ok ([], ⟨ts ++ rest, none⟩) :=
      optional_none (h.noStar rest) s
    have bounds : objectBounds g (Tokens.span [.ident "dyn" word]) plus s ⟨ts ++ rest, none⟩ =
        .ok (ts, ⟨rest, none⟩) := by
      rw [objectBounds, bind_apply, read]
      simp only [bind_apply, needTrait_met traits, pure_apply, same]
    refine ⟨.other (.ident "dyn" word :: ts), ?_, rfl⟩
    rw [List.cons_append, dispatch, objectType, bind_apply, withSource, bind_apply, dyn]
    simp only [bind_apply, noStar, bounds]
    rfl

theorem readsType_impl (h : ReadsSum g plus ts) (word : Span) :
    ReadsType (typeOnce g plus true) plus (.ident "impl" word :: ts) where
  front := .cons rfl _
  unnamed _ _ := rfl
  read s rest ends := by
    obtain ⟨bs, read, same, traits⟩ := h.read true true s rest ends
    have dispatch : typeOnce g plus true s ⟨.ident "impl" word :: (ts ++ rest), none⟩ =
        opaqueType g plus s ⟨.ident "impl" word :: (ts ++ rest), none⟩ := rfl
    have impl : keyword "impl" s ⟨.ident "impl" word :: (ts ++ rest), none⟩ =
        .ok ([.ident "impl" word], ⟨ts ++ rest, none⟩) := rfl
    refine ⟨.other (.ident "impl" word :: ts), ?_, rfl⟩
    rw [List.cons_append, dispatch, opaqueType, bind_apply, impl]
    simp only [bind_apply, read, needTrait_met traits, same]
    rfl

/-! ## Paths -/

section Paths

variable {p : Path}

theorem typeOnce_path (front : p.Front) (rest : Tokens) (s : Scope) :
    typeOnce g plus true s ⟨p.tokens ++ rest, none⟩ =
      pathType g plus [] s ⟨p.tokens ++ rest, none⟩ := by
  have noGroup := front.noGroup rest
  simp only [List.any_cons, List.any_nil, Bool.or_false, Bool.or_eq_false_iff] at noGroup
  have noFunction : [Sign.keyword "fn", .keyword "unsafe", .keyword "extern"].any
      (·.shows (p.tokens ++ rest)) = false := by
    simp only [List.any_cons, List.any_nil,
      front.keyword (show isSegmentWord "fn" = false by decide),
      front.keyword (show isSegmentWord "unsafe" = false by decide),
      front.keyword (show isSegmentWord "extern" = false by decide), Bool.or_false]
  have shown : [Sign.identifier, .keyword "super", .keyword "self", .keyword "Self",
      .keyword "crate", .operator "::", .operator "<"].any (·.shows (p.tokens ++ rest)) = true := by
    rcases front.cases rest with ⟨more, word, known⟩ | ⟨place, more, colons⟩
    · rw [word]
      exact opensPath_signs known more
    · rw [colons]
      rfl
  have binder : binder? g s ⟨p.tokens ++ rest, none⟩ = .ok ([], ⟨p.tokens ++ rest, none⟩) :=
    binder?_none (front.keyword (by decide) rest) s
  rw [typeOnce, peek_bind, noGroup.2.2.1, if_neg Bool.false_ne_true, bind_apply, binder]
  simp only [List.isEmpty_nil, Bool.not_true, Bool.false_and, Bool.false_eq_true, if_false,
    peek_bind, peekAny_bind, noGroup, noFunction, shown, if_true]

theorem ownedPath_written (front : p.Front) (segments : ∀ x ∈ p.segments, Rereads g false x)
    (noAngles : Tokens.NoAngles false rest) (stop : (Sign.operator "::").shows rest = false)
    (s : Scope) : ownedPath g false s ⟨p.tokens ++ rest, none⟩ = .ok (([], p), ⟨rest, none⟩) := by
  have noGroup := front.noGroup rest
  simp only [List.any_cons, List.any_nil, Bool.or_false, Bool.or_eq_false_iff] at noGroup
  rw [ownedPath, peek_bind, noGroup.2.2.2.2.1, if_neg Bool.false_ne_true, bind_apply,
    path_again segments noAngles stop]
  rfl

/-- A path is read as the path that it is. -/
theorem typeOnce_path_written (front : p.Front) (segments : ∀ x ∈ p.segments, Rereads g false x)
    (ends : rest.EndsType plus) (s : Scope) :
    typeOnce g plus true s ⟨p.tokens ++ rest, none⟩ = .ok (.path [] p, ⟨rest, none⟩) := by
  have path := ownedPath_written front segments ends.noAngles ends.colons s
  have noSum : (plus && (Sign.operator "+").shows rest) = false := by
    cases plus with
    | false => rfl
    | true => exact ends.sum rfl
  rw [typeOnce_path front, pathType, bind_apply, path]
  simp only [List.isEmpty_nil, Bool.not_true, Bool.false_eq_true, if_false, peek_bind, ends.bang,
    Bool.false_and, noSum, if_true]
  rfl

theorem readsType_path (front : p.Front) (segments : ∀ x ∈ p.segments, ReadsSegment g x) :
    ReadsType (typeOnce g plus true) plus p.tokens where
  front := front.typeFront
  unnamed := unnamed_path segments
  read s _ ends := ⟨.path [] p,
    typeOnce_path_written front (fun x hx => (segments x hx).rereads) ends s, rfl⟩

/-- A macro call. -/
theorem readsType_call {ts : Tokens} (h : ts.IsCall) :
    ReadsType (typeOnce g plus true) plus ts := by
  obtain ⟨plain, visible, bang, content, place⟩ := h
  next p d =>
  have front : p.Front := by
    obtain ⟨head, -⟩ := plain
    exact fun _ => head
  refine ⟨front.typeFront.append _, fun rest _ => ?_,
    fun s rest _ => ⟨.other (p.tokens ++ [.punct '!' false bang, .group d content place]), ?_, rfl⟩⟩
  · have words : ∀ x ∈ p.segments, ReadsSegment g x := readsSegment_plain plain
    have clear : Tokens.oneColon (.punct '!' false bang :: .group d content place :: rest) = false :=
      rfl
    have behind := skip?_path words clear
    rw [List.append_assoc]
    exact behind
  · have noAngles : Tokens.NoAngles false
        (.punct '!' false bang :: .group d content place :: rest) := ⟨fun _ => rfl, rfl⟩
    have path := ownedPath_written front (rereads_plain (g := g) plain) noAngles rfl s
    have shown : (Sign.operator "!").shows
        (.punct '!' false bang :: .group d content place :: rest) = true := rfl
    have single : (Sign.operator "!=").shows
        (.punct '!' false bang :: .group d content place :: rest) = false := rfl
    have words : p.isPlain = true := by
      obtain ⟨-, -⟩ := plain
      simp [Path.isPlain, Path.ofWords, Path.segments, Arguments.isNone]
    have mark : operator "!" s ⟨.punct '!' false bang :: .group d content place :: rest, none⟩ =
        .ok ([.punct '!' false bang], ⟨.group d content place :: rest, none⟩) := rfl
    have arguments : macroArguments s ⟨.group d content place :: rest, none⟩ =
        .ok ((d, [.group d content place]), ⟨rest, none⟩) := by
      rw [macroArguments, bind_apply, anyGroup]
      simp only [visible, if_false]
      rfl
    rw [List.append_assoc, List.cons_append, List.singleton_append, typeOnce_path front, pathType,
      bind_apply, path]
    simp only [List.isEmpty_nil, Bool.not_true, Bool.false_eq_true, if_false, peek_bind, shown,
      single, words, Bool.not_false, Bool.and_self, if_true]
    simp only [bind_apply, mark, arguments]
    simp [pure_apply]

/-! ## Paths that a type owns -/

/-- The owner of a path: a type and perhaps a trait of it. -/
def ownerTokens (opening : Span) (type : Tokens) (trait : Option (Span × Path))
    (closing colons : Span) : Tokens :=
  .punct '<' false opening :: (type ++
    ((trait.map fun t => .ident "as" t.1 :: t.2.tokens).getD [] ++
      .punct '>' false closing :: Path.separator colons))

variable {inExpression : Bool}

/-- What follows the type and the trait of an owner. -/
def behindOwner (g : Grammar) (inExpression : Bool) (owner : Tokens) : Reader (Tokens × Path) := do
  let closing ← operator ">"
  let colons ← operator "::"
  let first ← segment g inExpression
  let rest ← loop (fun (read : Path) => do
    if ← peek (.operator "::") then
      let _ ← separator
      return .again (read.push (← segment g inExpression))
    else return .done read) { absolute := none, first, others := [] }
  return (owner ++ closing ++ colons, rest)

theorem behindOwner_written (relative : p.absolute = none)
    (segments : ∀ x ∈ p.segments, Rereads g inExpression x)
    (noAngles : Tokens.NoAngles inExpression rest)
    (stop : (Sign.operator "::").shows rest = false) (owner : Tokens) (closing colons : Span)
    (s : Scope) :
    behindOwner g inExpression owner s
        ⟨.punct '>' false closing :: (Path.separator colons ++ (p.tokens ++ rest)), none⟩ =
      .ok ((owner ++ .punct '>' false closing :: Path.separator colons, p), ⟨rest, none⟩) := by
  obtain ⟨absolute, first, others⟩ := p
  obtain rfl : absolute = none := relative
  rw [Path.segments, List.forall_mem_cons] at segments
  have tokens : (Path.mk none first others).tokens ++ rest = first.tokens ++
      (others.flatMap (fun x => Path.separator x.ident.span ++ x.tokens) ++ rest) := by
    simp [Path.tokens]
  have greater (more : Tokens) : operator ">" s ⟨.punct '>' false closing :: more, none⟩ =
      .ok ([.punct '>' false closing], ⟨more, none⟩) := rfl
  have double (more : Tokens) : operator "::" s ⟨Path.separator colons ++ more, none⟩ =
      .ok (Path.separator colons, ⟨more, none⟩) := rfl
  have list : loop (fun (read : Path) => do
      if ← peek (.operator "::") then
        let _ ← separator
        return .again (read.push (← segment g inExpression))
      else return .done read) ⟨none, first, []⟩ s
      ⟨others.flatMap (fun x => Path.separator x.ident.span ++ x.tokens) ++ rest, none⟩ =
      .ok (⟨none, first, others⟩, ⟨rest, none⟩) := by
    refine loop_segments noAngles (fun read x hx behind clear => ?_) (fun read => ?_) _
    · have shown : (Sign.operator "::").shows
          (Path.separator x.ident.span ++ (x.tokens ++ behind)) = true := rfl
      rw [peek_bind, shown, if_pos rfl, bind_apply, separator_written]
      simp only [bind_apply, segments.2 x hx s _ clear]
      rfl
    · rw [peek_bind, stop]
      rfl
  rw [tokens, behindOwner, bind_apply, greater]
  simp only
  rw [bind_apply, double]
  simp only
  rw [bind_apply, segments.1 s _ (Tokens.noAngles_segments others noAngles)]
  simp only
  rw [bind_apply, list]
  simp [pure_apply]

theorem ownedPath_owner (h : ReadsType (g.type true true) true ts) {trait : Option (Span × Path)}
    (implements : ∀ t ∈ trait, ∀ x ∈ t.2.segments, Rereads g false x) (relative : p.absolute = none)
    (segments : ∀ x ∈ p.segments, Rereads g inExpression x) (opening closing colons : Span)
    (noAngles : Tokens.NoAngles inExpression rest)
    (stop : (Sign.operator "::").shows rest = false) (s : Scope) :
    ownedPath g inExpression s ⟨ownerTokens opening ts trait closing colons ++ (p.tokens ++ rest), none⟩ =
      .ok ((ownerTokens opening ts trait closing colons, p), ⟨rest, none⟩) := by
  have less (more : Tokens) : operator "<" s ⟨.punct '<' false opening :: more, none⟩ =
      .ok ([.punct '<' false opening], ⟨more, none⟩) := rfl
  have shown (more : Tokens) : (Sign.operator "<").shows (.punct '<' false opening :: more) = true :=
    rfl
  cases trait with
  | none =>
    obtain ⟨t, read, rfl⟩ := h.read s
      (.punct '>' false closing :: (Path.separator colons ++ (p.tokens ++ rest)))
      ⟨rfl, rfl, rfl, rfl, rfl, fun _ => rfl⟩
    have noTrait : (Sign.keyword "as").shows
        (.punct '>' false closing :: (Path.separator colons ++ (p.tokens ++ rest))) = false := rfl
    have behind := behindOwner_written relative segments noAngles stop
      ([.punct '<' false opening] ++ t.tokens ++ []) closing colons s
    have tokens : ownerTokens opening t.tokens none closing colons ++ (p.tokens ++ rest) =
        .punct '<' false opening :: (t.tokens ++
          .punct '>' false closing :: (Path.separator colons ++ (p.tokens ++ rest))) := by
      simp [ownerTokens]
    rw [tokens, ownedPath, peek_bind, shown, if_pos rfl, bind_apply, less]
    simp only
    rw [bind_apply, read]
    simp only [peek_bind, noTrait, Bool.false_eq_true, if_false]
    refine behind.trans ?_
    simp [ownerTokens]
  | some t =>
    obtain ⟨place, q⟩ := t
    obtain ⟨t, read, rfl⟩ := h.read s
      (.ident "as" place :: (q.tokens ++
        .punct '>' false closing :: (Path.separator colons ++ (p.tokens ++ rest))))
      ⟨rfl, rfl, rfl, rfl, rfl, fun _ => rfl⟩
    have as : keyword "as" s ⟨.ident "as" place :: (q.tokens ++
        .punct '>' false closing :: (Path.separator colons ++ (p.tokens ++ rest))), none⟩ =
        .ok ([.ident "as" place], ⟨q.tokens ++
          .punct '>' false closing :: (Path.separator colons ++ (p.tokens ++ rest)), none⟩) := rfl
    have isTrait : (Sign.keyword "as").shows (.ident "as" place :: (q.tokens ++
        .punct '>' false closing :: (Path.separator colons ++ (p.tokens ++ rest)))) = true := rfl
    have clear : Tokens.NoAngles false
        (.punct '>' false closing :: (Path.separator colons ++ (p.tokens ++ rest))) :=
      ⟨fun _ => rfl, rfl⟩
    have path := path_again (implements _ rfl) clear rfl s
    have behind := behindOwner_written relative segments noAngles stop
      ([.punct '<' false opening] ++ t.tokens ++ ([.ident "as" place] ++ q.tokens)) closing colons s
    have tokens : ownerTokens opening t.tokens (some (place, q)) closing colons ++
        (p.tokens ++ rest) = .punct '<' false opening :: (t.tokens ++ .ident "as" place ::
          (q.tokens ++
            .punct '>' false closing :: (Path.separator colons ++ (p.tokens ++ rest)))) := by
      simp [ownerTokens]
    rw [tokens, ownedPath, peek_bind, shown, if_pos rfl, bind_apply, less]
    simp only
    rw [bind_apply, read]
    simp only [peek_bind, isTrait, if_true]
    rw [bind_apply, as]
    simp only [bind_apply, path]
    refine behind.trans ?_
    simp [ownerTokens]

theorem readsType_owned (h : ReadsType (g.type true true) true ts) {trait : Option (Span × Path)}
    (implements : ∀ t ∈ trait, ∀ x ∈ t.2.segments, Rereads g false x) (relative : p.absolute = none)
    (segments : ∀ x ∈ p.segments, Rereads g false x) (opening closing colons : Span) :
    ReadsType (typeOnce g plus true) plus
      (ownerTokens opening ts trait closing colons ++ p.tokens) where
  front := .cons rfl _
  unnamed _ _ := rfl
  read s rest ends := by
    have dispatch (more : Tokens) : typeOnce g plus true s ⟨.punct '<' false opening :: more, none⟩ =
        pathType g plus [] s ⟨.punct '<' false opening :: more, none⟩ := rfl
    have path := ownedPath_owner h implements relative segments opening closing colons ends.noAngles
      ends.colons s
    rw [ownerTokens, List.cons_append] at path
    refine ⟨.path (ownerTokens opening ts trait closing colons) p, ?_, rfl⟩
    rw [List.append_assoc, ownerTokens, List.cons_append, dispatch, pathType, bind_apply, path]
    simp only [List.isEmpty_cons, Bool.not_false, if_true]
    rfl

end Paths

end TypedId.Grammar
