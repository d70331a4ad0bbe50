/-
Operands of operators, read where they are written: an atom, what trails it,
and the signs in front. An atom is read in front of anything that its words
could not go on with, an operand in front of anything that could not trail
it.
-/
import Mathlib.Data.List.Chain
import TypedId.Proofs.Written.Types

namespace TypedId

open Reader

/-! ## Where an operand begins and ends -/

/-- Whether an operand can begin with the token. -/
def Token.opensOperand : Token → Bool
  | .ident x _ => isSegmentWord x || ["true", "false"].contains x
  | .punct c _ _ => [':', '<', '&', '*', '!', '-'].contains c
  | .group d _ _ => d == .parenthesis || d == .bracket
  | .literal _ _ => true

namespace Tokens

/-- The tokens begin as an operand does. -/
def OperandFront (ts : Tokens) : Prop := ∃ t more, ts.enter = t :: more ∧ t.opensOperand = true

theorem enter_of_opensOperand {t : Token} (h : t.opensOperand = true) (more : Tokens) :
    enter (t :: more) = t :: more := by
  cases t with
  | group d content place =>
    cases d with
    | invisible => cases h
    | parenthesis | bracket | brace => rfl
  | ident | punct | literal => rfl

theorem OperandFront.cons {t : Token} (h : t.opensOperand = true) (more : Tokens) :
    OperandFront (t :: more) := ⟨t, more, enter_of_opensOperand h more, h⟩

theorem OperandFront.append {ts : Tokens} (h : ts.OperandFront) (more : Tokens) :
    OperandFront (ts ++ more) := by
  obtain ⟨t, behind, front, opens⟩ := h
  exact ⟨t, behind ++ more, enter_append_of_cons front more, opens⟩

theorem OperandFront.ne_nil {ts : Tokens} (h : ts.OperandFront) : ts ≠ [] := by
  rintro rfl
  obtain ⟨t, more, front, -⟩ := h
  cases front

theorem OperandFront.inserted {ts : Tokens} (h : ts.OperandFront) (place : Span) :
    OperandFront [.group .invisible ts place] := by
  obtain ⟨t, more, front, opens⟩ := h
  refine ⟨t, more, ?_, opens⟩
  rw [enter_invisible, if_neg (by rw [front]; exact List.cons_ne_nil _ _), front, List.append_nil]

theorem OperandFront.shows_keyword {ts : Tokens} (h : ts.OperandFront) (text : String)
    (rest : Tokens) : (Sign.keyword text).shows (ts ++ rest) = (Sign.keyword text).shows ts := by
  obtain ⟨t, more, front, -⟩ := h
  simp only [Sign.shows, word?, front, enter_append_of_cons front rest]
  cases t <;> rfl

/-- Neither an attribute nor the word `mut` begins like an operand. -/
theorem OperandFront.not_shows {ts : Tokens} (h : ts.OperandFront) {sign : Sign}
    (hs : sign ∈ [Sign.operator "#", .keyword "mut"]) (rest : Tokens) :
    sign.shows (ts ++ rest) = false := by
  obtain ⟨t, more, front, opens⟩ := h
  have same : enter (ts ++ rest) = enter (t :: (more ++ rest)) := by
    rw [enter_append_of_cons front, enter_of_opensOperand opens]
  have visible : sign.visible = true := by
    revert sign
    decide
  rw [Sign.shows_congr visible same]
  rcases List.mem_cons.mp hs with rfl | hs
  · cases t with
    | punct c j place =>
      simp only [Token.opensOperand, List.contains_cons, List.contains_nil, Bool.or_false,
        Bool.or_eq_true, beq_iff_eq] at opens
      rcases opens with rfl | rfl | rfl | rfl | rfl | rfl <;> cases j <;> rfl
    | group d content place =>
      cases d with
      | parenthesis | bracket => rfl
      | brace | invisible => cases opens
    | ident | literal => rfl
  · obtain rfl := List.mem_singleton.mp hs
    cases t with
    | ident x place =>
      refine decide_eq_false ?_
      rintro rfl
      have other : ¬ (isSegmentWord "mut" || ["true", "false"].contains "mut") = true := by decide
      exact other opens
    | group d content place =>
      cases d with
      | parenthesis | bracket => rfl
      | brace | invisible => cases opens
    | punct | literal => rfl

/-- Nothing follows that the words of an atom could go on with. -/
structure EndsAtom (ts : Tokens) : Prop where
  colons : (Sign.operator "::").shows ts = false
  bang : ((Sign.operator "!").shows ts && !(Sign.operator "!=").shows ts) = false
  brace : (Sign.group .brace).shows ts = false
  hash : (Sign.operator "#").shows ts = false

/-- Nothing follows that could trail an operand. -/
structure EndsOperand (ts : Tokens) : Prop extends EndsAtom ts where
  parens : (Sign.group .parenthesis).shows ts = false
  bracket : (Sign.group .bracket).shows ts = false
  point : (Sign.operator ".").shows ts = false
  question : (Sign.operator "?").shows ts = false

/-- Nothing, a comma or a semicolon. -/
def EndsExpression (ts : Tokens) : Prop :=
  ts = [] ∨ ∃ c place more, (c = ',' ∨ c = ';') ∧ ts = .punct c false place :: more

theorem AtComma.endsExpression {ts : Tokens} (h : ts.AtComma) : ts.EndsExpression := by
  rcases h with rfl | ⟨place, more, rfl⟩
  · exact .inl rfl
  · exact .inr ⟨',', place, more, .inl rfl, rfl⟩

end Tokens

/-- The expression can stand beside any operator, and is written back as it was read. -/
structure Expression.IsOperand (e : Expression) : Prop where
  range : e.isRange = false
  comparison : e.isComparison = false
  kept : e.kind ≠ .verbatim

theorem Expression.isOperand_plain (ts : Tokens) : (Expression.plain ts).IsOperand :=
  ⟨rfl, rfl, nofun⟩

theorem Expression.isOperand_path (ts owner : Tokens) (p : Path) :
    (Expression.mk ts (.path owner p)).IsOperand := ⟨rfl, rfl, nofun⟩

namespace Grammar

variable {g : Grammar} {ts rest : Tokens} {s : Scope}

/-! ## What is read back -/

/-- What is looked for in front of an atom. -/
def unarySigns : List Sign :=
  [.group .invisible, .operator "#", .operator "&", .operator "*", .operator "!", .operator "-"]

/-- The tokens are read back as an atom. -/
structure ReadsAtom (g : Grammar) (ts : Tokens) : Prop where
  front : ts.OperandFront
  bare : ∀ rest, (Sign.group .invisible).shows (ts ++ rest) = true ∨
    unarySigns.any (·.shows (ts ++ rest)) = false
  read : ∀ s rest, Tokens.EndsAtom rest → ∃ e, atom g true s ⟨ts ++ rest, none⟩ =
    .ok (e, ⟨rest, none⟩) ∧ e.tokens = ts ∧ e.IsOperand

/-- The tokens are read back as an operand. -/
structure ReadsOperand (unary : Reader Expression) (ts : Tokens) : Prop where
  front : ts.OperandFront
  read : ∀ s rest, Tokens.EndsOperand rest → ∃ e, unary s ⟨ts ++ rest, none⟩ =
    .ok (e, ⟨rest, none⟩) ∧ e.tokens = ts ∧ e.IsOperand

/-- The tokens are read back as an expression. -/
structure ReadsExpression (expression : Reader Expression) (ts : Tokens) : Prop where
  front : ts.OperandFront
  read : expression.ReadsBack Expression.tokens Tokens.EndsExpression ts

/-- An expression is read in front of the end of a group. -/
theorem ReadsExpression.whole {expression : Reader Expression} (h : ReadsExpression expression ts)
    (s : Scope) : ∃ e, expression s ⟨ts, none⟩ = .ok (e, ⟨[], none⟩) ∧ e.tokens = ts := by
  have read := h.read s [] (.inl rfl)
  rwa [List.append_nil] at read

theorem commaTokens_expressions {items : List (Tokens × Tokens)} (parted : Tokens.Parted items)
    (h : ∀ p ∈ items, ReadsExpression (g.expression true) p.1) (s : Scope) :
    commaTokens (Expression.tokens <$> g.expression true) s ⟨Tokens.listed items, none⟩ =
      .ok (Tokens.listed items, ⟨[], none⟩) := by
  refine commaTokens_parted parted (fun p hp => ⟨(h p hp).front.ne_nil, fun s rest ends => ?_⟩) s
  obtain ⟨e, read, same⟩ := (h p hp).read s rest ends.endsExpression
  refine ⟨e.tokens, ?_, same⟩
  rw [map_eq_bind, bind_apply, read]
  rfl

/-- Expressions in parentheses, as they are written. -/
theorem callArguments_written {items : List (Tokens × Tokens)} (parted : Tokens.Parted items)
    (h : ∀ p ∈ items, ReadsExpression (g.expression true) p.1) (place : Span) (s : Scope)
    (rest : Tokens) :
    callArguments g s ⟨.group .parenthesis (Tokens.listed items) place :: rest, none⟩ =
      .ok ([.group .parenthesis (Tokens.listed items) place], ⟨rest, none⟩) := by
  have list := commaTokens_expressions parted h ⟨place.closing, .parenthesis⟩
  rw [callArguments, groupTokens, bind_apply, group_read list s rest]
  rfl

/-! ## Atoms -/

theorem readsAtom_literal (x : String) (place : Span) : ReadsAtom g [.literal x place] where
  front := .cons rfl []
  bare _ := .inr rfl
  read _ _ _ := ⟨.plain [.literal x place], rfl, rfl, Expression.isOperand_plain _⟩

theorem readsAtom_truth {x : String} (h : x = "true" ∨ x = "false") (place : Span) :
    ReadsAtom g [.ident x place] := by
  rcases h with rfl | rfl <;> exact
    { front := .cons rfl []
      bare := fun _ => .inr rfl
      read := fun _ _ _ => ⟨.plain _, rfl, rfl, Expression.isOperand_plain _⟩ }

theorem readsAtom_parens {items : List (Tokens × Tokens)} (parted : Tokens.Parted items)
    (h : ∀ p ∈ items, ReadsExpression (g.expression true) p.1) (place : Span) :
    ReadsAtom g [.group .parenthesis (Tokens.listed items) place] where
  front := .cons rfl []
  bare _ := .inr rfl
  read s rest _ := by
    have dispatch : atom g true s
        ⟨.group .parenthesis (Tokens.listed items) place :: rest, none⟩ =
        (do return .plain (← callArguments g) : Reader Expression) s
          ⟨.group .parenthesis (Tokens.listed items) place :: rest, none⟩ := rfl
    refine ⟨.plain [.group .parenthesis (Tokens.listed items) place], ?_, rfl,
      Expression.isOperand_plain _⟩
    rw [List.singleton_append, dispatch, bind_apply, callArguments_written parted h]
    rfl

/-- What an array holds. -/
def arrayContent (g : Grammar) : Reader Tokens := do
  if ← atEnd then return []
  let first ← g.expression true
  if ← atEnd then return first.tokens
  else if ← peek (.operator ",") then
    let comma ← operator ","
    return first.tokens ++ comma ++ (← commaTokens (Expression.tokens <$> g.expression true))
  else if ← peek (.operator ";") then
    let semicolon ← operator ";"
    return first.tokens ++ semicolon ++ (← g.expression true).tokens
  else wanted "`,` or `;`"

theorem arrayContent_first {e : Expression} (begun : ts ≠ [])
    (read : g.expression true s ⟨ts ++ rest, none⟩ = .ok (e, ⟨rest, none⟩)) (same : e.tokens = ts) :
    arrayContent g s ⟨ts ++ rest, none⟩ = (do
      if ← atEnd then return ts
      else if ← peek (.operator ",") then
        let comma ← operator ","
        return ts ++ comma ++ (← commaTokens (Expression.tokens <$> g.expression true))
      else if ← peek (.operator ";") then
        let semicolon ← operator ";"
        return ts ++ semicolon ++ (← g.expression true).tokens
      else wanted "`,` or `;`" : Reader Tokens) s ⟨rest, none⟩ := by
  rw [arrayContent, atEnd_bind, List.isEmpty_eq_false_iff.mpr (List.append_ne_nil_of_left_ne_nil
    begun rest), if_neg Bool.false_ne_true, bind_apply, read]
  simp only [same]

theorem arrayContent_listed {items : List (Tokens × Tokens)} (parted : Tokens.Parted items)
    (h : ∀ p ∈ items, ReadsExpression (g.expression true) p.1) (s : Scope) :
    arrayContent g s ⟨Tokens.listed items, none⟩ = .ok (Tokens.listed items, ⟨[], none⟩) := by
  cases parted with
  | nil => rfl
  | last ts =>
    have only := List.forall_mem_singleton.mp h
    obtain ⟨e, read, same⟩ := only.read s [] (.inl rfl)
    have written : Tokens.listed [(ts, [])] = ts ++ [] := by simp [Tokens.listed]
    rw [written, arrayContent_first only.front.ne_nil read same, List.append_nil]
    rfl
  | cons ts place parted =>
    rw [List.forall_mem_cons] at h
    next items =>
    obtain ⟨e, read, same⟩ := h.1.read s (.punct ',' false place :: Tokens.listed items)
      (.inr ⟨',', place, _, .inl rfl, rfl⟩)
    have shown : (Sign.operator ",").shows (.punct ',' false place :: Tokens.listed items) = true :=
      rfl
    rw [Tokens.listed_cons, List.singleton_append, arrayContent_first h.1.front.ne_nil read same,
      atEnd_bind, List.isEmpty_cons, if_neg Bool.false_ne_true, peek_bind, shown, if_pos rfl,
      bind_apply, operator_comma]
    simp only [bind_apply, commaTokens_expressions parted h.2, pure_apply, List.append_assoc,
      List.singleton_append]

theorem arrayContent_repeated {length : Tokens} (h : ReadsExpression (g.expression true) ts)
    (hl : ReadsExpression (g.expression true) length) (semicolon : Span) (s : Scope) :
    arrayContent g s ⟨ts ++ .punct ';' false semicolon :: length, none⟩ =
      .ok (ts ++ .punct ';' false semicolon :: length, ⟨[], none⟩) := by
  obtain ⟨e, read, same⟩ := h.read s (.punct ';' false semicolon :: length)
    (.inr ⟨';', semicolon, _, .inr rfl, rfl⟩)
  obtain ⟨count, counted, rfl⟩ := hl.whole s
  have noComma : (Sign.operator ",").shows (.punct ';' false semicolon :: count.tokens) = false :=
    rfl
  have shown : (Sign.operator ";").shows (.punct ';' false semicolon :: count.tokens) = true := rfl
  have mark : operator ";" s ⟨.punct ';' false semicolon :: count.tokens, none⟩ =
      .ok ([.punct ';' false semicolon], ⟨count.tokens, none⟩) := rfl
  rw [arrayContent_first h.front.ne_nil read same, atEnd_bind, List.isEmpty_cons,
    if_neg Bool.false_ne_true, peek_bind, noComma, if_neg Bool.false_ne_true, peek_bind, shown,
    if_pos rfl, bind_apply, mark]
  simp only [bind_apply, counted, pure_apply, List.append_assoc, List.singleton_append]

/-- What an array can hold is an atom in brackets. -/
theorem readsAtom_array {content : Tokens} (place : Span)
    (h : arrayContent g ⟨place.closing, .bracket⟩ ⟨content, none⟩ = .ok (content, ⟨[], none⟩)) :
    ReadsAtom g [.group .bracket content place] where
  front := .cons rfl []
  bare _ := .inr rfl
  read s rest _ := by
    have dispatch : atom g true s ⟨.group .bracket content place :: rest, none⟩ =
        (do return .plain (← groupTokens .bracket (arrayContent g)) : Reader Expression) s
          ⟨.group .bracket content place :: rest, none⟩ := rfl
    refine ⟨.plain [.group .bracket content place], ?_, rfl, Expression.isOperand_plain _⟩
    rw [List.singleton_append, dispatch, bind_apply, groupTokens, bind_apply, group_read h s rest]
    rfl

/-! ## Paths and macro calls -/

theorem afterPath_ends (ends : rest.EndsAtom) (owner : Tokens) (p : Path) (s : Scope) :
    afterPath g true owner p s ⟨rest, none⟩ =
      .ok (⟨owner ++ p.tokens, .path owner p⟩, ⟨rest, none⟩) := by
  have noBang : ((owner.isEmpty && (Sign.operator "!").shows rest) &&
      !(Sign.operator "!=").shows rest) = false := by
    rw [Bool.and_assoc, ends.bang, Bool.and_false]
  simp only [afterPath, peek_bind, noBang, ends.brace, Bool.false_and, Bool.and_false,
    Bool.false_eq_true, if_false]
  rfl

/-- Behind the first word of a path in an expression there is no number sign. -/
theorem opensPath_written {p : Path} (front : p.Front)
    (segments : ∀ x ∈ p.segments, x.InExpression) (clear : (Sign.operator "#").shows rest = false) :
    OpensPath (p.tokens ++ rest) := by
  obtain ⟨absolute, first, others⟩ := p
  cases absolute with
  | some place =>
    rw [Path.tokens, Option.map_some, Option.getD_some, List.append_assoc, List.append_assoc]
    exact opensPath_colons place _
  | none =>
    have written : (Path.mk none first others).tokens ++ rest = first.ident.token ::
        (first.arguments.tokens ++
          (others.flatMap (fun x => Path.separator x.ident.span ++ x.tokens) ++ rest)) := by
      simp [Path.tokens, Segment.tokens]
    rw [written]
    refine opensPath_word (front rfl) ?_
    have skipped : Tokens.skip? (first.ident.token :: (first.arguments.tokens ++
        (others.flatMap (fun x => Path.separator x.ident.span ++ x.tokens) ++ rest))) =
        some (first.arguments.tokens ++
          (others.flatMap (fun x => Path.separator x.ident.span ++ x.tokens) ++ rest)) := rfl
    rw [skipped, Option.any_some]
    rcases segments first List.mem_cons_self with bare | ⟨place, more, colons⟩
    · rw [bare, List.nil_append]
      cases others with
      | nil => exact clear
      | cons x others => rfl
    · rw [colons]
      rfl

theorem operandFront_path {p : Path} (h : p.Front) : p.tokens.OperandFront := by
  rcases h.cases [] with ⟨more, front, word⟩ | ⟨place, more, front⟩
  · rw [List.append_nil] at front
    rw [front]
    exact .cons (by simp [Token.opensOperand, Ident.token, word]) more
  · rw [List.append_nil] at front
    rw [front]
    exact .cons rfl _

theorem bare_path {p : Path} (h : p.Front) (rest : Tokens) :
    unarySigns.any (·.shows (p.tokens ++ rest)) = false := by
  rcases h.cases rest with ⟨more, front, -⟩ | ⟨place, more, front⟩ <;> rw [front] <;> rfl

theorem readsAtom_path {p : Path} (front : p.Front)
    (segments : ∀ x ∈ p.segments, ReadsSegment g x)
    (opened : ∀ x ∈ p.segments, x.InExpression) : ReadsAtom g p.tokens where
  front := operandFront_path front
  bare rest := .inr (bare_path front rest)
  read s rest ends := by
    have opens := opensPath_written front opened ends.hash
    have path : path g true s ⟨p.tokens ++ rest, none⟩ = .ok (p, ⟨rest, none⟩) :=
      path_again (fun x hx => (segments x hx).expression (opened x hx))
        (.expression ends.colons) ends.colons s
    refine ⟨⟨p.tokens, .path [] p⟩, ?_, rfl, Expression.isOperand_path _ _ _⟩
    rw [atom_path opens, bind_apply, ownedPath, peek_bind, opens.mark (by decide),
      if_neg Bool.false_ne_true, bind_apply, path]
    exact afterPath_ends ends [] p s

theorem readsAtom_owned (h : ReadsType (g.type true true) true ts) {trait : Option (Span × Path)}
    (implements : ∀ t ∈ trait, ∀ x ∈ t.2.segments, Rereads g false x) {p : Path}
    (relative : p.absolute = none) (segments : ∀ x ∈ p.segments, ReadsSegment g x)
    (opened : ∀ x ∈ p.segments, x.InExpression) (opening closing colons : Span) :
    ReadsAtom g (ownerTokens opening ts trait closing colons ++ p.tokens) where
  front := .cons rfl _
  bare _ := .inr rfl
  read s rest ends := by
    have dispatch (more : Tokens) : atom g true s ⟨.punct '<' false opening :: more, none⟩ =
        (ownedPath g true >>= fun r => afterPath g true r.1 r.2) s
          ⟨.punct '<' false opening :: more, none⟩ := rfl
    have path := ownedPath_owner h implements relative
      (fun x hx => (segments x hx).expression (opened x hx)) opening closing colons
      (.expression ends.colons) ends.colons s
    rw [ownerTokens, List.cons_append] at path
    refine ⟨⟨ownerTokens opening ts trait closing colons ++ p.tokens,
      .path (ownerTokens opening ts trait closing colons) p⟩, ?_, rfl,
      Expression.isOperand_path _ _ _⟩
    rw [List.append_assoc, ownerTokens, List.cons_append, dispatch, bind_apply, path]
    exact afterPath_ends ends _ p s

theorem readsAtom_call {ts : Tokens} (h : ts.IsCall) : ReadsAtom g ts := by
  obtain ⟨plain, visible, bang, content, place⟩ := h
  next p d =>
  have front : p.Front := by
    obtain ⟨head, -⟩ := plain
    exact fun _ => head
  refine ⟨(operandFront_path front).append _, fun rest => ?_, fun s rest _ =>
    ⟨_, atom_call plain visible bang content place s rest, rfl, ?_⟩⟩
  · rw [List.append_assoc]
    exact .inr (bare_path front _)
  · cases d <;> exact ⟨rfl, rfl, nofun⟩

/-! ## Expressions that another macro put in -/

/-- A path that was put in goes on behind its group only where a double colon is. -/
theorem moreSegments_none (stop : (Sign.operator "::").shows rest = false) (p : Path) (s : Scope) :
    moreSegments g true p s ⟨rest, none⟩ = .ok (p, ⟨rest, none⟩) := by
  have none_ : ∀ x ∈ ([] : List Segment), Rereads g true x := List.forall_mem_nil _
  have read := moreSegments_again none_ (.expression stop) stop s p
  rwa [List.append_nil] at read

theorem readsAtom_inserted (h : ReadsExpression (g.expression true) ts) (place : Span) :
    ReadsAtom g [.group .invisible ts place] where
  front := h.front.inserted place
  bare _ := .inl rfl
  read s rest ends := by
    obtain ⟨⟨inner, kind⟩, read, rfl⟩ := h.whole ⟨place.closing, .invisible⟩
    have dispatch : atom g true s ⟨.group .invisible inner place :: rest, none⟩ =
        insertedExpression g true s ⟨.group .invisible inner place :: rest, none⟩ := rfl
    refine ⟨⟨[.group .invisible inner place], .group (!(Expression.mk inner kind).goesOn)⟩, ?_,
      rfl, rfl, rfl, nofun⟩
    rw [List.singleton_append, dispatch, insertedExpression, bind_apply, group_read read s rest]
    cases kind with
    | path owner p =>
      simp only [bind_apply, moreSegments_none ends.colons, afterPath_ends ends, if_true]
      rfl
    | _ => rfl

/-! ## What trails an atom -/

/-- One round of `trailers`. -/
def trailer (g : Grammar) (e : Expression) : Reader (Round Expression Expression) := do
  if ← peek (.group .parenthesis) then return .again (.plain (e.tokens ++ (← callArguments g)))
  else if (← peek (.operator ".")) && !(← peek (.operator "..")) && !e.isRange then
    return .again (.plain (e.tokens ++ (← pointTrailer g)))
  else if ← peek (.group .bracket) then
    let index ← groupTokens .bracket (Expression.tokens <$> g.expression true)
    return .again (.plain (e.tokens ++ index))
  else if (← peek (.operator "?")) && !e.isRange then
    return .again (.plain (e.tokens ++ (← operator "?")))
  else return .done e

theorem trailer_ends (ends : rest.EndsOperand) (e : Expression) (s : Scope) :
    trailer g e s ⟨rest, none⟩ = .ok (.done e, ⟨rest, none⟩) := by
  simp only [trailer, peek_bind, ends.parens, ends.point, ends.bracket, ends.question,
    Bool.false_and, Bool.false_eq_true, if_false]
  rfl

/-- The tokens are read back behind any operand, and are nothing that the words of an atom go on
with; a field must not have a call behind it, which would make it a method. -/
structure ReadsTrailer (g : Grammar) (field : Bool) (ts : Tokens) : Prop where
  ne_nil : ts ≠ []
  call : (Sign.group .parenthesis).shows ts = false →
    ∀ rest, (Sign.group .parenthesis).shows (ts ++ rest) = false
  behind : ∀ rest, Tokens.EndsAtom (ts ++ rest)
  read : ∀ e s rest, e.isRange = false → (Sign.operator "::").shows rest = false →
    (field = true → (Sign.group .parenthesis).shows rest = false) →
    trailer g e s ⟨ts ++ rest, none⟩ = .ok (.again (.plain (e.tokens ++ ts)), ⟨rest, none⟩)

theorem readsTrailer_call {items : List (Tokens × Tokens)} (parted : Tokens.Parted items)
    (h : ∀ p ∈ items, ReadsExpression (g.expression true) p.1) (place : Span) :
    ReadsTrailer g false [.group .parenthesis (Tokens.listed items) place] where
  ne_nil := List.cons_ne_nil _ _
  call := nofun
  behind _ := ⟨rfl, rfl, rfl, rfl⟩
  read e s rest _ _ _ := by
    have dispatch : trailer g e s ⟨.group .parenthesis (Tokens.listed items) place :: rest, none⟩ =
        (do return .again (.plain (e.tokens ++ (← callArguments g))) :
          Reader (Round Expression Expression)) s
            ⟨.group .parenthesis (Tokens.listed items) place :: rest, none⟩ := rfl
    rw [List.singleton_append, dispatch, bind_apply, callArguments_written parted h]
    rfl

theorem readsTrailer_index (h : ReadsExpression (g.expression true) ts) (place : Span) :
    ReadsTrailer g false [.group .bracket ts place] where
  ne_nil := List.cons_ne_nil _ _
  call _ _ := rfl
  behind _ := ⟨rfl, rfl, rfl, rfl⟩
  read e s rest _ _ _ := by
    obtain ⟨index, read, rfl⟩ := h.whole ⟨place.closing, .bracket⟩
    have inner : (Expression.tokens <$> g.expression true) ⟨place.closing, .bracket⟩
        ⟨index.tokens, none⟩ = .ok (index.tokens, ⟨[], none⟩) := by
      rw [map_eq_bind, bind_apply, read]
      rfl
    have dispatch : trailer g e s ⟨.group .bracket index.tokens place :: rest, none⟩ = (do
        let index ← groupTokens .bracket (Expression.tokens <$> g.expression true)
        return .again (.plain (e.tokens ++ index)) : Reader (Round Expression Expression)) s
          ⟨.group .bracket index.tokens place :: rest, none⟩ := rfl
    rw [List.singleton_append, dispatch, bind_apply, groupTokens, bind_apply,
      group_read inner s rest]
    rfl

theorem readsTrailer_question (place : Span) : ReadsTrailer g false [.punct '?' false place] where
  ne_nil := List.cons_ne_nil _ _
  call _ _ := rfl
  behind _ := ⟨rfl, rfl, rfl, rfl⟩
  read e s rest single _ _ := by
    have mark : operator "?" s ⟨.punct '?' false place :: rest, none⟩ =
        .ok ([.punct '?' false place], ⟨rest, none⟩) := rfl
    have dispatch : trailer g e s ⟨.punct '?' false place :: rest, none⟩ = (do
        if !e.isRange then return .again (.plain (e.tokens ++ (← operator "?")))
        else return .done e : Reader (Round Expression Expression)) s
          ⟨.punct '?' false place :: rest, none⟩ := rfl
    rw [List.singleton_append, dispatch, single, Bool.not_false, if_pos rfl, bind_apply, mark]
    rfl

/-! ### Behind a point -/

/-- What a point leads is a trailer, unless a call has to be looked for behind it. -/
theorem readsTrailer_point {field : Bool} (point : Span) (ts : Tokens)
    (h : ∀ s rest, (Sign.operator "::").shows rest = false →
      (field = true → (Sign.group .parenthesis).shows rest = false) →
      pointTrailer g s ⟨.punct '.' false point :: (ts ++ rest), none⟩ =
        .ok (.punct '.' false point :: ts, ⟨rest, none⟩)) :
    ReadsTrailer g field (.punct '.' false point :: ts) where
  ne_nil := List.cons_ne_nil _ _
  call _ _ := rfl
  behind _ := ⟨rfl, rfl, rfl, rfl⟩
  read e s rest single stop noCall := by
    have noParens : (Sign.group .parenthesis).shows (.punct '.' false point :: (ts ++ rest)) =
        false := rfl
    have shown : (Sign.operator ".").shows (.punct '.' false point :: (ts ++ rest)) = true := rfl
    have one : (Sign.operator "..").shows (.punct '.' false point :: (ts ++ rest)) = false := rfl
    rw [List.cons_append]
    simp only [trailer, peek_bind, noParens, shown, one, single, Bool.false_eq_true, Bool.not_false,
      Bool.and_self, if_false, if_true]
    simp only [bind_apply, h s rest stop noCall]
    rfl

theorem operator_point (point : Span) (s : Scope) (rest : Tokens) :
    operator "." s ⟨.punct '.' false point :: rest, none⟩ =
      .ok ([.punct '.' false point], ⟨rest, none⟩) := rfl

/-- A name is that of a field, or of a method if a call follows, perhaps with arguments in angle
brackets. -/
theorem pointTrailer_name {i : Ident} (known : isKeyword i.text = false) (point : Span)
    (s : Scope) (rest : Tokens) :
    pointTrailer g s ⟨.punct '.' false point :: i.token :: rest, none⟩ = (do
      let arguments ←
        if ← peek (.operator "::") then
          Arguments.tokens <$> (do anglesAfter g (← operator "::"))
        else pure []
      if !arguments.isEmpty || (← peek (.group .parenthesis)) then
        return [.punct '.' false point] ++ [i.token] ++ arguments ++ (← callArguments g)
      else return [.punct '.' false point] ++ [i.token] ++ arguments : Reader Tokens) s
        ⟨rest, none⟩ := by
  have front : Tokens.word? (i.token :: rest) = some (i, rest) := rfl
  have value : Tokens.value? (i.token :: rest) =
    if i.text = "true" || i.text = "false" then some ([i.token], rest) else none := rfl
  have apart {text : String} (word : isKeyword text = true) : i.text ≠ text := by
    rintro rfl
    exact Bool.false_ne_true (known.symm.trans word)
  have noAwait : (Sign.keyword "await").shows (i.token :: rest) = false :=
    decide_eq_false (apart (by decide))
  have noFloat : Sign.floatLiteral.shows (i.token :: rest) = false := by
    simp [Sign.shows, Sign.shows.kindIs, value, apart (show isKeyword "true" = true by decide),
      apart (show isKeyword "false" = true by decide)]
  have name : Sign.identifier.shows (i.token :: rest) = true := by
    simp [Sign.shows, front, known]
  have named : member s ⟨i.token :: rest, none⟩ = .ok (([i.token], true), ⟨rest, none⟩) := by
    rw [member, peek_bind, name, if_pos rfl, bind_apply, identifier_written known]
    rfl
  rw [pointTrailer, bind_apply, operator_point]
  simp only [peek_bind, noFloat, Bool.false_eq_true, if_false, memberTrailer, noAwait]
  rw [bind_apply, named]
  rfl

theorem readsTrailer_field {i : Ident} (known : isKeyword i.text = false) (point : Span) :
    ReadsTrailer g true [.punct '.' false point, i.token] := by
  refine readsTrailer_point point [i.token] fun s rest stop noCall => ?_
  rw [List.singleton_append, pointTrailer_name known]
  simp only [bind_apply, peek, look, stop, noCall rfl, pure_apply, List.isEmpty_nil, Bool.not_true,
    Bool.or_self, Bool.false_eq_true, if_false]
  rfl

theorem readsTrailer_method {i : Ident} (known : isKeyword i.text = false)
    {items : List (Tokens × Tokens)} (parted : Tokens.Parted items)
    (h : ∀ p ∈ items, ReadsExpression (g.expression true) p.1) (point place : Span) :
    ReadsTrailer g false [.punct '.' false point, i.token,
      .group .parenthesis (Tokens.listed items) place] := by
  refine readsTrailer_point point [i.token, .group .parenthesis (Tokens.listed items) place]
    fun s rest _ _ => ?_
  have stop : (Sign.operator "::").shows
      (.group .parenthesis (Tokens.listed items) place :: rest) = false := rfl
  have shown : (Sign.group .parenthesis).shows
      (.group .parenthesis (Tokens.listed items) place :: rest) = true := rfl
  have call := callArguments_written parted h place s rest
  rw [List.cons_append, List.singleton_append, pointTrailer_name known]
  simp only [bind_apply, peek, look, stop, shown, pure_apply, List.isEmpty_nil, Bool.not_true,
    Bool.false_or, Bool.false_eq_true, if_false, if_true, call]
  rfl

section

variable {lifetimes others : List (Tokens × Tokens)}

/-- Arguments in angle brackets behind a double colon. -/
theorem turbofish_written (parted : Tokens.Parted (lifetimes ++ others))
    (regions : ∀ p ∈ lifetimes, ReadsArgument g true p.1)
    (types : ∀ p ∈ others, ReadsArgument g false p.1) (colons opening closing : Span) (s : Scope)
    (rest : Tokens) :
    (Arguments.tokens <$> (do anglesAfter g (← operator "::"))) s
      ⟨angleTokens (some colons) opening (lifetimes ++ others) closing ++ rest, none⟩ =
        .ok (angleTokens (some colons) opening (lifetimes ++ others) closing, ⟨rest, none⟩) := by
  have written : angleTokens (some colons) opening (lifetimes ++ others) closing ++ rest =
      Path.separator colons ++ (.punct '<' false opening ::
        (Tokens.listed (lifetimes ++ others) ++ .punct '>' false closing :: rest)) := by
    simp [angleTokens]
  have mark (ts : Tokens) : operator "::" s ⟨Path.separator colons ++ ts, none⟩ =
      .ok (Path.separator colons, ⟨ts, none⟩) := rfl
  rw [written, map_eq_bind, bind_apply, bind_apply, mark]
  simp only [anglesAfter_written parted regions types]
  rfl

/-- A method may have arguments in angle brackets before the call. -/
theorem readsTrailer_generic {i : Ident} (known : isKeyword i.text = false)
    (parted : Tokens.Parted (lifetimes ++ others))
    (regions : ∀ p ∈ lifetimes, ReadsArgument g true p.1)
    (types : ∀ p ∈ others, ReadsArgument g false p.1) (colons opening closing : Span)
    {items : List (Tokens × Tokens)} (parted' : Tokens.Parted items)
    (h : ∀ p ∈ items, ReadsExpression (g.expression true) p.1) (point place : Span) :
    ReadsTrailer g false (.punct '.' false point :: i.token ::
      (angleTokens (some colons) opening (lifetimes ++ others) closing ++
        [.group .parenthesis (Tokens.listed items) place])) := by
  refine readsTrailer_point point (i.token ::
      (angleTokens (some colons) opening (lifetimes ++ others) closing ++
        [.group .parenthesis (Tokens.listed items) place])) fun s rest _ _ => ?_
  have angles := turbofish_written parted regions types colons opening closing s
    (.group .parenthesis (Tokens.listed items) place :: rest)
  have call := callArguments_written parted' h place s rest
  have shown (ts : Tokens) : (Sign.operator "::").shows
      (angleTokens (some colons) opening (lifetimes ++ others) closing ++ ts) = true := rfl
  have begun : (angleTokens (some colons) opening (lifetimes ++ others) closing).isEmpty = false :=
    rfl
  rw [List.cons_append, List.append_assoc, List.singleton_append, pointTrailer_name known,
    peek_bind, shown, if_pos rfl, bind_apply, angles]
  simp only [begun, Bool.not_false, bind_apply, peek, look, pure_apply, Bool.true_or, if_true, call]
  simp

end

/-- A position, written as the number that it is. -/
def IsPosition (text : String) : Prop :=
  Token.Literal.kind text = .integer ∧
    ∃ n < UInt32.size, Token.Literal.integer text = (some n, "") ∧ toString n = text

theorem readsTrailer_position {text : String} (h : IsPosition text) (point place : Span) :
    ReadsTrailer g false [.punct '.' false point, .literal text place] := by
  refine readsTrailer_point point [.literal text place] fun s rest _ _ => ?_
  obtain ⟨isInteger, n, small, value, written⟩ := h
  have noFloat : Sign.floatLiteral.shows (.literal text place :: rest) = false := by
    have other : ¬ Token.Literal.kind text = .float := by
      rw [isInteger]
      exact nofun
    exact decide_eq_false other
  have shown : Sign.integerLiteral.shows (.literal text place :: rest) = true :=
    decide_eq_true isInteger
  have noName : Sign.identifier.shows (.literal text place :: rest) = false := rfl
  have noAwait : (Sign.keyword "await").shows (.literal text place :: rest) = false := rfl
  have index : tupleIndex s ⟨.literal text place :: rest, none⟩ =
      .ok ([.literal text place], ⟨rest, none⟩) := by
    have taken : literalOf .integerLiteral s ⟨.literal text place :: rest, none⟩ =
        .ok ([.literal text place], ⟨rest, none⟩) := by
      rw [literalOf, shown, if_pos rfl]
      rfl
    have bare : "".isEmpty = true := rfl
    simp only [tupleIndex, taken, Tokens.valueText, value, bare, Bool.not_true, Bool.false_eq_true,
      if_false, small, if_true, written, Tokens.span_singleton]
    rfl
  have named : member s ⟨.literal text place :: rest, none⟩ =
      .ok (([.literal text place], false), ⟨rest, none⟩) := by
    rw [member, peek_bind, noName, if_neg Bool.false_ne_true, peek_bind, shown, if_pos rfl,
      bind_apply, index]
    rfl
  rw [List.singleton_append, pointTrailer, bind_apply, operator_point]
  simp only [peek_bind, noFloat, Bool.false_eq_true, if_false, memberTrailer, noAwait]
  rw [bind_apply, named]
  rfl

/-! ### In a row -/

theorem endsAtom_trailers {trailers : List (Bool × Tokens)}
    (h : ∀ t ∈ trailers, ReadsTrailer g t.1 t.2) (ends : rest.EndsAtom) :
    Tokens.EndsAtom (trailers.flatMap (·.2) ++ rest) := by
  cases trailers with
  | nil => exact ends
  | cons t more =>
    rw [List.flatMap_cons, List.append_assoc]
    exact (h t List.mem_cons_self).behind _

theorem trailers_ends {trailers : List (Bool × Tokens)}
    (h : ∀ t ∈ trailers, ReadsTrailer g t.1 t.2)
    (calls : trailers.IsChain fun t u => t.1 = true → (Sign.group .parenthesis).shows u.2 = false)
    (ends : rest.EndsOperand) {e : Expression} (operand : e.IsOperand) (s : Scope) :
    ∃ e', Ends (trailer g) s (trailers.length + 1) e ⟨trailers.flatMap (·.2) ++ rest, none⟩
      (.ok (e', ⟨rest, none⟩)) ∧ e'.tokens = e.tokens ++ trailers.flatMap (·.2) ∧
      e'.IsOperand := by
  induction trailers generalizing e with
  | nil => exact ⟨e, .done (trailer_ends ends e s), (List.append_nil _).symm, operand⟩
  | cons t more ih =>
    rw [List.forall_mem_cons] at h
    obtain ⟨e', later, same, operand'⟩ :=
      ih h.2 calls.tail (Expression.isOperand_plain (e.tokens ++ t.2))
    have noCall : t.1 = true → (Sign.group .parenthesis).shows (more.flatMap (·.2) ++ rest) =
        false := by
      intro field
      cases more with
      | nil => exact ends.parens
      | cons u more =>
        rw [List.flatMap_cons, List.append_assoc]
        rw [List.isChain_cons_cons] at calls
        exact (h.2 u List.mem_cons_self).call (calls.1 field) _
    have stop := (endsAtom_trailers h.2 ends.toEndsAtom).colons
    refine ⟨e', .again ?_ later, ?_, operand'⟩
    · rw [List.flatMap_cons, List.append_assoc]
      exact h.1.read e s _ operand.range stop noCall
    · rw [same, List.flatMap_cons, ← List.append_assoc]
      rfl

/-! ## Operands -/

/-- What `unaryOnce` reads, before it sees to what is kept as it stood. -/
def unaryInner (g : Grammar) (braces : Bool) : Reader Expression := do
  let attributes ← expressionAttributes g
  if ← peek (.group .invisible) then trailed g braces attributes
  else if ← peek (.operator "&") then return .plain (attributes ++ (← reference g braces))
  else if ← peek (.operator "*") then
    return .plain (attributes ++ (← operator "*") ++ (← g.unary braces).tokens)
  else if ← peek (.operator "!") then
    return .plain (attributes ++ (← operator "!") ++ (← g.unary braces).tokens)
  else if ← peek (.operator "-") then
    return .plain (attributes ++ (← operator "-") ++ (← g.unary braces).tokens)
  else trailed g braces attributes

theorem unaryOnce_of_inner {e : Expression} {c : Cursor}
    (read : unaryInner g true s ⟨ts, none⟩ = .ok (e, c)) (kept : e.kind ≠ .verbatim) :
    unaryOnce g true s ⟨ts, none⟩ = .ok (e, c) := by
  have inner : ∃ source, withSource (unaryInner g true) s ⟨ts, none⟩ = .ok ((e, source), c) := by
    rw [withSource, read]
    exact ⟨_, rfl⟩
  obtain ⟨source, inner⟩ := inner
  change (withSource (unaryInner g true) >>= _) s ⟨ts, none⟩ = _
  rw [bind_apply, inner]
  simp only
  rfl

theorem expressionAttributes_none (h : (Sign.group .invisible).shows ts = true ∨
    (Sign.operator "#").shows ts = false) (s : Scope) :
    expressionAttributes g s ⟨ts, none⟩ = .ok ([], ⟨ts, none⟩) := by
  have more : (do return !(← peek (.group .invisible)) && (← peek (.operator "#")) : Reader Bool)
      s ⟨ts, none⟩ = .ok (false, ⟨ts, none⟩) := by
    rcases h with group | hash
    · simp only [bind_apply, peek, look, group, pure_apply, Bool.not_true, Bool.false_and]
    · simp only [bind_apply, peek, look, hash, pure_apply, Bool.and_false]
  rw [expressionAttributes, bind_apply, whileM_none more]
  rfl

/-- **An atom and what trails it** are an operand. -/
theorem readsOperand_trailed (h : ReadsAtom g ts) {trailers : List (Bool × Tokens)}
    (trail : ∀ t ∈ trailers, ReadsTrailer g t.1 t.2)
    (calls : trailers.IsChain fun t u =>
      t.1 = true → (Sign.group .parenthesis).shows u.2 = false) :
    ReadsOperand (unaryOnce g true) (ts ++ trailers.flatMap (·.2)) where
  front := h.front.append _
  read s rest ends := by
    obtain ⟨e, read, rfl, operand⟩ := h.read s _ (endsAtom_trailers trail ends.toEndsAtom)
    obtain ⟨e', more, same, operand'⟩ := trailers_ends trail calls ends operand s
    have fuel : trailers.length ≤ Tokens.weight (trailers.flatMap (·.2) ++ rest) := by
      rw [Tokens.weight_append]
      exact Nat.le_add_right_of_le (Tokens.length_le_weight fun t ht => (trail t ht).ne_nil)
    have behind : Grammar.trailers g e s ⟨trailers.flatMap (·.2) ++ rest, none⟩ =
        .ok (e', ⟨rest, none⟩) := loop_of_ends more (Nat.succ_le_succ fuel)
    have read' : trailed g true [] s ⟨e.tokens ++ (trailers.flatMap (·.2) ++ rest), none⟩ =
        .ok (e', ⟨rest, none⟩) := by
      rw [trailed, bind_apply, read]
      simp only [bind_apply, behind, List.isEmpty_nil, if_true]
      rfl
    refine ⟨e', ?_, same, operand'⟩
    rw [List.append_assoc]
    refine unaryOnce_of_inner ?_ operand'.kept
    rcases h.bare (trailers.flatMap (·.2) ++ rest) with group | bare
    · rw [unaryInner, bind_apply, expressionAttributes_none (.inl group)]
      simp only [peek_bind, group, if_true, read']
    · simp only [unarySigns, List.any_cons, List.any_nil, Bool.or_false,
        Bool.or_eq_false_iff] at bare
      obtain ⟨group, hash, and, star, bang, minus⟩ := bare
      rw [unaryInner, bind_apply, expressionAttributes_none (.inr hash)]
      simp only [peek_bind, group, and, star, bang, minus, Bool.false_eq_true, if_false, read']

/-- A sign before an operand makes it one again. -/
theorem readsOperand_signed {c : Char} (h : c = '*' ∨ c = '!' ∨ c = '-')
    (operand : ReadsOperand (g.unary true) ts) (place : Span) :
    ReadsOperand (unaryOnce g true) (.punct c false place :: ts) where
  front := .cons (by rcases h with rfl | rfl | rfl <;> rfl) _
  read s rest ends := by
    obtain ⟨e, read, rfl, -⟩ := operand.read s rest ends
    refine ⟨.plain (.punct c false place :: e.tokens), unaryOnce_of_inner ?_ nofun, rfl,
      Expression.isOperand_plain _⟩
    have attributes : expressionAttributes g s
        ⟨.punct c false place :: (e.tokens ++ rest), none⟩ =
          .ok ([], ⟨.punct c false place :: (e.tokens ++ rest), none⟩) :=
      expressionAttributes_none (.inr (by rcases h with rfl | rfl | rfl <;> rfl)) s
    have behind (text : String) (mark : operator text s
        ⟨.punct c false place :: (e.tokens ++ rest), none⟩ =
          .ok ([.punct c false place], ⟨e.tokens ++ rest, none⟩)) :
        (do return .plain ([] ++ (← operator text) ++ (← g.unary true).tokens) :
          Reader Expression) s ⟨.punct c false place :: (e.tokens ++ rest), none⟩ =
            .ok (.plain (.punct c false place :: e.tokens), ⟨rest, none⟩) := by
      rw [bind_apply, mark]
      simp only [bind_apply, read]
      rfl
    rw [List.cons_append, unaryInner, bind_apply, attributes]
    rcases h with rfl | rfl | rfl
    · exact behind "*" rfl
    · exact behind "!" rfl
    · exact behind "-" rfl

theorem readsOperand_borrowed (operand : ReadsOperand (g.unary true) ts)
    (notRaw : (Sign.keyword "raw").shows ts = false) (mark : Span)
    (access : Option Span) :
    ReadsOperand (unaryOnce g true) (.punct '&' false mark :: (mutability access ++ ts)) where
  front := .cons rfl _
  read s rest ends := by
    obtain ⟨e, read, rfl, -⟩ := operand.read s rest ends
    refine ⟨.plain (.punct '&' false mark :: (mutability access ++ e.tokens)),
      unaryOnce_of_inner ?_ nofun, rfl, Expression.isOperand_plain _⟩
    have taken (us : Tokens) : operator "&" s ⟨.punct '&' false mark :: us, none⟩ =
        .ok ([.punct '&' false mark], ⟨us, none⟩) := rfl
    have named : (Sign.keyword "raw").shows (mutability access ++ (e.tokens ++ rest)) = false := by
      cases access with
      | none => exact (operand.front.shows_keyword "raw" rest).trans notRaw
      | some place => rfl
    have writable := mutability_written access
      (operand.front.not_shows (show Sign.keyword "mut" ∈ _ by decide) rest) s
    have reads : reference g true s
        ⟨.punct '&' false mark :: (mutability access ++ (e.tokens ++ rest)), none⟩ =
          .ok (.punct '&' false mark :: (mutability access ++ e.tokens), ⟨rest, none⟩) := by
      rw [reference, bind_apply, taken]
      simp only [peek_bind, named, Bool.false_and, Bool.false_eq_true, if_false]
      simp only [bind_apply, peek2, look, pure_apply, writable, List.isEmpty_nil, Bool.not_true,
        Bool.false_and, Bool.false_eq_true, if_false, read, List.append_nil]
      rfl
    have dispatch (us : Tokens) : unaryInner g true s ⟨.punct '&' false mark :: us, none⟩ =
        (do return .plain ([] ++ (← reference g true)) : Reader Expression) s
          ⟨.punct '&' false mark :: us, none⟩ := rfl
    rw [List.cons_append, List.append_assoc, dispatch, bind_apply, reads]
    rfl

end Grammar

end TypedId
