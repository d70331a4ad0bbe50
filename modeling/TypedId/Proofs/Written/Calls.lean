/-
Macro calls as expressions: a path of words, an exclamation mark and a group
are read as themselves where they are written (`atom_call`). Before a path is
read, every other beginning of an expression has been looked for; `OpensPath`
says that none is there.
-/
import TypedId.Proofs.Depth.Expressions
import TypedId.Proofs.Written.Paths

namespace TypedId

open Reader

/-- A macro call: a path of words, an exclamation mark and a group. -/
inductive Tokens.IsCall : Tokens → Prop
  | mk {p : Path} (plain : p.Plain) {d : Delimiter} (visible : d ≠ .invisible)
      (bang : Span) (content : Tokens) (place : Span) :
      IsCall (p.tokens ++ [.punct '!' false bang, .group d content place])

theorem Reader.whileM_none {α : Type} {more : Reader Bool} {item : Reader α} {s : Scope}
    {c c' : Cursor} (h : more s c = .ok (false, c')) : whileM more item s c = .ok ([], c') := by
  refine loop_of_ends (.done ?_) (Nat.le_add_left 1 _)
  rw [bind_apply, h]
  rfl

namespace Grammar

variable {g : Grammar} {s : Scope}

theorem rereads_plain {inExpression : Bool} {p : Path} (h : p.Plain) :
    ∀ x ∈ p.segments, Rereads g inExpression x := by
  obtain ⟨head, tail⟩ := h
  next absolute first others =>
  rw [Path.segments, List.forall_mem_cons]
  refine ⟨rereads_word (.inl head), fun x hx => ?_⟩
  obtain ⟨i, hi, rfl⟩ := List.mem_map.mp hx
  exact rereads_word (.inl (tail i hi))

/-- A word of a path is no other keyword. -/
theorem keyword_not_shown {i : Ident} (h : isSegmentWord i.text = true) {text : String}
    (other : isSegmentWord text = false) (ts : Tokens) :
    (Sign.keyword text).shows (i.token :: ts) = false := by
  have front : Tokens.word? (i.token :: ts) = some (i, ts) := rfl
  have apart : i.text ≠ text := by
    rintro rfl
    exact Bool.false_ne_true (other.symm.trans h)
  simp [Sign.shows, front, apart]

/-- The marks that an expression can begin with where no path does. -/
def expressionMarks : List String := ["#", "&", "*", "!", "-", "|", "<"]

/-- A path begins here, and nothing else that is looked for before it. -/
structure OpensPath (ts : Tokens) : Prop where
  group : (Sign.group .invisible).shows ts = false
  literal : Sign.literal.shows ts = false
  keywords : ∀ text, isSegmentWord text = false → (Sign.keyword text).shows ts = false
  marks : expressionMarks.any (fun text => (Sign.operator text).shows ts) = false
  builtin : ((Sign.keyword "builtin").shows ts &&
    (Tokens.skip? ts).any (Sign.operator "#").shows) = false
  path : [Sign.identifier, .operator "::", .operator "<", .keyword "self", .keyword "Self",
    .keyword "super", .keyword "crate"].any (·.shows ts) = true

theorem OpensPath.mark {ts : Tokens} (h : OpensPath ts) {text : String}
    (ht : text ∈ expressionMarks) : (Sign.operator text).shows ts = false :=
  Bool.not_eq_true _ ▸ List.any_eq_false.mp h.marks text ht

theorem opensPath_colons (place : Span) (ts : Tokens) : OpensPath (Path.separator place ++ ts) where
  group := rfl
  literal := rfl
  keywords _ _ := rfl
  marks := rfl
  builtin := rfl
  path := rfl

theorem opensPath_signs {i : Ident} (h : isSegmentWord i.text = true) (ts : Tokens) :
    [Sign.identifier, .keyword "super", .keyword "self", .keyword "Self", .keyword "crate",
      .operator "::", .operator "<"].any (·.shows (i.token :: ts)) = true := by
  have front : Tokens.word? (i.token :: ts) = some (i, ts) := rfl
  rw [isSegmentWord, Bool.or_eq_true] at h
  rcases h with plain | special
  · simp [Sign.shows, front, Bool.not_eq_true' _ ▸ plain]
  · simp only [List.contains_cons, List.contains_nil, Bool.or_eq_true, beq_iff_eq,
      Bool.false_eq_true, or_false] at special
    rcases special with word | word | word | word <;> simp [Sign.shows, front, word]

theorem opensPath_word {i : Ident} (h : isSegmentWord i.text = true) {ts : Tokens}
    (behind : (Tokens.skip? (i.token :: ts)).any (Sign.operator "#").shows = false) :
    OpensPath (i.token :: ts) where
  group := rfl
  literal := by
    have apart : ∀ text, isSegmentWord text = false → i.text ≠ text := by
      rintro _ other rfl
      exact Bool.false_ne_true (other.symm.trans h)
    have front : Tokens.value? (i.token :: ts) =
      if i.text = "true" || i.text = "false" then some ([i.token], ts) else none := rfl
    simp [Sign.shows, front, apart "true" (by decide), apart "false" (by decide)]
  keywords _ other := keyword_not_shown h other ts
  marks := rfl
  builtin := by rw [behind, Bool.and_false]
  path := by
    have signs := opensPath_signs h ts
    simp only [List.any_cons, List.any_nil, Bool.or_false] at signs ⊢
    simpa only [Bool.or_assoc, Bool.or_comm, Bool.or_left_comm] using signs

theorem peek2_bind {β : Type} (sign : Sign) (f : Bool → Reader β) (s : Scope) (c : Cursor) :
    (peek2 sign >>= f) s c = f ((Tokens.skip? c.rest).any sign.shows) s c := rfl

theorem peek3_bind {β : Type} (sign : Sign) (f : Bool → Reader β) (s : Scope) (c : Cursor) :
    (peek3 sign >>= f) s c =
      f (((Tokens.skip? c.rest).bind Tokens.skip?).any sign.shows) s c := rfl

theorem showsBinder_bind {β : Type} (f : Bool → Reader β) (s : Scope) (c : Cursor) :
    (showsBinder >>= f) s c = f ((Sign.keyword "for").shows c.rest &&
      (Tokens.skip? c.rest).any (Sign.operator "<").shows &&
      (((Tokens.skip? c.rest).bind Tokens.skip?).any Sign.lifetime.shows ||
        ((Tokens.skip? c.rest).bind Tokens.skip?).any (Sign.operator ">").shows)) s c := rfl

theorem atom_path {ts : Tokens} (h : OpensPath ts) (braces : Bool) :
    atom g braces s ⟨ts, none⟩ =
      (ownedPath g true >>= fun r => afterPath g braces r.1 r.2) s ⟨ts, none⟩ := by
  have others : [Sign.operator "|", .keyword "move", .keyword "static"].any (·.shows ts) =
      false := by
    simp [h.mark (show "|" ∈ expressionMarks by decide), h.keywords "move" (by decide),
      h.keywords "static" (by decide)]
  rw [atom]
  simp only [peek_bind, peek2_bind, peek3_bind, peekAny_bind, showsBinder_bind,
    h.group, h.literal, h.keywords "async" (by decide), h.keywords "try" (by decide),
    h.keywords "const" (by decide), h.keywords "for" (by decide), others, h.builtin, h.path,
    Bool.false_and, Bool.or_false, Bool.true_or, Bool.false_eq_true, if_false, if_true]

theorem opensPath_plain {p : Path} (h : p.Plain) (rest : Tokens)
    (behind : (Sign.operator "#").shows rest = false) : OpensPath (p.tokens ++ rest) := by
  obtain ⟨head, tail⟩ := h
  next absolute first others =>
  cases absolute with
  | some place =>
    rw [Path.ofWords, Path.tokens, Option.map_some, Option.getD_some, List.append_assoc,
      List.append_assoc]
    exact opensPath_colons place _
  | none =>
    refine opensPath_word head ?_
    cases others with
    | nil => exact behind
    | cons i others => rfl

/-- What the call is as an expression. -/
def callKind (d : Delimiter) : ExpressionKind := if d = .brace then .bracedCall else .other

theorem atom_call {p : Path} (h : p.Plain) {d : Delimiter} (visible : d ≠ .invisible)
    (bang : Span) (content : Tokens) (place : Span) (s : Scope) (rest : Tokens) :
    atom g true s ⟨p.tokens ++ [.punct '!' false bang, .group d content place] ++ rest, none⟩ =
      .ok (⟨p.tokens ++ [.punct '!' false bang, .group d content place], callKind d⟩,
        ⟨rest, none⟩) := by
  have opens := opensPath_plain h (.punct '!' false bang :: .group d content place :: rest) rfl
  have noAngles : Tokens.NoAngles true (.punct '!' false bang :: .group d content place :: rest) :=
    ⟨nofun, rfl⟩
  have path : path g true s
      ⟨p.tokens ++ .punct '!' false bang :: .group d content place :: rest, none⟩ =
        .ok (p, ⟨.punct '!' false bang :: .group d content place :: rest, none⟩) :=
    path_again (rereads_plain h) noAngles rfl s
  have plain : p.isPlain = true := by
    obtain ⟨-, -⟩ := h
    simp [Path.isPlain, Path.ofWords, Path.segments, Arguments.isNone]
  have marks : operator "!" s ⟨.punct '!' false bang :: .group d content place :: rest, none⟩ =
      .ok ([.punct '!' false bang], ⟨.group d content place :: rest, none⟩) := rfl
  have arguments : macroArguments s ⟨.group d content place :: rest, none⟩ =
      .ok ((d, [.group d content place]), ⟨rest, none⟩) := by
    rw [macroArguments, bind_apply, anyGroup]
    simp only [visible, if_false]
    rfl
  have shown : (Sign.operator "!").shows
      (.punct '!' false bang :: .group d content place :: rest) = true := rfl
  have single : (Sign.operator "!=").shows
      (.punct '!' false bang :: .group d content place :: rest) = false := rfl
  rw [List.append_assoc, List.cons_append, List.singleton_append, atom_path opens, ownedPath,
    bind_apply, peek_bind, opens.mark (by decide), if_neg Bool.false_ne_true, bind_apply, path]
  simp only [pure_apply, afterPath, List.isEmpty_nil, peek_bind, shown, single, plain]
  simp only [Bool.not_false, Bool.and_true, if_true, bind_apply, marks, arguments]
  simp [callKind]

end Grammar

end TypedId
