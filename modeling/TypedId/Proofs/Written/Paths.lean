/-
Paths with generic arguments, read where they are written. A path is read as
itself if each of its segments is, in front of anything that cannot go on
with arguments (`path_again`).
-/
import TypedId.Proofs.Written

namespace TypedId

open Reader

theorem Reader.peekBehind_bind {β : Type} (sign : Sign) (f : Bool → Reader β) (s : Scope)
    (c : Cursor) : (peekBehind sign >>= f) s c =
      f ((Sign.operator "::").shows c.rest &&
        ((Tokens.skip? c.rest).bind Tokens.skip?).any sign.shows) s c := rfl

namespace Tokens

/-- Pieces with tokens in them are no more than their tokens. -/
theorem length_le_weight {α : Type} {f : α → Tokens} {xs : List α} (h : ∀ x ∈ xs, f x ≠ []) :
    xs.length ≤ weight (xs.flatMap f) := by
  induction xs with
  | nil => exact Nat.le_refl 0
  | cons x xs ih =>
    rw [List.forall_mem_cons] at h
    obtain ⟨t, ts, front⟩ := List.exists_cons_of_ne_nil h.1
    have pos := weight_pos t
    have later := ih h.2
    rw [List.flatMap_cons, front, weight_append, weight_cons, List.length_cons]
    omega

theorem weight_le_flatMap {α : Type} (f : α → Tokens) {xs : List α} {x : α} (h : x ∈ xs) :
    weight (f x) ≤ weight (xs.flatMap f) := by
  obtain ⟨before, behind, rfl⟩ := List.append_of_mem h
  rw [List.flatMap_append, List.flatMap_cons, weight_append, weight_append]
  omega

/-- No arguments in angle brackets follow, neither directly, where an expression has none anyway,
nor behind a double colon. -/
structure NoAngles (inExpression : Bool) (ts : Tokens) : Prop where
  direct : inExpression = false → (Sign.operator "<").shows ts = false
  behind : ((Sign.operator "::").shows ts &&
    ((skip? ts).bind skip?).any (Sign.operator "<").shows) = false

variable {inExpression : Bool}

theorem NoAngles.of_noColons {ts : Tokens}
    (direct : inExpression = false → (Sign.operator "<").shows ts = false)
    (colons : (Sign.operator "::").shows ts = false) : NoAngles inExpression ts :=
  ⟨direct, by rw [colons, Bool.false_and]⟩

/-- In an expression, arguments have a double colon in front. -/
theorem NoAngles.expression {ts : Tokens} (colons : (Sign.operator "::").shows ts = false) :
    NoAngles true ts := .of_noColons nofun colons

theorem noAngles_segments (xs : List Segment) {rest : Tokens} (h : NoAngles inExpression rest) :
    NoAngles inExpression
      (xs.flatMap (fun x => Path.separator x.ident.span ++ x.tokens) ++ rest) := by
  cases xs with
  | nil => exact h
  | cons x xs => exact ⟨fun _ => rfl, rfl⟩

end Tokens

/-- The words of a path that take no arguments. -/
def isBareWord (text : String) : Bool := ["super", "self", "crate", "try"].contains text

namespace Grammar

variable {g : Grammar} {inExpression : Bool} {s : Scope} {i : Ident} {rest : Tokens}

theorem shows_bareWord (i : Ident) (rest : Tokens) :
    [Sign.keyword "super", .keyword "self", .keyword "crate", .keyword "try"].any
      (·.shows (i.token :: rest)) = isBareWord i.text := by
  have front : Tokens.word? (i.token :: rest) = some (i, rest) := rfl
  simp [isBareWord, Sign.shows, front, eq_comm]

theorem word_written (i : Ident) (s : Scope) (rest : Tokens) :
    word s ⟨i.token :: rest, none⟩ = .ok (i, ⟨rest, none⟩) := rfl

theorem identifier_written (h : isKeyword i.text = false) (s : Scope) (rest : Tokens) :
    identifier s ⟨i.token :: rest, none⟩ = .ok (i, ⟨rest, none⟩) := by
  have front : Tokens.word? (i.token :: rest) = some (i, rest) := rfl
  rw [identifier, front]
  simp only [h, Bool.false_eq_true, if_false]

theorem segment_bareWord (h : isBareWord i.text = true) (s : Scope) (rest : Tokens) :
    segment g inExpression s ⟨i.token :: rest, none⟩ = .ok (⟨i, .none⟩, ⟨rest, none⟩) := by
  rw [segment, peekAny_bind, shows_bareWord, if_pos h, bind_apply, word_written]
  rfl

/-- What follows the word of a segment. -/
def argumentsBehind (g : Grammar) (inExpression : Bool) (i : Ident) : Reader Segment := do
  if (!inExpression && (← peek (.operator "<")) && !(← peek (.operator "<="))) ||
      (← peekBehind (.operator "<")) then
    return ⟨i, ← angles g⟩
  else return ⟨i, .none⟩

theorem segment_named (plain : isBareWord i.text = false)
    (known : isKeyword i.text = false ∨ i.text = "Self") (s : Scope) (rest : Tokens) :
    segment g inExpression s ⟨i.token :: rest, none⟩ =
      argumentsBehind g inExpression i s ⟨rest, none⟩ := by
  have self : (Sign.keyword "Self").shows (i.token :: rest) = decide (i.text = "Self") := rfl
  rw [segment, peekAny_bind, shows_bareWord, plain, if_neg Bool.false_ne_true, peek_bind, self]
  by_cases owner : i.text = "Self"
  · rw [decide_eq_true owner, if_pos rfl, bind_apply, word_written]
    rfl
  · rw [decide_eq_false owner, if_neg Bool.false_ne_true, bind_apply,
      identifier_written (known.resolve_right owner)]
    rfl

theorem argumentsBehind_none (h : Tokens.NoAngles inExpression rest) (i : Ident) (s : Scope) :
    argumentsBehind g inExpression i s ⟨rest, none⟩ = .ok (⟨i, .none⟩, ⟨rest, none⟩) := by
  have direct : (!inExpression && (Sign.operator "<").shows rest) = false := by
    cases inExpression with
    | true => rfl
    | false => exact h.direct rfl
  rw [argumentsBehind, peek_bind, peek_bind, peekBehind_bind, direct, h.behind]
  simp only [Bool.false_and, Bool.or_false, Bool.false_eq_true, if_false]
  rfl

/-- The segment is read as itself, in front of anything but arguments. -/
def Rereads (g : Grammar) (inExpression : Bool) (x : Segment) : Prop :=
  ∀ s rest, Tokens.NoAngles inExpression rest →
    segment g inExpression s ⟨x.tokens ++ rest, none⟩ = .ok (x, ⟨rest, none⟩)

theorem rereads_word (h : isSegmentWord i.text = true ∨ i.text = "try") :
    Rereads g inExpression ⟨i, .none⟩ := by
  intro s rest noAngles
  cases bare : isBareWord i.text with
  | true => exact segment_bareWord bare s rest
  | false =>
    have known : isKeyword i.text = false ∨ i.text = "Self" := by
      simp only [isBareWord, isSegmentWord, List.contains_cons, List.contains_nil, Bool.or_eq_true,
        Bool.or_eq_false_iff, beq_iff_eq, beq_eq_false_iff_ne, Bool.not_eq_true'] at bare h
      simp_all
    exact (segment_named bare known s rest).trans (argumentsBehind_none noAngles i s)

theorem separator_written (place : Span) (s : Scope) (rest : Tokens) :
    separator s ⟨Path.separator place ++ rest, none⟩ = .ok (place, ⟨rest, none⟩) :=
  separator_eq_ok_iff.mpr ⟨rest, ⟨place, _, false, place, rfl, rfl, (Span.join_self place).symm⟩, rfl⟩

/-- A loop that reads one segment behind each double colon reads them all. -/
theorem loop_segments {round : Path → Reader (Round Path Path)} {others : List Segment}
    (noAngles : Tokens.NoAngles inExpression rest)
    (again : ∀ read, ∀ x ∈ others, ∀ behind, Tokens.NoAngles inExpression behind →
      round read s ⟨Path.separator x.ident.span ++ (x.tokens ++ behind), none⟩ =
        .ok (.again (read.push x), ⟨behind, none⟩))
    (done : ∀ read, round read s ⟨rest, none⟩ = .ok (.done read, ⟨rest, none⟩)) (read : Path) :
    loop round read s
      ⟨others.flatMap (fun x => Path.separator x.ident.span ++ x.tokens) ++ rest, none⟩ =
      .ok ({ read with others := read.others ++ others }, ⟨rest, none⟩) := by
  have ends : Ends round s (others.length + 1) read
      ⟨others.flatMap (fun x => Path.separator x.ident.span ++ x.tokens) ++ rest, none⟩
      (.ok ({ read with others := read.others ++ others }, ⟨rest, none⟩)) := by
    induction others generalizing read with
    | nil =>
      rw [List.append_nil]
      exact .done (done read)
    | cons x others ih =>
      have later := ih (fun read y hy => again read y (List.mem_cons_of_mem x hy)) (read.push x)
      rw [Path.push, List.append_assoc, List.singleton_append] at later
      refine .again ?_ later
      rw [List.flatMap_cons, List.append_assoc, List.append_assoc]
      exact again read x List.mem_cons_self _ (Tokens.noAngles_segments others noAngles)
  refine loop_of_ends ends (Nat.succ_le_succ ?_)
  rw [Cursor.weight, Tokens.weight_append]
  exact Nat.le_add_right_of_le (Tokens.length_le_weight fun x _ => List.cons_ne_nil _ _)

theorem moreSegments_again {others : List Segment} (h : ∀ x ∈ others, Rereads g inExpression x)
    (noAngles : Tokens.NoAngles inExpression rest)
    (stop : (Sign.operator "::").shows rest = false)
    (s : Scope) (read : Path) :
    moreSegments g inExpression read s
      ⟨others.flatMap (fun x => Path.separator x.ident.span ++ x.tokens) ++ rest, none⟩ =
      .ok ({ read with others := read.others ++ others }, ⟨rest, none⟩) := by
  refine loop_segments noAngles (fun read x hx behind clear => ?_) (fun read => ?_) read
  · have colons : (Sign.operator "::").shows
        (Path.separator x.ident.span ++ (x.tokens ++ behind)) = true := rfl
    have noParens : ((Tokens.skip? (Path.separator x.ident.span ++ (x.tokens ++ behind))).bind
        Tokens.skip?).any (Sign.group .parenthesis).shows = false := rfl
    simp only [peek_bind, peekBehind_bind, colons, noParens, Bool.and_false, Bool.not_false,
      Bool.and_true, if_true]
    simp only [bind_apply, separator_written, h x hx s _ clear]
    rfl
  · simp only [peek_bind, peekBehind_bind, stop, Bool.false_and, Bool.false_eq_true, if_false]
    rfl

/-- **Paths read back** if their segments do. -/
theorem path_again {p : Path} (h : ∀ x ∈ p.segments, Rereads g inExpression x) {rest : Tokens}
    (noAngles : Tokens.NoAngles inExpression rest)
    (stop : (Sign.operator "::").shows rest = false) (s : Scope) :
    path g inExpression s ⟨p.tokens ++ rest, none⟩ = .ok (p, ⟨rest, none⟩) := by
  obtain ⟨absolute, first, others⟩ := p
  rw [Path.segments, List.forall_mem_cons] at h
  have behind := Tokens.noAngles_segments others noAngles
  have start : separator? s ⟨(Path.mk absolute first others).tokens ++ rest, none⟩ =
      .ok (absolute, ⟨first.tokens ++
        (others.flatMap (fun x => Path.separator x.ident.span ++ x.tokens) ++ rest), none⟩) := by
    cases absolute with
    | none => simp only [Path.tokens, Option.map_none, Option.getD_none, List.nil_append,
        List.append_assoc]; rfl
    | some place =>
      simp only [Path.tokens, Option.map_some, Option.getD_some, List.append_assoc]
      have shown : (Sign.operator "::").shows (Path.separator place ++ (first.tokens ++
        (others.flatMap (fun x => Path.separator x.ident.span ++ x.tokens) ++ rest))) = true := rfl
      rw [separator?, peek_bind, shown, if_pos rfl, bind_apply, separator_written]
      rfl
  rw [path, bind_apply, start]
  simp only [bind_apply, h.1 s _ behind]
  exact (moreSegments_again h.2 noAngles stop s _).trans (by simp)

end Grammar

end TypedId
