/-
Expressions of operands and the operators between them, read where they are
written. What binds more tightly is read first: behind a left side,
`climbOnce` takes the links that bind at least as tightly as its base, and
`rightSide` those that bind more tightly than the operator before it. Both
are followed along the list of links, each from the other one on fewer links.
-/
import TypedId.Proofs.Written.Operands

namespace TypedId

open Reader

/-! ## Operators -/

namespace Tokens

/-- The marks of an operator as they are written: all but the last one are joint. -/
def marks : List (Char × Span) → Tokens
  | [] => []
  | [(c, place)] => [.punct c false place]
  | (c, place) :: ms => .punct c true place :: marks ms

theorem exists_mark {ms : List (Char × Span)} (begun : ms ≠ []) (rest : Tokens) :
    ∃ c j place more, marks ms ++ rest = .punct c j place :: more := by
  obtain ⟨⟨c, place⟩, ms, rfl⟩ := List.exists_cons_of_ne_nil begun
  cases ms with
  | nil => exact ⟨c, false, place, rest, rfl⟩
  | cons m ms => exact ⟨c, true, place, marks (m :: ms) ++ rest, rfl⟩

theorem weight_marks_pos {ms : List (Char × Span)} (begun : ms ≠ []) : 0 < weight (marks ms) := by
  obtain ⟨c, j, place, more, front⟩ := exists_mark begun []
  rw [List.append_nil] at front
  rw [front, weight_cons]
  exact Nat.lt_of_lt_of_le (weight_pos _) (Nat.le_add_right _ _)

theorem mark?_marks {c : Char} (h : c ≠ '\x27') (place : Span) (ms : List (Char × Span))
    (rest : Tokens) : mark? (marks ((c, place) :: ms) ++ rest) =
      some (c, !ms.isEmpty, place, marks ms ++ rest) := by
  cases ms with
  | nil => exact if_neg h
  | cons m ms => exact if_neg h

/-- Of written marks, just the operators are shown that the marks begin with. -/
theorem operator?_marks {ms : List (Char × Span)} (begun : ms ≠ [])
    (known : ∀ m ∈ ms, m.1 ≠ '\x27') (cs : List Char) (rest : Tokens) :
    (operator? cs (marks ms ++ rest)).isSome = cs.isPrefixOf (ms.map (·.1)) := by
  induction cs generalizing ms with
  | nil => rfl
  | cons c cs ih =>
    obtain ⟨⟨c', place⟩, ms, rfl⟩ := List.exists_cons_of_ne_nil begun
    rw [List.forall_mem_cons] at known
    have front := mark?_marks known.1 place ms rest
    cases cs with
    | nil =>
      simp only [operator?, front, List.map_cons, List.isPrefixOf]
      by_cases same : c' = c
      · simp [same]
      · simp [same, Ne.symm same]
    | cons d cs =>
      simp only [operator?, front, List.map_cons, List.isPrefixOf_cons_cons]
      cases ms with
      | nil => simp
      | cons m ms =>
        have behind := ih (List.cons_ne_nil m ms) known.2
        by_cases same : c' = c
        · simp [same, behind]
        · simp [same, Ne.symm same]

theorem operator?_whole {ms : List (Char × Span)} (begun : ms ≠ [])
    (known : ∀ m ∈ ms, m.1 ≠ '\x27') (rest : Tokens) :
    operator? (ms.map (·.1)) (marks ms ++ rest) = some (marks ms, rest) := by
  induction ms with
  | nil => exact absurd rfl begun
  | cons m ms ih =>
    obtain ⟨c, place⟩ := m
    rw [List.forall_mem_cons] at known
    have front := mark?_marks known.1 place ms rest
    cases ms with
    | nil =>
      simp only [List.map_cons, List.map_nil, operator?, front, if_true]
      rfl
    | cons m ms =>
      have behind := ih (List.cons_ne_nil _ _) known.2
      rw [List.map_cons] at behind
      simp only [List.map_cons, operator?, front, List.isEmpty_cons, Bool.not_false, decide_true,
        Bool.and_self, if_true, behind]
      rfl

/-- The marks of a binary operator. -/
def IsOperator (ms : List (Char × Span)) (p : Precedence) : Prop :=
  ∃ text, (text, p) ∈ Precedence.operators ∧ ms.map (·.1) = text.toList

namespace IsOperator

variable {ms : List (Char × Span)} {p : Precedence}

theorem ne_nil (h : IsOperator ms p) : ms ≠ [] := by
  rintro rfl
  obtain ⟨text, known, same⟩ := h
  have begun : ∀ o ∈ Precedence.operators, o.1.toList ≠ [] := by decide
  exact begun _ known same.symm

theorem known (h : IsOperator ms p) : ∀ m ∈ ms, m.1 ≠ '\x27' := by
  obtain ⟨text, known, same⟩ := h
  have plain : ∀ o ∈ Precedence.operators, '\x27' ∉ o.1.toList := by decide
  rintro m hm quote
  exact plain _ known (same ▸ quote ▸ List.mem_map_of_mem hm)

theorem shows (h : IsOperator ms p) (text : String) (rest : Tokens) :
    (Sign.operator text).shows (marks ms ++ rest) = text.toList.isPrefixOf (ms.map (·.1)) :=
  operator?_marks h.ne_nil h.known text.toList rest

/-- The operator is found, since the longer ones are looked for first. -/
theorem found (h : IsOperator ms p) (s : Scope) (rest : Tokens) :
    ∃ text, Grammar.binaryOperator? (marks ms ++ rest) = some (text, p) ∧
      Reader.operator text s ⟨marks ms ++ rest, none⟩ = .ok (marks ms, ⟨rest, none⟩) := by
  have whole := operator?_whole h.ne_nil h.known rest
  have shown (text : String) := h.shows text rest
  obtain ⟨text, known, same⟩ := h
  have first : ∀ o ∈ Precedence.operators,
      Precedence.operators.find? (fun o' => o'.1.toList.isPrefixOf o.1.toList) = some o := by
    decide
  refine ⟨text, ?_, ?_⟩
  · simp only [Grammar.binaryOperator?, shown, same]
    exact first _ known
  · rw [same] at whole
    simp only [Reader.operator, whole]

theorem endsOperand (h : IsOperator ms p) (rest : Tokens) : EndsOperand (marks ms ++ rest) := by
  have shown (text : String) := h.shows text rest
  have group (d : Delimiter) (visible : d ≠ .invisible) :
      (Sign.group d).shows (marks ms ++ rest) = false := by
    obtain ⟨c, j, place, more, front⟩ := exists_mark h.ne_nil rest
    rw [front]
    cases d with
    | invisible => exact absurd rfl visible
    | parenthesis | bracket | brace => rfl
  obtain ⟨text, known, same⟩ := h
  have others : ∀ o ∈ Precedence.operators, ∀ text ∈ ["::", "#", ".", "?"],
      text.toList.isPrefixOf o.1.toList = false := by decide
  have differs : ∀ o ∈ Precedence.operators, ("!".toList.isPrefixOf o.1.toList &&
      !"!=".toList.isPrefixOf o.1.toList) = false := by decide
  have other {sign : String} (hs : sign ∈ ["::", "#", ".", "?"]) :
      (Sign.operator sign).shows (marks ms ++ rest) = false := by
    rw [shown, same]
    exact others _ known sign hs
  refine ⟨⟨other (by decide), ?_, group .brace nofun, other (by decide)⟩, group .parenthesis nofun,
    group .bracket nofun, other (by decide), other (by decide)⟩
  rw [shown, shown, same]
  exact differs _ known

end IsOperator

end Tokens

/-! ## Links -/

/-- An operator and what stands behind it. -/
inductive Link where
  | binary (ms : List (Char × Span)) (p : Precedence) (operand : Tokens)
  | cast (place : Span) (type : Tokens)

namespace Link

def precedence : Link → Precedence
  | .binary _ p _ => p
  | .cast _ _ => .cast

def tokens : Link → Tokens
  | .binary ms _ operand => Tokens.marks ms ++ operand
  | .cast place type => .ident "as" place :: type

/-- The tokens of links in a row. -/
def listed (ls : List Link) : Tokens := ls.flatMap tokens

/-- The link begins with a binary operator that does not assign, or with `as` before a type that is
no invisible group. -/
def Joins : Link → Prop
  | .binary ms p _ => Tokens.IsOperator ms p ∧ p ≠ .assign
  | .cast _ ts => (Sign.group .invisible).shows ts = false

/-- Whether the type of a cast can end in front of the link: an opening angle bracket would be read
as a part of it. -/
def endsCast : Link → Bool
  | .binary ms _ _ => !(ms.head?.any fun m => m.1 == '<')
  | .cast _ _ => true

/-- The links can stand in a row behind a left side, which may be a comparison: no comparison
follows another one directly, and the types of casts end where they should. -/
def Chained : Bool → List Link → Prop
  | _, [] => True
  | compared, .binary _ p _ :: ls => (p = .compare → compared = false) ∧
      Chained (p == .compare || compared && Precedence.compare.rank < p.rank) ls
  | compared, .cast _ _ :: ls => (∀ l ∈ ls.head?, l.endsCast = true) ∧ Chained compared ls

variable {compared : Bool} {front ls : List Link}

theorem Chained.behind_other (h : Chained compared ls) : Chained false ls := by
  induction ls generalizing compared with
  | nil => trivial
  | cons l ls ih =>
    cases l with
    | cast => exact ⟨h.1, ih h.2⟩
    | binary ms p operand =>
      refine ⟨fun _ => rfl, ?_⟩
      cases same : p == .compare with
      | true =>
        have later := h.2
        rwa [same, Bool.true_or] at later
      | false => exact ih h.2

/-- Links that bind more tightly than a comparison do not count. -/
theorem Chained.of_tight (h : Chained compared (front ++ ls))
    (tight : ∀ l ∈ front, Precedence.compare.rank < l.precedence.rank) : Chained compared ls := by
  induction front with
  | nil => exact h
  | cons l front ih =>
    rw [List.forall_mem_cons] at tight
    refine ih ?_ tight.2
    cases l with
    | cast => exact h.2
    | binary ms p operand =>
      have later := h.2
      have other : (p == .compare) = false := by
        refine beq_false_of_ne ?_
        rintro rfl
        exact absurd tight.1 (Nat.lt_irrefl _)
      have less : decide (Precedence.compare.rank < p.rank) = true := decide_eq_true tight.1
      rwa [other, less, Bool.and_true, Bool.false_or] at later

theorem Chained.suffix (h : Chained compared (front ++ ls)) : Chained false ls := by
  induction front generalizing compared with
  | nil => exact h.behind_other
  | cons l front ih =>
    cases l with
    | cast => exact ih h.2
    | binary => exact ih h.2

/-- Of the links behind a binary operator, those that bind more tightly go to its right side; the
others can stand behind what it makes. -/
theorem Chained.behind {p : Precedence}
    (h : Chained (p == .compare || compared && Precedence.compare.rank < p.rank) (front ++ ls))
    (tight : ∀ l ∈ front, p.rank < l.precedence.rank) : Chained (p == .compare) ls := by
  cases same : p == .compare with
  | false => exact h.suffix
  | true =>
    obtain rfl := eq_of_beq same
    rw [same, Bool.true_or] at h
    exact h.of_tight tight

end Link

namespace Grammar

open Link (listed Chained)

variable {g : Grammar} {ts rest : Tokens} {s : Scope}

/-- The link is read back. -/
inductive ReadsLink (g : Grammar) : Link → Prop
  | binary {ms : List (Char × Span)} {p : Precedence} (h : Tokens.IsOperator ms p)
      (value : p ≠ .assign) {ts : Tokens} (operand : ReadsOperand (g.unary true) ts) :
      ReadsLink g (.binary ms p ts)
  | cast (place : Span) {ts : Tokens}
      (type : (g.type false false).ReadsBack RawType.tokens (Tokens.EndsType false) ts) :
      ReadsLink g (.cast place ts)

theorem ReadsLink.ne_nil {l : Link} (h : ReadsLink g l) : l.tokens ≠ [] := by
  cases h with
  | cast => exact List.cons_ne_nil _ _
  | binary known =>
    obtain ⟨c, j, place, more, front⟩ := Tokens.exists_mark known.ne_nil _
    rw [Link.tokens, front]
    exact List.cons_ne_nil _ _

theorem length_le_listed {ls : List Link} (h : ∀ l ∈ ls, ReadsLink g l) :
    ls.length ≤ (listed ls).weight :=
  Tokens.length_le_weight fun l hl => (h l hl).ne_nil

/-! ## What follows -/

theorem endsOperand_of_endsExpression (ends : rest.EndsExpression) : rest.EndsOperand := by
  rcases ends with rfl | ⟨c, place, more, rfl | rfl, rfl⟩ <;>
    exact ⟨⟨rfl, rfl, rfl, rfl⟩, rfl, rfl, rfl, rfl⟩

/-- An operand ends in front of links, and where they end. -/
theorem endsOperand_listed {ls : List Link} (h : ∀ l ∈ ls, ReadsLink g l)
    (ends : rest.EndsExpression) : Tokens.EndsOperand (listed ls ++ rest) := by
  cases ls with
  | nil => exact endsOperand_of_endsExpression ends
  | cons l ls =>
    rw [listed, List.flatMap_cons, List.append_assoc]
    cases h l List.mem_cons_self with
    | binary known =>
      rw [Link.tokens, List.append_assoc]
      exact known.endsOperand _
    | cast => exact ⟨⟨rfl, rfl, rfl, rfl⟩, rfl, rfl, rfl, rfl⟩

/-- So does the type of a cast, in front of such links. -/
theorem endsType_listed {ls : List Link} (h : ∀ l ∈ ls, ReadsLink g l)
    (casts : ∀ l ∈ ls.head?, l.endsCast = true) (ends : rest.EndsExpression) :
    Tokens.EndsType false (listed ls ++ rest) := by
  have operand := endsOperand_listed h ends
  cases ls with
  | nil =>
    rcases ends with rfl | ⟨c, place, more, rfl | rfl, rfl⟩ <;>
      exact ⟨rfl, rfl, rfl, rfl, rfl, nofun⟩
  | cons l ls =>
    replace casts := casts l rfl
    have first := h l List.mem_cons_self
    rw [listed, List.flatMap_cons, List.append_assoc] at operand ⊢
    cases first with
    | cast => exact ⟨rfl, rfl, rfl, rfl, rfl, nofun⟩
    | @binary ms _ known =>
      rw [Link.tokens, List.append_assoc] at operand ⊢
      have arrow : ∀ o ∈ Precedence.operators, "->".toList.isPrefixOf o.1.toList = false := by
        decide
      obtain ⟨m, ms, rfl⟩ := List.exists_cons_of_ne_nil known.ne_nil
      simp only [Link.endsCast, List.head?_cons, Option.any_some, Bool.not_eq_true',
        beq_eq_false_iff_ne] at casts
      refine ⟨operand.colons, ?_, operand.bang, ?_, operand.parens, nofun⟩
      · simp [known.shows, List.isPrefixOf, casts.symm]
      · rw [known.shows]
        obtain ⟨text, known, same⟩ := known
        rw [same]
        exact arrow _ known

/-- What binds next. -/
theorem nextPrecedence_listed {ls : List Link} (h : ∀ l ∈ ls, ReadsLink g l)
    (ends : rest.EndsExpression) :
    nextPrecedence s ⟨listed ls ++ rest, none⟩ =
      .ok ((ls.head?.map Link.precedence).getD .jump, ⟨listed ls ++ rest, none⟩) := by
  cases ls with
  | nil => rcases ends with rfl | ⟨c, place, more, rfl | rfl, rfl⟩ <;> rfl
  | cons l ls =>
    cases h l List.mem_cons_self with
    | cast => rfl
    | @binary ms p known _ us =>
      obtain ⟨text, found, -⟩ := known.found s (us ++ (listed ls ++ rest))
      have written : listed (.binary ms p us :: ls) ++ rest =
          Tokens.marks ms ++ (us ++ (listed ls ++ rest)) := by
        simp [listed, Link.tokens]
      rw [written, nextPrecedence, bind_apply, look]
      simp only [found]
      rfl

/-! ## Climbing -/

/-- What a reader of links has taken of them: `front`, by its tokens; the ones left, `ls`, can
stand behind what it made. -/
structure Taken (e : Expression) (before : Tokens) (front ls : List Link) : Prop where
  tokens : e.tokens = before ++ listed front
  range : e.isRange = false
  chained : Chained e.isComparison ls

/-- Behind any left side, the reader takes the links that bind at least as tightly as its base. -/
def Climbs (climb : Precedence → Expression → Reader Expression) (ls : List Link) : Prop :=
  ∀ base e s rest, e.isRange = false → Chained e.isComparison ls → Tokens.EndsExpression rest →
    ∃ front behind e', ls = front ++ behind ∧ (∀ l ∈ front, base.rank ≤ l.precedence.rank) ∧
      (∀ l ∈ behind.head?, l.precedence.rank < base.rank) ∧
      climb base e s ⟨listed ls ++ rest, none⟩ = .ok (e', ⟨listed behind ++ rest, none⟩) ∧
      Taken e' e.tokens front behind

/-- Behind an operator, an operand is read with the links that bind more tightly. -/
def ReadsSides (g : Grammar) (ls : List Link) : Prop :=
  ∀ p ts s rest, p ≠ Precedence.assign → ReadsOperand (g.unary true) ts → Chained false ls →
    Tokens.EndsExpression rest →
    ∃ front behind e', ls = front ++ behind ∧ (∀ l ∈ front, p.rank < l.precedence.rank) ∧
      (∀ l ∈ behind.head?, l.precedence.rank ≤ p.rank) ∧
      rightSide g true p s ⟨ts ++ (listed ls ++ rest), none⟩ =
        .ok (e', ⟨listed behind ++ rest, none⟩) ∧
      e'.tokens = ts ++ listed front

/-- One round of `rightSide`. -/
def rightRound (g : Grammar) (p : Precedence) (right : Expression) :
    Reader (Round Expression Expression) := do
  let next ← nextPrecedence
  if p.rank < next.rank || (next = p && p = .assign) then
    let before ← look Tokens.weight
    let right ← g.climb true next right
    if (← look Tokens.weight) = before then return .done right else return .again right
  else return .done right

theorem rightRound_ends {ls : List Link} (h : ∀ l ∈ ls, ReadsLink g l)
    (climbs : ∀ ls', ls' <:+ ls → Climbs (g.climb true) ls') {p : Precedence}
    (value : p ≠ .assign) (ends : rest.EndsExpression) {e : Expression} (single : e.isRange = false)
    (chained : Chained e.isComparison ls) (s : Scope) :
    ∃ n front behind e', n ≤ ls.length + 1 ∧ ls = front ++ behind ∧
      (∀ l ∈ front, p.rank < l.precedence.rank) ∧
      (∀ l ∈ behind.head?, l.precedence.rank ≤ p.rank) ∧
      Ends (rightRound g p) s n e ⟨listed ls ++ rest, none⟩
        (.ok (e', ⟨listed behind ++ rest, none⟩)) ∧
      e'.tokens = e.tokens ++ listed front := by
  induction hn : ls.length using Nat.strong_induction_on generalizing ls e with
  | _ n ih =>
    subst hn
    have next := nextPrecedence_listed (s := s) h ends
    by_cases tight : ∃ l ∈ ls.head?, p.rank < l.precedence.rank
    · obtain ⟨l, hl, tight⟩ := tight
      obtain ⟨front, behind, e', rfl, tighter, looser, read, taken⟩ :=
        climbs _ (List.suffix_refl _) l.precedence e s rest single chained ends
      -- the first link binds as tightly as the base, so at least that one is taken
      have begun : front ≠ [] := by
        rintro rfl
        exact absurd (looser l hl) (Nat.lt_irrefl _)
      have few := List.length_pos_iff.mpr begun
      obtain ⟨n, front', behind', e'', hn, rfl, tighter', looser', later, same⟩ :=
        ih behind.length (by rw [List.length_append]; omega)
          (fun l hl => h l (List.mem_append_right _ hl))
          (fun ls' hs => climbs ls' (hs.trans (List.suffix_append _ _))) taken.range
          taken.chained rfl
      refine ⟨n + 1, front ++ front', behind', e'', ?_, (List.append_assoc ..).symm, ?_, looser',
        .again ?_ later, ?_⟩
      · rw [List.length_append]
        omega
      · intro l' hl'
        rcases List.mem_append.mp hl' with first | second
        · exact Nat.lt_of_lt_of_le tight (tighter l' first)
        · exact tighter' l' second
      · have heavy := length_le_listed (fun l hl => h l (List.mem_append_left _ hl))
        have less : Tokens.weight (listed (front' ++ behind') ++ rest) ≠
            Tokens.weight (listed (front ++ (front' ++ behind')) ++ rest) := by
          simp only [listed, List.flatMap_append, Tokens.weight_append] at heavy ⊢
          omega
        rw [Option.mem_def.mp hl] at next
        rw [rightRound, bind_apply, next]
        simp only [Option.map_some, Option.getD_some, decide_eq_true tight, Bool.true_or, if_true,
          bind_apply, look, read, less, if_false]
        rfl
      · rw [same, taken.tokens, listed, listed, listed, List.flatMap_append, List.append_assoc]
    · refine ⟨1, [], ls, e, Nat.le_add_left 1 _, rfl, List.forall_mem_nil _, ?_, .done ?_,
        (List.append_nil _).symm⟩
      · intro l hl
        exact Nat.le_of_not_lt fun more => tight ⟨l, hl, more⟩
      · have stops : ¬ p.rank < ((ls.head?.map Link.precedence).getD .jump).rank := by
          cases hl : ls.head? with
          | none => exact Nat.not_lt_zero _
          | some l => exact fun more => tight ⟨l, hl, more⟩
        rw [rightRound, bind_apply, next]
        simp only [decide_eq_false stops, decide_eq_false value, Bool.and_false, Bool.or_false,
          Bool.false_eq_true, if_false]
        rfl

theorem readsSides_of_climbs {ls : List Link} (h : ∀ l ∈ ls, ReadsLink g l)
    (climbs : ∀ ls', ls' <:+ ls → Climbs (g.climb true) ls') : ReadsSides g ls := by
  intro p ts s rest value operand chained ends
  obtain ⟨e, read, rfl, single⟩ := operand.read s _ (endsOperand_listed h ends)
  rw [← single.comparison] at chained
  obtain ⟨n, front, behind, e', few, parts, tight, loose, later, same⟩ :=
    rightRound_ends h climbs value ends single.range chained s
  have heavy := length_le_listed h
  refine ⟨front, behind, e', parts, tight, loose, ?_, same⟩
  have rounds : rightSide g true p = (do loop (rightRound g p) (← g.unary true)) := rfl
  rw [rounds, bind_apply, read]
  refine loop_of_ends later ?_
  rw [Cursor.weight, Tokens.weight_append]
  omega

/-- One round of `climbOnce`. -/
def climbRound (g : Grammar) (base : Precedence) (left : Expression) :
    Reader (Round Expression Expression) := do
  if left.isRange then return .done left
  match ← look binaryOperator? with
  | some (text, p) =>
    if p.rank < base.rank then return .done left
    if p = .compare && left.isComparison then complain .chainedComparison
    let mark ← operator text
    let right ← rightSide g true p
    return .again ⟨left.tokens ++ mark ++ right.tokens,
      if p = .compare then .comparison else .other⟩
  | none =>
    if base.rank ≤ Precedence.assign.rank && (← showsEquals) then
      let equals ← operator "="
      return .again (.plain (left.tokens ++ equals ++ (← rightSide g true .assign).tokens))
    else if base.rank ≤ Precedence.range.rank && (← peek (.operator "..")) then
      return .again (← range g true left.tokens)
    else if ← peek (.keyword "as") then
      let as ← keyword "as"
      let type ← g.type false false
      checkCast
      return .again (.plain (left.tokens ++ as ++ type.tokens))
    else return .done left

theorem climbRound_end {base : Precedence} {e : Expression} (single : e.isRange = false)
    (ends : rest.EndsExpression) (s : Scope) :
    climbRound g base e s ⟨rest, none⟩ = .ok (.done e, ⟨rest, none⟩) := by
  rw [climbRound, single, if_neg Bool.false_ne_true]
  rcases ends with rfl | ⟨c, place, more, rfl | rfl, rfl⟩ <;> cases base <;> rfl

theorem rank_le_cast (p : Precedence) : p.rank ≤ Precedence.cast.rank := by
  cases p <;> decide

theorem climbRound_loose {base : Precedence} {e : Expression} (single : e.isRange = false)
    {l : Link} (h : ReadsLink g l) (loose : l.precedence.rank < base.rank) (s : Scope)
    (rest : Tokens) :
    climbRound g base e s ⟨l.tokens ++ rest, none⟩ = .ok (.done e, ⟨l.tokens ++ rest, none⟩) := by
  rw [climbRound, single, if_neg Bool.false_ne_true]
  cases h with
  | cast => exact absurd loose (Nat.not_lt_of_le (rank_le_cast base))
  | @binary ms p known _ ts =>
    replace loose : p.rank < base.rank := loose
    obtain ⟨text, found, -⟩ := known.found s (ts ++ rest)
    rw [Link.tokens, List.append_assoc, bind_apply, look]
    simp only [found, loose, if_true]
    rfl

theorem climbRound_binary {base p : Precedence} {e right : Expression} (single : e.isRange = false)
    {ms : List (Char × Span)} (known : Tokens.IsOperator ms p) (tight : base.rank ≤ p.rank)
    (apart : p = .compare → e.isComparison = false) {c : Cursor}
    (read : rightSide g true p s ⟨rest, none⟩ = .ok (right, c)) :
    climbRound g base e s ⟨Tokens.marks ms ++ rest, none⟩ =
      .ok (.again ⟨e.tokens ++ Tokens.marks ms ++ right.tokens,
        if p = .compare then .comparison else .other⟩, c) := by
  obtain ⟨text, found, mark⟩ := known.found s rest
  have unchained : (decide (p = .compare) && e.isComparison) = false := by
    by_cases same : p = .compare
    · rw [apart same, Bool.and_false]
    · rw [decide_eq_false same, Bool.false_and]
  rw [climbRound, single, if_neg Bool.false_ne_true, bind_apply, look]
  simp only [found, Nat.not_lt_of_le tight, if_false, unchained, Bool.false_eq_true]
  simp only [bind_apply, pure_apply, mark, read]

theorem climbRound_cast {base : Precedence} {e : Expression} (single : e.isRange = false)
    {place : Span} (type : (g.type false false).ReadsBack RawType.tokens (Tokens.EndsType false) ts)
    (ends : rest.EndsOperand) (ends' : rest.EndsType false) :
    climbRound g base e s ⟨.ident "as" place :: (ts ++ rest), none⟩ =
      .ok (.again (.plain (e.tokens ++ .ident "as" place :: ts)), ⟨rest, none⟩) := by
  obtain ⟨t, read, rfl⟩ := type s rest ends'
  have mark : keyword "as" s ⟨.ident "as" place :: (t.tokens ++ rest), none⟩ =
      .ok ([.ident "as" place], ⟨t.tokens ++ rest, none⟩) := rfl
  have dispatch : climbRound g base e s ⟨.ident "as" place :: (t.tokens ++ rest), none⟩ = (do
      let as ← keyword "as"
      let type ← g.type false false
      checkCast
      return .again (.plain (e.tokens ++ as ++ type.tokens)) :
        Reader (Round Expression Expression)) s
          ⟨.ident "as" place :: (t.tokens ++ rest), none⟩ := by
    rw [climbRound, single, if_neg Bool.false_ne_true]
    cases base <;> rfl
  have clear : checkCast s ⟨rest, none⟩ = .ok ((), ⟨rest, none⟩) := by
    simp only [checkCast, peek_bind, ends.point, ends.question, ends.bracket, ends.parens,
      Bool.false_and, Bool.false_eq_true, if_false]
    rfl
  rw [dispatch, bind_apply, mark]
  simp only [bind_apply, pure_apply, read, clear, List.append_assoc, List.singleton_append]

/-- **One round** takes a link that binds tightly enough, with those of its right side. -/
theorem climbRound_tight {l : Link} {ls : List Link} (first : ReadsLink g l)
    (h : ∀ l ∈ ls, ReadsLink g l) (side : ReadsSides g ls) {base : Precedence}
    (tight : base.rank ≤ l.precedence.rank) (ends : rest.EndsExpression) {e : Expression}
    (single : e.isRange = false) (chained : Chained e.isComparison (l :: ls)) (s : Scope) :
    ∃ front behind e', ls = front ++ behind ∧ (∀ l' ∈ front, base.rank ≤ l'.precedence.rank) ∧
      climbRound g base e s ⟨l.tokens ++ (listed ls ++ rest), none⟩ =
        .ok (.again e', ⟨listed behind ++ rest, none⟩) ∧
      Taken e' (e.tokens ++ l.tokens) front behind := by
  cases first with
  | cast place type =>
    exact ⟨[], ls, _, rfl, nofun, climbRound_cast single type (endsOperand_listed h ends)
      (endsType_listed h chained.1 ends), (List.append_nil _).symm, rfl, chained.2.behind_other⟩
  | @binary ms p known value ts operand =>
    obtain ⟨front, behind, right, rfl, tighter, -, read, same⟩ :=
      side p ts s rest value operand chained.2.behind_other ends
    rw [Link.tokens, List.append_assoc]
    refine ⟨front, behind, _, rfl, fun l' hl' => Nat.le_trans tight (Nat.le_of_lt (tighter l' hl')),
      climbRound_binary single known tight chained.1 read, ?_, ?_, ?_⟩
    · simp [same]
    · split <;> rfl
    · have others := chained.2.behind tighter
      by_cases compared : p = .compare
      · rw [if_pos compared]
        rwa [beq_iff_eq.mpr compared] at others
      · rw [if_neg compared]
        rwa [beq_eq_false_iff_ne.mpr compared] at others

/-- The rounds go on up to a link that binds less tightly than the base. -/
theorem climbRound_ends {ls : List Link} (h : ∀ l ∈ ls, ReadsLink g l)
    (sides : ∀ l ls', l :: ls' <:+ ls → ReadsSides g ls') {base : Precedence}
    (ends : rest.EndsExpression) {e : Expression} (single : e.isRange = false)
    (chained : Chained e.isComparison ls) (s : Scope) :
    ∃ n front behind e', n ≤ ls.length + 1 ∧ ls = front ++ behind ∧
      (∀ l ∈ front, base.rank ≤ l.precedence.rank) ∧
      (∀ l ∈ behind.head?, l.precedence.rank < base.rank) ∧
      Ends (climbRound g base) s n e ⟨listed ls ++ rest, none⟩
        (.ok (e', ⟨listed behind ++ rest, none⟩)) ∧
      Taken e' e.tokens front behind := by
  induction hn : ls.length using Nat.strong_induction_on generalizing ls e with
  | _ n ih =>
    subst hn
    cases ls with
    | nil =>
      exact ⟨1, [], [], e, Nat.le_refl 1, rfl, nofun, nofun, .done (climbRound_end single ends s),
        (List.append_nil _).symm, single, chained⟩
    | cons l ls =>
      rw [List.forall_mem_cons] at h
      have written : listed (l :: ls) ++ rest = l.tokens ++ (listed ls ++ rest) := by
        rw [listed, List.flatMap_cons, List.append_assoc]
        rfl
      by_cases loose : l.precedence.rank < base.rank
      · refine ⟨1, [], l :: ls, e, Nat.le_add_left 1 _, rfl, nofun, ?_, .done ?_,
          (List.append_nil _).symm, single, chained⟩
        · simpa using loose
        · rw [written]
          exact climbRound_loose single h.1 loose s _
      · obtain ⟨front, behind, e', rfl, tighter, round, taken⟩ := climbRound_tight h.1 h.2
          (sides l ls (List.suffix_refl _)) (Nat.le_of_not_lt loose) ends single chained s
        obtain ⟨n, front', behind', e'', few, rfl, tighter', looser', later, taken'⟩ :=
          ih behind.length (by rw [List.length_cons, List.length_append]; omega)
            (fun l hl => h.2 l (List.mem_append_right _ hl))
            (fun l' ls' hs => sides l' ls' (hs.trans
              ((List.suffix_append _ _).trans (List.suffix_cons _ _)))) taken.range
            taken.chained rfl
        refine ⟨n + 1, l :: (front ++ front'), behind', e'', ?_, ?_, ?_, looser',
          .again (written ▸ round) later, ?_, taken'.range, taken'.chained⟩
        · rw [List.length_cons, List.length_append]
          omega
        · rw [List.cons_append, List.append_assoc]
        · rw [List.forall_mem_cons, List.forall_mem_append]
          exact ⟨Nat.le_of_not_lt loose, tighter, tighter'⟩
        · rw [taken'.tokens, taken.tokens]
          simp [listed]

theorem climbs_of_readsSides {ls : List Link} (h : ∀ l ∈ ls, ReadsLink g l)
    (sides : ∀ l ls', l :: ls' <:+ ls → ReadsSides g ls') : Climbs (climbOnce g true) ls := by
  intro base e s rest single chained ends
  obtain ⟨n, front, behind, e', few, parts, tight, loose, rounds, taken⟩ :=
    climbRound_ends h sides ends single chained s
  have heavy := length_le_listed h
  refine ⟨front, behind, e', parts, tight, loose, loop_of_ends rounds ?_, taken⟩
  rw [Cursor.weight, Tokens.weight_append]
  omega

/-! ## Expressions -/

/-- Links are climbed over in a grammar deeper than their number, each from those behind it. -/
theorem climbs_deep {d n : Nat} {ls : List Link} (h : ∀ l ∈ ls, ∀ m, d ≤ m → ReadsLink (deep m) l)
    (hn : d + ls.length ≤ n) : Climbs (climbOnce (deep n) true) ls := by
  induction n generalizing ls with
  | zero =>
    obtain rfl : ls = [] := List.eq_nil_of_length_eq_zero (by omega)
    exact climbs_of_readsSides nofun fun l ls' hs => by simp at hs
  | succ n ih =>
    refine climbs_of_readsSides (fun l hl => h l hl _ (by omega)) fun l ls' hs => ?_
    have within : l :: ls' ⊆ ls := hs.subset
    have few := hs.length_le
    rw [List.length_cons] at few
    refine readsSides_of_climbs
      (fun l' hl' => h l' (within (List.mem_cons_of_mem l hl')) _ (by omega)) fun ls'' hs' => ?_
    have fewer := hs'.length_le
    exact ih (fun l' hl' => h l' (within (List.mem_cons_of_mem l (hs'.subset hl')))) (by omega)

/-- **An operand and the links behind it** are an expression. -/
theorem readsExpression_links {d n : Nat} {ls : List Link}
    (operand : ReadsOperand (unaryOnce (deep n) true) ts)
    (h : ∀ l ∈ ls, ∀ m, d ≤ m → ReadsLink (deep m) l) (chained : Chained false ls)
    (hn : d + ls.length ≤ n) :
    ReadsExpression (expressionOnce (deep n) true) (ts ++ listed ls) where
  front := operand.front.append _
  read s rest ends := by
    have links : ∀ l ∈ ls, ReadsLink (deep n) l := fun l hl => h l hl n (by omega)
    obtain ⟨e, read, rfl, single⟩ := operand.read s _ (endsOperand_listed links ends)
    rw [← single.comparison] at chained
    obtain ⟨front, behind, e', rfl, -, looser, climbed, taken⟩ :=
      climbs_deep h hn .jump e s rest single.range chained ends
    have all : behind = [] := by
      cases behind with
      | nil => rfl
      | cons l behind => exact absurd (looser l rfl) (Nat.not_lt_zero _)
    subst all
    rw [List.append_nil] at climbed read ⊢
    refine ⟨e', ?_, taken.tokens⟩
    rw [List.append_assoc, expressionOnce, bind_apply, read]
    exact climbed

end Grammar

end TypedId
