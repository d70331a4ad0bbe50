/-
What shows in front of a reader when a comma, and anything behind it, is
added at the end of its tokens. Only the comma itself can show anew, and only
where nothing else is left: every other sign is found, or missed, as before,
and what stands behind it is what stood there, with the addition.
-/
import TypedId.Token.Sign

namespace TypedId

/-- A comma and what follows it, standing behind other tokens. -/
structure Tail where
  joint : Bool
  place : Span
  after : Tokens

namespace Tail

def tokens (k : Tail) : Tokens := .punct ',' k.joint k.place :: k.after

@[simp] theorem enter_tokens (k : Tail) : k.tokens.enter = k.tokens := by
  simp [tokens, Tokens.enter, Token.enterAll, Token.entered]

end Tail

namespace Tokens

/-- Nothing but empty invisible groups. -/
def Blank (ts : Tokens) : Prop := ts.enter = []

@[simp] theorem blank_nil : Blank [] := rfl

theorem enter_append (ts e : Tokens) :
    enter (ts ++ e) = if ts.enter = [] then e.enter else ts.enter ++ e := by
  induction ts with
  | nil => rfl
  | cons t ts ih =>
    match he : t.entered with
    | [] =>
      have skipped : ∀ us, enter (t :: us) = enter us := fun us => by
        rw [enter, Token.enterAll, he]; rfl
      rw [List.cons_append, skipped, skipped, ih]
    | u :: us =>
      have opened : ∀ vs, enter (t :: vs) = u :: us ++ vs := fun vs => by
        rw [enter, Token.enterAll, he]
      rw [List.cons_append, opened, opened, if_neg (by simp), List.append_assoc]

theorem enter_invisible (content rest : Tokens) (place : Span) :
    enter (.group .invisible content place :: rest) =
      if content.enter = [] then rest.enter else content.enter ++ rest := by
  rw [enter, Token.enterAll, Token.entered]
  cases he : Token.enterAll content with
  | nil => rw [if_pos (show content.enter = [] from he)]; rfl
  | cons t ts =>
    have shown : content.enter = t :: ts := he
    rw [shown, if_neg (List.cons_ne_nil t ts)]

@[simp] theorem enter_append_tail (ts : Tokens) (k : Tail) :
    enter (ts ++ k.tokens) = ts.enter ++ k.tokens := by
  rw [enter_append, Tail.enter_tokens]
  split
  · next h => rw [h, List.nil_append]
  · rfl

/-! ## The tokens in front -/

mutual

theorem weight_entered (t : Token) : weight t.entered ≤ t.weight :=
  match t with
  | .group .invisible ts s => by
    have := weight_enter ts
    rw [Token.entered, weight_group]
    exact Nat.le_succ_of_le this
  | .group .parenthesis .. | .group .bracket .. | .group .brace .. | .ident .. | .punct ..
  | .literal .. => by simp [Token.entered]

theorem weight_enter (ts : Tokens) : weight (enter ts) ≤ weight ts :=
  match ts with
  | [] => Nat.le_refl _
  | t :: ts => by
    have ht := weight_entered t
    have hts := weight_enter ts
    rw [enter, Token.enterAll]
    split
    · rw [weight_cons]
      exact Nat.le_add_left_of_le hts
    · rw [weight_append, weight_cons]
      exact Nat.add_le_add_right ht _

end

/-- The front of a sequence does not come from the tokens behind it if those are left over. -/
theorem enter_cancel {ts e rest : Tokens} {t : Token} (h : (ts ++ e).enter = t :: rest)
    (hw : e.weight ≤ rest.weight) : ∃ us, ts.enter = t :: us ∧ rest = us ++ e := by
  rw [enter_append] at h
  by_cases hb : ts.enter = []
  · rw [if_pos hb] at h
    have less := weight_enter e
    rw [h, weight_cons] at less
    have := weight_pos t
    omega
  · rw [if_neg hb] at h
    obtain ⟨u, us, hu⟩ := List.exists_cons_of_ne_nil hb
    rw [hu, List.cons_append, List.cons.injEq] at h
    exact ⟨us, by rw [hu, h.1], h.2.symm⟩

theorem enter_append_of_cons {ts : Tokens} {t : Token} {us : Tokens} (h : ts.enter = t :: us)
    (e : Tokens) : (ts ++ e).enter = t :: (us ++ e) := by
  rw [enter_append, if_neg (by rw [h]; exact List.cons_ne_nil _ _), h, List.cons_append]

theorem enter_eq_of_word? {ts rest : Tokens} {i : Ident} (h : word? ts = some (i, rest)) :
    ts.enter = i.token :: rest := by
  rw [word?] at h
  split at h
  · next he => cases h; exact he
  · cases h

theorem word?_of_enter {ts rest : Tokens} {i : Ident} (h : ts.enter = i.token :: rest) :
    word? ts = some (i, rest) := by
  rw [word?, h]
  rfl

theorem enter_eq_of_group? {d : Delimiter} (hd : d ≠ .invisible) {ts content rest : Tokens}
    {place : Span} (h : group? d ts = some (content, place, rest)) :
    ts.enter = .group d content place :: rest := by
  rw [group?, if_neg hd] at h
  split at h
  · next he =>
    split at h
    · next hd' => cases h; rw [he, hd']
    · cases h
  · cases h

theorem group?_of_enter {d : Delimiter} (hd : d ≠ .invisible) {ts content rest : Tokens}
    {place : Span} (h : ts.enter = .group d content place :: rest) :
    group? d ts = some (content, place, rest) := by
  rw [group?, if_neg hd, h]
  exact if_pos rfl

theorem group?_cons (d : Delimiter) (content : Tokens) (place : Span) (rest : Tokens) :
    group? d (.group d content place :: rest) = some (content, place, rest) := by
  cases d <;> rfl

/-- Adds tokens behind what a look has left. -/
abbrev behind {α : Type} (e : Tokens) (r : α × Tokens) : α × Tokens := (r.1, r.2 ++ e)

/-! ## Single tokens -/

section

variable (k : Tail) (ts : Tokens)

theorem word?_append : word? (ts ++ k.tokens) = (word? ts).map (behind k.tokens) := by
  rw [word?, word?, enter_append_tail]
  match ts.enter with
  | [] | .group .. :: _ | .ident .. :: _ | .punct .. :: _ | .literal .. :: _ => rfl

theorem literal?_append :
    literal? (ts ++ k.tokens) = (literal? ts).map fun l => (l.1, l.2.1, l.2.2 ++ k.tokens) := by
  rw [literal?, literal?, enter_append_tail]
  match ts.enter with
  | [] | .group .. :: _ | .ident .. :: _ | .punct .. :: _ | .literal .. :: _ => rfl

theorem mark?_append (h : ¬ ts.Blank) :
    mark? (ts ++ k.tokens) =
      (mark? ts).map fun m => (m.1, m.2.1, m.2.2.1, m.2.2.2 ++ k.tokens) := by
  rw [Blank] at h
  rw [mark?, mark?, enter_append_tail]
  match ts.enter, h with
  | .punct c j s :: rest, _ =>
    simp only [List.cons_append]
    by_cases hc : c = '\x27'
    · rw [if_pos hc, if_pos hc]; rfl
    · rw [if_neg hc, if_neg hc]; rfl
  | .group .. :: _, _ | .ident .. :: _, _ | .literal .. :: _, _ => rfl

theorem mark?_append_of_blank (h : ts.Blank) :
    mark? (ts ++ k.tokens) = some (',', k.joint, k.place, k.after) := by
  rw [Blank] at h
  rw [mark?, enter_append_tail, h]
  rfl

theorem mark?_of_blank (h : ts.Blank) : mark? ts = none := by
  rw [Blank] at h
  rw [mark?, h]

theorem lifetime?_append :
    lifetime? (ts ++ k.tokens) = (lifetime? ts).map (behind k.tokens) := by
  rw [lifetime?, lifetime?, enter_append_tail]
  match ts.enter with
  | [] =>
    simp only [Tail.tokens, List.nil_append, Option.map_none]
    cases k.joint <;> rfl
  | .punct c true s :: rest =>
    simp only [List.cons_append, word?_append]
    by_cases hc : c = '\x27'
    · rw [if_pos hc, if_pos hc]
      cases word? rest <;> rfl
    · rw [if_neg hc, if_neg hc]; rfl
  | .punct _ false _ :: _ | .group .. :: _ | .ident .. :: _ | .literal .. :: _ => rfl

theorem value?_append : value? (ts ++ k.tokens) = (value? ts).map (behind k.tokens) := by
  rw [value?, value?, enter_append_tail]
  match ts.enter with
  | [] | .literal .. :: _ | .group .. :: _ => rfl
  | .ident x s :: rest =>
    simp only [List.cons_append]
    split <;> rfl
  | .punct c j s :: rest =>
    simp only [List.cons_append, literal?_append]
    by_cases hc : c = '-'
    · rw [if_pos hc, if_pos hc]
      cases literal? rest with
      | none => rfl
      | some l =>
        simp only [Option.map_some]
        split <;> rfl
    · rw [if_neg hc, if_neg hc]; rfl

theorem group?_append (d : Delimiter) :
    group? d (ts ++ k.tokens) = (group? d ts).map fun g => (g.1, g.2.1, g.2.2 ++ k.tokens) := by
  have front : (if d = .invisible then ts ++ k.tokens else (ts ++ k.tokens).enter) =
      (if d = .invisible then ts else ts.enter) ++ k.tokens := by
    by_cases hd : d = .invisible
    · rw [if_pos hd, if_pos hd]
    · rw [if_neg hd, if_neg hd, enter_append_tail]
  rw [group?, group?, front]
  generalize (if d = .invisible then ts else ts.enter) = us
  cases us with
  | nil => rfl
  | cons t us =>
    cases t with
    | group d' content s =>
      simp only [List.cons_append]
      split <;> rfl
    | ident | punct | literal => rfl

end

/-! ## Operators -/

theorem operator?_append (k : Tail) {cs : List Char} (h : ',' ∉ cs) (ts : Tokens) :
    operator? cs (ts ++ k.tokens) = (operator? cs ts).map (behind k.tokens) := by
  induction cs generalizing ts with
  | nil => rfl
  | cons c cs ih =>
    simp only [List.mem_cons, not_or] at h
    by_cases hb : ts.Blank
    · cases cs with
      | nil =>
        rw [operator?, operator?, mark?_append_of_blank k ts hb, mark?_of_blank ts hb]
        simp [h.1]
      | cons d ds =>
        rw [operator?, operator?, mark?_append_of_blank k ts hb, mark?_of_blank ts hb]
        · simp [h.1]
        · simp
        · simp
    · cases cs with
      | nil =>
        rw [operator?, operator?, mark?_append k ts hb]
        cases mark? ts with
        | none => rfl
        | some m => simp only [Option.map_some]; split <;> rfl
      | cons d ds =>
        rw [operator?, operator?, mark?_append k ts hb]
        · cases mark? ts with
          | none => rfl
          | some m =>
            simp only [Option.map_some, ih h.2]
            split
            · cases operator? (d :: ds) m.2.2.2 <;> rfl
            · rfl
        · simp
        · simp

/-- A comma that is there stays the first one. -/
theorem operator?_comma_append (k : Tail) {ts : Tokens} (h : ¬ ts.Blank) :
    operator? [','] (ts ++ k.tokens) = (operator? [','] ts).map (behind k.tokens) := by
  rw [operator?, operator?, mark?_append k ts h]
  cases mark? ts with
  | none => rfl
  | some m => simp only [Option.map_some]; split <;> rfl

/-! ## The tokens behind the next one -/

theorem skip?_append (k : Tail) {ts rest : Tokens} (h : skip? ts = some rest) :
    skip? (ts ++ k.tokens) = some (rest ++ k.tokens) := by
  rw [skip?] at h ⊢
  rw [enter_append_tail]
  match hts : ts.enter with
  | [] => rw [hts] at h; cases h
  | .punct c true s :: us =>
    rw [hts] at h
    simp only [List.cons_append] at h ⊢
    by_cases hc : c = '\x27'
    · subst hc
      cases us with
      | nil => cases h; rfl
      | cons u us => cases u <;> (cases h; rfl)
    · split at h
      · exact absurd rfl hc
      · cases h
        split
        · exact absurd rfl hc
        · rfl
  | .punct _ false _ :: us | .group .. :: us | .ident .. :: us | .literal .. :: us =>
    rw [hts] at h
    cases h
    rfl

theorem exists_skip? {ts : Tokens} (h : ¬ ts.Blank) : ∃ rest, skip? ts = some rest := by
  rw [Blank] at h
  rw [skip?]
  match ts.enter, h with
  | .punct c true s :: us, _ =>
    simp only
    split <;> exact ⟨_, rfl⟩
  | .punct _ false _ :: _, _ | .group .. :: _, _ | .ident .. :: _, _ | .literal .. :: _, _ =>
    exact ⟨_, rfl⟩

theorem skip?_of_mark? {ts rest : Tokens} {c : Char} {j : Bool} {place : Span}
    (h : mark? ts = some (c, j, place, rest)) : skip? ts = some rest := by
  rw [mark?] at h
  rw [skip?]
  match hts : ts.enter with
  | [] | .group .. :: _ | .ident .. :: _ | .literal .. :: _ => rw [hts] at h; cases h
  | .punct c' j' place' :: us =>
    rw [hts] at h
    simp only at h
    by_cases hc : c' = '\x27'
    · rw [if_pos hc] at h; cases h
    · rw [if_neg hc] at h
      cases h
      cases j
      · rfl
      · simp only
        split
        · exact absurd rfl hc
        · rfl

/-- Two marks in front are two tokens to skip. -/
theorem exists_skip?_skip? {c d : Char} {ts : Tokens} (h : (operator? [c, d] ts).isSome = true) :
    ∃ us vs, skip? ts = some us ∧ skip? us = some vs := by
  simp only [operator?] at h
  cases hm : mark? ts with
  | none => rw [hm] at h; cases h
  | some m =>
    have behind : ¬ m.2.2.2.Blank := by
      intro hb
      simp [hm, mark?_of_blank _ hb] at h
    obtain ⟨vs, hv⟩ := exists_skip? behind
    exact ⟨_, vs, skip?_of_mark? hm, hv⟩

/-! ## Nothing to see -/

section

variable {ts : Tokens} (h : ts.Blank)

include h

theorem word?_of_blank : word? ts = none := by rw [Blank] at h; rw [word?, h]

theorem literal?_of_blank : literal? ts = none := by rw [Blank] at h; rw [literal?, h]

theorem lifetime?_of_blank : lifetime? ts = none := by rw [Blank] at h; rw [lifetime?, h]

theorem value?_of_blank : value? ts = none := by rw [Blank] at h; rw [value?, h]

theorem group?_of_blank {d : Delimiter} (hd : d ≠ .invisible) : group? d ts = none := by
  rw [Blank] at h; rw [group?, if_neg hd, h]

theorem operator?_of_blank {cs : List Char} (hc : cs ≠ []) : operator? cs ts = none := by
  match cs, hc with
  | [c], _ => rw [operator?, mark?_of_blank ts h]
  | c :: d :: ds, _ =>
    rw [operator?, mark?_of_blank ts h]
    simp

end

/-! ## Nothing to begin with -/

/-- Nothing that a type or a bound can begin with: nothing at all, a literal, or a comma. -/
def Barren (ts : Tokens) : Prop :=
  ts.Blank ∨ (∃ x s rest, ts.enter = .literal x s :: rest) ∨
    ∃ j s rest, ts.enter = .punct ',' j s :: rest

theorem eq_of_group?_invisible {ts content rest : Tokens} {place : Span}
    (h : group? .invisible ts = some (content, place, rest)) :
    ts = .group .invisible content place :: rest := by
  rw [group?, if_pos rfl] at h
  match ts, h with
  | .group d c s :: us, h =>
    simp only at h
    by_cases hd : d = .invisible
    · rw [if_pos hd] at h; cases h; rw [hd]
    · rw [if_neg hd] at h; cases h

/-- What an invisible group shows is what it holds. -/
theorem Barren.content {ts content rest : Tokens} {place : Span} (h : ts.Barren)
    (hg : group? .invisible ts = some (content, place, rest)) : content.Barren := by
  by_cases hb : content.enter = []
  · exact .inl hb
  · obtain ⟨t, us, hu⟩ := List.exists_cons_of_ne_nil hb
    rw [eq_of_group?_invisible hg, Barren, Blank, enter_invisible, if_neg hb, hu] at h
    rcases h with h | ⟨x, s, vs, h⟩ | ⟨j, s, vs, h⟩
    · cases h
    · cases h
      exact .inr (.inl ⟨x, s, us, hu⟩)
    · cases h
      exact .inr (.inr ⟨j, s, us, hu⟩)

section

variable {ts : Tokens} (h : ts.Barren)

include h

theorem word?_of_barren : word? ts = none := by
  rcases h with h | ⟨x, s, rest, h⟩ | ⟨j, s, rest, h⟩
  · exact word?_of_blank h
  all_goals rw [word?, h]

theorem lifetime?_of_barren : lifetime? ts = none := by
  rcases h with h | ⟨x, s, rest, h⟩ | ⟨j, s, rest, h⟩
  · exact lifetime?_of_blank h
  · rw [lifetime?, h]
  · rw [lifetime?, h]
    cases j <;> rfl

theorem group?_of_barren {d : Delimiter} (hd : d ≠ .invisible) : group? d ts = none := by
  rcases h with h | ⟨x, s, rest, h⟩ | ⟨j, s, rest, h⟩
  · exact group?_of_blank h hd
  all_goals rw [group?, if_neg hd, h]

theorem mark?_of_barren {m : Char × Bool × Span × Tokens} (hm : mark? ts = some m) :
    m.1 = ',' := by
  rcases h with h | ⟨x, s, rest, h⟩ | ⟨j, s, rest, h⟩
  · rw [mark?_of_blank ts h] at hm; cases hm
  · rw [mark?, h] at hm; cases hm
  · rw [mark?, h] at hm; cases hm; rfl

theorem operator?_of_barren {c : Char} {cs : List Char} (hc : c ≠ ',') :
    operator? (c :: cs) ts = none := by
  cases hm : mark? ts with
  | none => cases cs <;> simp [operator?, hm]
  | some m =>
    have comma := mark?_of_barren h hm
    have differs : m.1 ≠ c := by rw [comma]; exact hc.symm
    cases cs <;> simp [operator?, hm, differs]

end

end Tokens

/-! ## Signs -/

namespace Sign

/-- The sign has no comma in it. -/
def noComma : Sign → Bool
  | .operator text => !text.toList.contains ','
  | _ => true

/-- The sign needs a visible token to show. -/
def visible : Sign → Bool
  | .operator text => !text.toList.isEmpty
  | .group d => d != .invisible
  | _ => true

theorem shows_append (k : Tail) {sign : Sign} (h : sign.noComma = true) (ts : Tokens) :
    sign.shows (ts ++ k.tokens) = sign.shows ts := by
  cases sign with
  | operator text =>
    simp only [noComma, List.contains_eq_mem, Bool.not_eq_true', decide_eq_false_iff_not] at h
    simp only [shows, Tokens.operator?_append k h, Option.isSome_map]
  | keyword text | identifier =>
    simp only [shows, Tokens.word?_append, Option.any_map]
  | word => simp only [shows, Tokens.word?_append, Option.isSome_map]
  | lifetime => simp only [shows, Tokens.lifetime?_append, Option.isSome_map]
  | literal => simp only [shows, Tokens.value?_append, Option.isSome_map]
  | stringLiteral => simp only [shows, Tokens.literal?_append, Option.any_map]
  | integerLiteral | floatLiteral =>
    simp only [shows, shows.kindIs, Tokens.value?_append, Option.any_map]
  | group d => simp only [shows, Tokens.group?_append, Option.isSome_map]

theorem shows_comma_append (k : Tail) {ts : Tokens} (h : ¬ ts.Blank) :
    (Sign.operator ",").shows (ts ++ k.tokens) = (Sign.operator ",").shows ts := by
  have hc : ",".toList = [','] := rfl
  simp only [shows, hc, Tokens.operator?_comma_append k h, Option.isSome_map]

/-- The sign has no comma in it, or is one. -/
def commaOrNone (sign : Sign) : Bool := sign.noComma || sign == .operator ","

theorem shows_append_of_not_blank (k : Tail) {sign : Sign} (hs : sign.commaOrNone = true)
    {ts : Tokens} (h : ¬ ts.Blank) : sign.shows (ts ++ k.tokens) = sign.shows ts := by
  rw [commaOrNone, Bool.or_eq_true, beq_iff_eq] at hs
  rcases hs with hs | rfl
  · exact shows_append k hs ts
  · exact shows_comma_append k h

theorem shows_of_blank {sign : Sign} (hs : sign.visible = true) {ts : Tokens} (h : ts.Blank) :
    sign.shows ts = false := by
  cases sign with
  | operator text =>
    simp only [visible, Bool.not_eq_true', List.isEmpty_eq_false_iff] at hs
    simp only [shows, Tokens.operator?_of_blank h hs, Option.isSome_none]
  | keyword text | identifier => simp only [shows, Tokens.word?_of_blank h, Option.any_none]
  | word => simp only [shows, Tokens.word?_of_blank h, Option.isSome_none]
  | lifetime => simp only [shows, Tokens.lifetime?_of_blank h, Option.isSome_none]
  | literal => simp only [shows, Tokens.value?_of_blank h, Option.isSome_none]
  | stringLiteral => simp only [shows, Tokens.literal?_of_blank h, Option.any_none]
  | integerLiteral | floatLiteral =>
    simp only [shows, shows.kindIs, Tokens.value?_of_blank h, Option.any_none]
  | group d =>
    simp only [visible, bne_iff_ne] at hs
    simp only [shows, Tokens.group?_of_blank h hs, Option.isSome_none]

/-- The sign is one that a type or a bound can begin with. -/
def opens : Sign → Bool
  | .operator text => text.toList.head?.any (· != ',')
  | .group d => d != .invisible
  | .keyword _ | .identifier | .word | .lifetime => true
  | .literal | .stringLiteral | .integerLiteral | .floatLiteral => false

theorem shows_of_barren {sign : Sign} (hs : sign.opens = true) {ts : Tokens} (h : ts.Barren) :
    sign.shows ts = false := by
  cases sign with
  | operator text =>
    simp only [opens, Option.any_eq_true] at hs
    obtain ⟨c, hc, hn⟩ := hs
    obtain ⟨cs, hcs⟩ := List.head?_eq_some_iff.mp hc
    simp only [shows, hcs, Tokens.operator?_of_barren h (bne_iff_ne.mp hn), Option.isSome_none]
  | keyword text | identifier => simp only [shows, Tokens.word?_of_barren h, Option.any_none]
  | word => simp only [shows, Tokens.word?_of_barren h, Option.isSome_none]
  | lifetime => simp only [shows, Tokens.lifetime?_of_barren h, Option.isSome_none]
  | group d =>
    simp only [opens, bne_iff_ne] at hs
    simp only [shows, Tokens.group?_of_barren h hs, Option.isSome_none]
  | literal | stringLiteral | integerLiteral | floatLiteral => cases hs

end Sign

end TypedId
