/-
A visibility is read by itself. `visibility_stops`: in front of a comma it is
read as it is alone. `visibility_append`: a visibility that was read in front
of one thing is read in front of another as well, as long as that begins with
a word of its own. The second holds because the tokens in front are the same.
-/
import TypedId.Proofs.BeforeComma

namespace TypedId

namespace Grammar

open Reader

/-! ## What stands behind `pub` -/

theorem restriction_of_none (pub : Span) {s : Scope} {c : Cursor}
    (h : Tokens.group? .parenthesis c.rest = none) :
    restriction pub s c = .ok (.everywhere pub, c) := by
  rw [restriction, bind_apply, look, h]
  rfl

/-- Where only a group is read, the result depends on what it holds. -/
theorem group_map_apply {α β : Type} (d : Delimiter) (content : Tokens) (place : Span)
    (p : Reader α) (f : Span × α → β) :
    ∃ r : Option Fault → Except Fault (β × Option Fault), ∀ s c rest,
      Tokens.group? d c.rest = some (content, place, rest) →
        (group d p >>= fun a => pure (f a)) s c =
          (r c.stray).map fun q => (q.1, ⟨rest, q.2⟩) := by
  refine ⟨fun stray =>
    (p ⟨place.closing, d⟩ ⟨content, stray⟩).map fun q =>
      (f (place, q.1), q.2.stray <|> remainder d q.2.rest), ?_⟩
  intro s c rest h
  simp only [bind_apply, group, groupThen, h, pure_apply]
  cases p ⟨place.closing, d⟩ ⟨content, c.stray⟩ with
  | error e => rfl
  | ok q => rfl

/-- Parentheses belong to the visibility or not by what they hold, wherever they stand. -/
theorem restriction_of_group (pub : Span) (content : Tokens) (place : Span) :
    (∀ s c rest, Tokens.group? .parenthesis c.rest = some (content, place, rest) →
      restriction pub s c = .ok (.everywhere pub, c)) ∨
    ∃ r : Option Fault → Except Fault (Visibility × Option Fault), ∀ s c rest,
      Tokens.group? .parenthesis c.rest = some (content, place, rest) →
        restriction pub s c = (r c.stray).map fun q => (q.1, ⟨rest, q.2⟩) := by
  by_cases known :
      [Sign.keyword "crate", .keyword "self", .keyword "super"].any (·.shows content) = true
  · by_cases alone : (Tokens.word? content).any (·.2.isEmpty) = true
    · obtain ⟨r, hr⟩ := group_map_apply .parenthesis content place
        word fun a => Visibility.restricted pub a.1 none (.ofIdent a.2)
      refine .inr ⟨r, fun s c rest h => ?_⟩
      rw [← hr s c rest h, restriction, bind_apply, look, h]
      simp only [known, alone, if_true]
    · refine .inl fun s c rest h => ?_
      rw [restriction, bind_apply, look, h]
      simp only [known, alone, if_true, Bool.false_eq_true, if_false]
      rfl
  · by_cases within : (Sign.keyword "in").shows content = true
    · obtain ⟨r, hr⟩ := group_map_apply .parenthesis content place
        (do let within ← keyword "in"; return (Tokens.span within, ← plainPath))
        fun a => Visibility.restricted pub a.1 (some a.2.1) a.2.2
      refine .inr ⟨r, fun s c rest h => ?_⟩
      rw [← hr s c rest h, restriction, bind_apply, look, h]
      simp only [known, within, if_true, Bool.false_eq_true, if_false]
    · refine .inl fun s c rest h => ?_
      rw [restriction, bind_apply, look, h]
      simp only [known, within, Bool.false_eq_true, if_false]
      rfl

/-! ## In front of a comma -/

theorem restriction_stops (k : Tail) (pub : Span) :
    StopsAt k (restriction pub) (restriction pub) := by
  intro s c v c' h
  cases hg : Tokens.group? .parenthesis c.rest with
  | none =>
    have none' : Tokens.group? .parenthesis (c.upTo k).rest = none := by
      rw [Cursor.rest_upTo, Tokens.group?_append, hg]
      rfl
    rw [restriction_of_none pub hg] at h
    rw [restriction_of_none pub none']
    cases h
    rfl
  | some g =>
    obtain ⟨content, place, rest⟩ := g
    have some' : Tokens.group? .parenthesis (c.upTo k).rest =
        some (content, place, rest ++ k.tokens) := by
      rw [Cursor.rest_upTo, Tokens.group?_append, hg]
      rfl
    rcases restriction_of_group pub content place with all | ⟨r, hr⟩
    · rw [all s c rest hg] at h
      rw [all s _ _ some']
      cases h
      rfl
    · rw [hr s c rest hg] at h
      rw [hr s _ _ some', Cursor.stray_upTo]
      cases hr' : r c.stray with
      | error e => rw [hr'] at h; cases h
      | ok q => rw [hr'] at h; cases h; rfl

theorem shownVisibility_stops (k : Tail) : StopsAt k shownVisibility shownVisibility :=
  .bind (.peek rfl) fun _ =>
    .ite (.bind (.keyword _) fun _ => restriction_stops k _) (.pure _)

theorem exists_of_showsEmpty {ts : Tokens} (h : showsEmpty ts = true) :
    ∃ place rest, ts = .group .invisible [] place :: rest := by
  unfold showsEmpty at h
  split at h
  · exact ⟨_, _, rfl⟩
  · cases h

theorem showsEmpty_append {ts : Tokens} (h : ts ≠ []) (e : Tokens) :
    showsEmpty (ts ++ e) = showsEmpty ts := by
  cases ts with
  | nil => exact absurd rfl h
  | cons t ts =>
    cases t with
    | group d content place => cases d <;> cases content <;> rfl
    | ident | punct | literal => rfl

theorem visibility_of_empty {c : Cursor} (h : showsEmpty c.rest = true) (s : Scope) :
    visibility s c = .ok (.inherited, { c with rest := c.rest.tail }) := by
  rw [visibility, bind_apply, look, h]
  rfl

theorem visibility_of_shown {c : Cursor} (h : showsEmpty c.rest = false) (s : Scope) :
    visibility s c = shownVisibility s c := by
  rw [visibility, bind_apply, look, h]
  rfl

theorem visibility_stops (k : Tail) : StopsAt k visibility visibility := by
  intro s c v c' h
  by_cases hn : c.rest = []
  · have before : showsEmpty c.rest = false := by rw [hn]; rfl
    have after : showsEmpty (c.upTo k).rest = false := by rw [Cursor.rest_upTo, hn]; rfl
    rw [visibility_of_shown before] at h
    rw [visibility_of_shown after]
    exact shownVisibility_stops k s c v c' h
  · have same : showsEmpty (c.upTo k).rest = showsEmpty c.rest := by
      rw [Cursor.rest_upTo, showsEmpty_append hn]
    by_cases he : showsEmpty c.rest = true
    · rw [visibility_of_empty he] at h
      rw [visibility_of_empty (same.trans he), Cursor.rest_upTo, List.tail_append_of_ne_nil hn]
      cases h
      rfl
    · rw [Bool.not_eq_true] at he
      rw [visibility_of_shown he] at h
      rw [visibility_of_shown (same.trans he)]
      exact shownVisibility_stops k s c v c' h

/-! ## In front of something else -/

theorem restriction_append {pub : Span} {ts e x : Tokens} {s : Scope} {v : Visibility}
    (h : restriction pub s ⟨ts ++ e, none⟩ = .ok (v, ⟨e, none⟩))
    (hx : Tokens.group? .parenthesis x = none) :
    restriction pub s ⟨ts ++ x, none⟩ = .ok (v, ⟨x, none⟩) := by
  have untouched (hu : restriction pub s ⟨ts ++ e, none⟩ = .ok (.everywhere pub, ⟨ts ++ e, none⟩)) :
      restriction pub s ⟨ts ++ x, none⟩ = .ok (v, ⟨x, none⟩) := by
    rw [hu, Except.ok.injEq, Prod.mk.injEq, Cursor.mk.injEq, List.append_left_eq_self] at h
    obtain ⟨rfl, rfl, -⟩ := h
    exact restriction_of_none pub hx
  cases hg : Tokens.group? .parenthesis (ts ++ e) with
  | none => exact untouched (restriction_of_none pub hg)
  | some g =>
    obtain ⟨content, place, rest⟩ := g
    rcases restriction_of_group pub content place with all | ⟨r, hr⟩
    · exact untouched (all s _ rest hg)
    · have front : (ts ++ e).enter = .group .parenthesis content place :: rest :=
        Tokens.enter_eq_of_group? (by decide) hg
      rw [hr s _ rest hg] at h
      cases hr' : r none with
      | error f => rw [hr'] at h; cases h
      | ok q =>
        obtain ⟨v', stray⟩ := q
        rw [hr'] at h
        cases h
        obtain ⟨us, hu, he⟩ := Tokens.enter_cancel front (Nat.le_refl _)
        have done : us = [] := List.append_left_eq_self.mp he.symm
        subst done
        rw [hr s _ x (Tokens.group?_of_enter (by decide) (Tokens.enter_append_of_cons hu x)), hr']
        rfl

theorem restriction_weight {pub : Span} {s : Scope} {c c' : Cursor} {v : Visibility}
    (h : restriction pub s c = .ok (v, c')) : c'.rest.weight ≤ c.rest.weight := by
  cases hg : Tokens.group? .parenthesis c.rest with
  | none =>
    rw [restriction_of_none pub hg] at h
    cases h
    exact Nat.le_refl _
  | some g =>
    obtain ⟨content, place, rest⟩ := g
    rcases restriction_of_group pub content place with all | ⟨r, hr⟩
    · rw [all s c rest hg] at h
      cases h
      exact Nat.le_refl _
    · rw [hr s c rest hg] at h
      cases hr' : r c.stray with
      | error f => rw [hr'] at h; cases h
      | ok q =>
        rw [hr'] at h
        cases h
        have less := Tokens.weight_enter c.rest
        rw [Tokens.enter_eq_of_group? (by decide) hg, Tokens.weight_cons] at less
        exact Nat.le_trans (Nat.le_add_left _ _) less

theorem keyword_apply {text : String} {s : Scope} {ts rest : Tokens} {place : Span}
    {stray : Option Fault} (h : ts.enter = .ident text place :: rest) :
    keyword text s ⟨ts, stray⟩ = .ok ([.ident text place], ⟨rest, stray⟩) := by
  have hw : Tokens.word? ts = some (⟨text, place⟩, rest) := Tokens.word?_of_enter h
  rw [keyword]
  simp only [hw, if_true]
  rfl

theorem shownVisibility_of_pub {s : Scope} {ts rest : Tokens} {place : Span}
    {stray : Option Fault} (h : ts.enter = .ident "pub" place :: rest) :
    shownVisibility s ⟨ts, stray⟩ = restriction place s ⟨rest, stray⟩ := by
  have hw : Tokens.word? ts = some (⟨"pub", place⟩, rest) := Tokens.word?_of_enter h
  have shows : (Sign.keyword "pub").shows ts = true := by simp [Sign.shows, hw]
  rw [shownVisibility, bind_apply, peek, look, shows]
  simp only [if_true]
  rw [bind_apply, keyword_apply h]
  simp only [Tokens.span_singleton, Token.span]

theorem shownVisibility_of_none {s : Scope} {c : Cursor}
    (h : (Sign.keyword "pub").shows c.rest = false) :
    shownVisibility s c = .ok (.inherited, c) := by
  rw [shownVisibility, bind_apply, peek, look, h]
  rfl

/-- How a visibility is written. Nothing, or a group that holds nothing, shows none; otherwise
`pub` stands in front. -/
theorem visibility_cases {ts e : Tokens} {s : Scope} {v : Visibility}
    (h : visibility s ⟨ts ++ e, none⟩ = .ok (v, ⟨e, none⟩)) :
    (v = .inherited ∧ (ts = [] ∨ ∃ place, ts = [.group .invisible [] place])) ∨
    ∃ place us, ts.enter = .ident "pub" place :: us ∧ showsEmpty ts = false ∧
      restriction place s ⟨us ++ e, none⟩ = .ok (v, ⟨e, none⟩) := by
  by_cases he : showsEmpty (ts ++ e) = true
  · rw [visibility_of_empty he, Except.ok.injEq, Prod.mk.injEq, Cursor.mk.injEq] at h
    obtain ⟨rfl, hts, -⟩ := h
    cases ts with
    | nil =>
      cases e with
      | nil => cases he
      | cons t e => exact absurd hts.symm (List.cons_ne_self t e)
    | cons t ts =>
      have alone : showsEmpty [t] = true := by
        rw [← he, ← showsEmpty_append (List.cons_ne_nil t []) (ts ++ e)]
        rfl
      have none' : ts = [] := List.append_left_eq_self.mp hts
      subst none'
      obtain ⟨place, rest, heq⟩ := exists_of_showsEmpty alone
      cases heq
      exact .inl ⟨rfl, .inr ⟨place, rfl⟩⟩
  · rw [Bool.not_eq_true] at he
    rw [visibility_of_shown he] at h
    cases shows : (Sign.keyword "pub").shows (ts ++ e) with
    | false =>
      rw [shownVisibility_of_none shows] at h
      rw [Except.ok.injEq, Prod.mk.injEq, Cursor.mk.injEq, List.append_left_eq_self] at h
      exact .inl ⟨h.1.symm, .inl h.2.1⟩
    | true =>
      obtain ⟨i, rest, hi, hw⟩ : ∃ i rest, i.text = "pub" ∧
          Tokens.word? (ts ++ e) = some (i, rest) := by
        rw [Sign.shows, Option.any_eq_true] at shows
        obtain ⟨w, hw, ht⟩ := shows
        exact ⟨w.1, w.2, of_decide_eq_true ht, hw⟩
      have front : (ts ++ e).enter = .ident "pub" i.span :: rest := by
        rw [Tokens.enter_eq_of_word? hw, Ident.token, hi]
      rw [shownVisibility_of_pub front] at h
      obtain ⟨us, hu, rfl⟩ := Tokens.enter_cancel front (restriction_weight h)
      have some' : ts ≠ [] := by
        rintro rfl
        cases hu
      exact .inr ⟨i.span, us, hu, by rw [← showsEmpty_append some' e, he], h⟩

/-- **Visibilities stand alone.** A visibility that is read in front of some tokens is read in
front of any others that begin with a word, `pub` apart. -/
theorem visibility_append {ts e : Tokens} {s : Scope} {v : Visibility} {text : String}
    {place : Span} (h : visibility s ⟨ts ++ e, none⟩ = .ok (v, ⟨e, none⟩)) (hp : text ≠ "pub")
    (x : Tokens) :
    visibility s ⟨ts ++ .ident text place :: x, none⟩ =
      .ok (v, ⟨.ident text place :: x, none⟩) := by
  rcases visibility_cases h with ⟨rfl, rfl | ⟨place', rfl⟩⟩ | ⟨place', us, hu, he, hr⟩
  · have other : (Sign.keyword "pub").shows (.ident text place :: x) = false := by
      have hw : Tokens.word? (.ident text place :: x) = some (⟨text, place⟩, x) :=
        Tokens.word?_of_enter rfl
      simp [Sign.shows, hw, hp]
    rw [List.nil_append, visibility_of_shown rfl, shownVisibility_of_none other]
  · rfl
  · have front : (ts ++ .ident text place :: x).enter =
        .ident "pub" place' :: (us ++ .ident text place :: x) :=
      Tokens.enter_append_of_cons hu _
    have some' : ts ≠ [] := by
      rintro rfl
      cases hu
    have hidden : showsEmpty (ts ++ .ident text place :: x) = false := by
      rw [showsEmpty_append some', he]
    rw [visibility_of_shown hidden, shownVisibility_of_pub front]
    exact restriction_append hr rfl

/-- A word stands in front of a word or of a visibility before it. -/
theorem enter_visibility_append {ts e : Tokens} {s : Scope} {v : Visibility}
    (h : visibility s ⟨ts ++ e, none⟩ = .ok (v, ⟨e, none⟩)) (text : String) (place : Span)
    (x : Tokens) :
    ∃ i rest, (ts ++ .ident text place :: x).enter = Ident.token i :: rest := by
  rcases visibility_cases h with ⟨-, rfl | ⟨place', rfl⟩⟩ | ⟨place', us, hu, -⟩
  · exact ⟨⟨text, place⟩, x, rfl⟩
  · exact ⟨⟨text, place⟩, x, rfl⟩
  · exact ⟨⟨"pub", place'⟩, _, Tokens.enter_append_of_cons hu _⟩

end Grammar

end TypedId
