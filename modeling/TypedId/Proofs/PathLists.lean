/-
The lists of paths that derive attributes hold. Such a list is told as a
grammar on what shows in front (`Tokens.Paths`): paths of words parted by
commas, with a last comma or without. `Attribute.derived_eq_ok_iff`: just these
lists are read, and each gives its paths.
-/
import TypedId.Proofs.Steps

namespace TypedId

/-- The path of these words. -/
def Path.ofWords (absolute : Option Span) (first : Ident) (others : List Ident) : Path :=
  ⟨absolute, ⟨first, .none⟩, others.map fun i => ⟨i, .none⟩⟩

namespace Tokens

/-! ## The grammar -/

/-- Words behind double colons, and what follows them. -/
inductive Words : Tokens → List Ident → Tokens → Prop
  | nil {ts : Tokens} : Words ts [] ts
  | cons {ts mid mid' rest : Tokens} {place : Span} {i : Ident} {is : List Ident}
      (colons : ts.DoubleColon place mid) (word : mid.enter = i.token :: mid')
      (more : Words mid' is rest) : Words ts (i :: is) rest

/-- A double colon with this place, or none. -/
def Lead (ts : Tokens) (absolute : Option Span) (rest : Tokens) : Prop :=
  match absolute with
  | none => rest = ts
  | some place => ts.DoubleColon place rest

/-- A path, and what follows it. -/
inductive PathAt : Tokens → Path → Tokens → Prop
  | mk {ts us mid rest : Tokens} {absolute : Option Span} {i : Ident} {is : List Ident}
      (lead : ts.Lead absolute us) (word : us.enter = i.token :: mid) (more : Words mid is rest) :
      PathAt ts (.ofWords absolute i is) rest

/-- A list of paths up to the end. -/
inductive Paths : Tokens → List Path → Prop
  | nil : Paths [] []
  | last {ts : Tokens} {p : Path} (path : ts.PathAt p []) : Paths ts [p]
  | cons {ts mid rest : Tokens} {p : Path} {ps : List Path} (path : ts.PathAt p mid)
      (comma : mid.Comma rest) (more : Paths rest ps) : Paths ts (p :: ps)

theorem Words.weight_le {ts rest : Tokens} {is : List Ident} (h : Words ts is rest) :
    rest.weight ≤ ts.weight := by
  induction h with
  | nil => exact Nat.le_refl _
  | cons colons word more ih =>
    have first := colons.weight_lt
    have second := weight_lt_of_enter word
    omega

theorem Lead.weight_le {ts rest : Tokens} {absolute : Option Span} (h : ts.Lead absolute rest) :
    rest.weight ≤ ts.weight := by
  cases absolute with
  | none => exact Nat.le_of_eq (congrArg weight h)
  | some place => exact Nat.le_of_lt (DoubleColon.weight_lt h)

theorem PathAt.weight_lt {ts rest : Tokens} {p : Path} (h : PathAt ts p rest) :
    rest.weight < ts.weight := by
  obtain ⟨lead, word, more⟩ := h
  have first := lead.weight_le
  have second := weight_lt_of_enter word
  have others := more.weight_le
  omega

theorem PathAt.ne_nil {ts rest : Tokens} {p : Path} (h : PathAt ts p rest) : ts ≠ [] := by
  rintro rfl
  exact absurd h.weight_lt (Nat.not_lt_zero _)

theorem not_shows_doubleColon {ts rest : Tokens} {t : Token} (h : ts.enter = t :: rest)
    (ht : ∀ place, t ≠ .punct ':' true place) : (Sign.operator "::").shows ts = false := by
  refine shows_doubleColon_eq_false_iff.mpr ?_
  rintro _ _ ⟨first, mid, joint, second, he, -⟩
  rw [he] at h
  cases h
  exact ht first rfl

theorem Comma.not_doubleColon {ts rest : Tokens} (h : ts.Comma rest) :
    (Sign.operator "::").shows ts = false := by
  obtain ⟨joint, place, he⟩ := h
  exact not_shows_doubleColon he (by simp)

theorem Comma.ne_nil {ts rest : Tokens} (h : ts.Comma rest) : ts ≠ [] := by
  rintro rfl
  exact absurd h.weight_lt (Nat.not_lt_zero _)

end Tokens

open Reader Tokens

variable {s : Scope} {ts : Tokens} {stray : Option Fault}

/-! ## Paths -/

theorem segments_again_iff {read state : Path} {c : Cursor} :
    Options.path.segments read s ⟨ts, stray⟩ = .ok (.again state, c) ↔
      ∃ place mid i rest, ts.DoubleColon place mid ∧ mid.enter = i.token :: rest ∧
        state = read.push ⟨i, .none⟩ ∧ c = ⟨rest, stray⟩ := by
  rw [Options.path.segments, peek_bind]
  cases hs : (Sign.operator "::").shows ts with
  | false =>
    have none := shows_doubleColon_eq_false_iff.mp hs
    simp [none]
  | true =>
    simp only [if_true, bind_eq_ok_iff, separator_eq_ok_iff, pure_apply]
    constructor
    · rintro ⟨place, _, ⟨mid, colons, rfl⟩, i, c', hw, he⟩
      obtain ⟨rest, word, rfl⟩ := word_eq_ok_iff.mp hw
      cases he
      exact ⟨place, mid, i, rest, colons, word, rfl, rfl⟩
    · rintro ⟨place, mid, i, rest, colons, word, rfl, rfl⟩
      exact ⟨place, _, ⟨mid, colons, rfl⟩, i, _, word_eq_ok_iff.mpr ⟨rest, word, rfl⟩, rfl⟩

theorem segments_done_iff {read p : Path} {c : Cursor} :
    Options.path.segments read s ⟨ts, stray⟩ = .ok (.done p, c) ↔
      (Sign.operator "::").shows ts = false ∧ p = read ∧ c = ⟨ts, stray⟩ := by
  rw [Options.path.segments, peek_bind]
  cases hs : (Sign.operator "::").shows ts with
  | false => simp [eq_comm]
  | true =>
    simp only [if_true, bind_eq_ok_iff, pure_apply, Bool.true_eq_false, false_and, iff_false]
    rintro ⟨_, _, -, _, _, -, h⟩
    cases h

theorem segments_lowers : Lowers Options.path.segments := by
  intro s state c state' c' h
  obtain ⟨place, mid, i, rest, colons, word, -, rfl⟩ := segments_again_iff.mp h
  exact Nat.lt_trans (weight_lt_of_enter word) colons.weight_lt

theorem loop_segments_eq_ok_iff {read p : Path} {c : Cursor} :
    loop Options.path.segments read s ⟨ts, stray⟩ = .ok (p, c) ↔
      ∃ is rest, Words ts is rest ∧ (Sign.operator "::").shows rest = false ∧
        p = { read with others := read.others ++ is.map fun i => ⟨i, .none⟩ } ∧
        c = ⟨rest, stray⟩ := by
  constructor
  · intro h
    induction hn : ts.weight using Nat.strongRecOn generalizing ts read with
    | ind n ih =>
      rcases (loop_eq_ok_iff segments_lowers).mp h with done | ⟨state, c', again, later⟩
      · obtain ⟨stop, rfl, rfl⟩ := segments_done_iff.mp done
        exact ⟨[], ts, .nil, stop, by simp, rfl⟩
      · obtain ⟨place, mid, i, mid', colons, word, rfl, rfl⟩ := segments_again_iff.mp again
        have less := Nat.lt_trans (weight_lt_of_enter word) colons.weight_lt
        obtain ⟨is, rest, words, stop, rfl, rfl⟩ := ih _ (hn ▸ less) later rfl
        exact ⟨i :: is, rest, .cons colons word words, stop, by simp [Path.push], rfl⟩
  · rintro ⟨is, rest, words, stop, rfl, rfl⟩
    induction words generalizing read with
    | nil =>
      refine (loop_eq_ok_iff segments_lowers).mpr (.inl (segments_done_iff.mpr ⟨stop, ?_, rfl⟩))
      simp
    | cons colons word more ih =>
      refine (loop_eq_ok_iff segments_lowers).mpr (.inr ⟨_, _,
        segments_again_iff.mpr ⟨_, _, _, _, colons, word, rfl, rfl⟩, ?_⟩)
      simpa [Path.push] using @ih (read.push _) stop

theorem separator?_eq_ok_iff {absolute : Option Span} {c : Cursor} :
    Grammar.separator? s ⟨ts, stray⟩ = .ok (absolute, c) ↔
      ∃ rest, ts.Lead absolute rest ∧
        (absolute = none → (Sign.operator "::").shows ts = false) ∧ c = ⟨rest, stray⟩ := by
  rw [Grammar.separator?, peek_bind]
  cases hs : (Sign.operator "::").shows ts with
  | false =>
    have none := shows_doubleColon_eq_false_iff.mp hs
    cases absolute <;> simp [Lead, none, eq_comm]
  | true =>
    simp only [if_true, bind_eq_ok_iff, separator_eq_ok_iff, pure_apply]
    constructor
    · rintro ⟨place, _, ⟨rest, colons, rfl⟩, h⟩
      cases h
      exact ⟨rest, colons, by simp, rfl⟩
    · rintro ⟨rest, lead, plain, rfl⟩
      cases absolute with
      | none => cases plain rfl
      | some place => exact ⟨place, _, ⟨rest, lead, rfl⟩, rfl⟩

/-- A path is read as far as it goes. -/
theorem path_eq_ok_iff {p : Path} {c : Cursor} :
    Options.path s ⟨ts, stray⟩ = .ok (p, c) ↔
      ∃ rest, ts.PathAt p rest ∧ (Sign.operator "::").shows rest = false ∧ c = ⟨rest, stray⟩ := by
  rw [Options.path, bind_eq_ok_iff]
  constructor
  · rintro ⟨absolute, _, ha, h⟩
    obtain ⟨us, lead, -, rfl⟩ := separator?_eq_ok_iff.mp ha
    rw [peek_bind] at h
    split at h
    · obtain ⟨i, _, hi, hl⟩ := bind_eq_ok_iff.mp h
      obtain ⟨mid, word, rfl⟩ := word_eq_ok_iff.mp hi
      obtain ⟨is, rest, words, stop, rfl, rfl⟩ := loop_segments_eq_ok_iff.mp hl
      exact ⟨rest, .mk lead word words, stop, rfl⟩
    · -- something else than a word is in front
      rw [atEnd_bind] at h
      split at h
      · cases h
      · rw [peek_bind] at h
        split at h <;> cases h
  · rintro ⟨rest, ⟨lead, word, words⟩, stop, rfl⟩
    next us mid absolute i is =>
    have plain : absolute = none → (Sign.operator "::").shows ts = false := by
      rintro rfl
      exact not_shows_doubleColon (lead ▸ word) (by simp [Ident.token])
    refine ⟨absolute, _, separator?_eq_ok_iff.mpr ⟨us, lead, plain, rfl⟩, ?_⟩
    rw [peek_bind, if_pos (shows_word_iff.mpr ⟨i, mid, word⟩)]
    exact bind_eq_ok_iff.mpr ⟨i, _, word_eq_ok_iff.mpr ⟨mid, word, rfl⟩,
      loop_segments_eq_ok_iff.mpr ⟨is, rest, words, stop, rfl, rfl⟩⟩

/-! ## Lists -/

theorem capability_bind {β : Type} (p : Path) (read : List Capability)
    (f : List Capability → Reader β) (c : Cursor) :
    (Options.capability p read >>= f) s c = f (read ++ [⟨p⟩]) s c := rfl

/-- A round takes a path and the comma behind it, if there is one. -/
theorem round_eq_ok_iff {read : List Capability} {r : Round (List Capability) (List Capability)}
    {c : Cursor} :
    Options.elements.round Options.capability read s ⟨ts, stray⟩ = .ok (r, c) ↔
      ∃ p mid, ts.PathAt p mid ∧
        (mid = [] ∧ r = .done (read ++ [⟨p⟩]) ∧ c = ⟨[], stray⟩ ∨
        ∃ rest, mid.Comma rest ∧ c = ⟨rest, stray⟩ ∧
          r = if rest.isEmpty then .done (read ++ [⟨p⟩]) else .again (read ++ [⟨p⟩])) := by
  rw [Options.elements.round, bind_eq_ok_iff]
  constructor
  · rintro ⟨p, _, hp, h⟩
    obtain ⟨mid, path, -, rfl⟩ := path_eq_ok_iff.mp hp
    refine ⟨p, mid, path, ?_⟩
    rw [capability_bind, atEnd_bind] at h
    cases mid with
    | nil => cases h; exact .inl ⟨rfl, rfl, rfl⟩
    | cons t mid =>
      obtain ⟨rest, comma, h⟩ := comma_bind_eq_ok_iff.mp h
      rw [atEnd_bind] at h
      refine .inr ⟨rest, comma, ?_⟩
      cases rest <;> (cases h; exact ⟨rfl, rfl⟩)
  · rintro ⟨p, mid, path, ⟨rfl, rfl, rfl⟩ | ⟨rest, comma, rfl, rfl⟩⟩
    · exact ⟨p, _, path_eq_ok_iff.mpr ⟨[], path, rfl, rfl⟩, rfl⟩
    · refine ⟨p, _, path_eq_ok_iff.mpr ⟨mid, path, comma.not_doubleColon, rfl⟩, ?_⟩
      rw [capability_bind, atEnd_bind]
      cases mid with
      | nil => exact absurd rfl comma.ne_nil
      | cons t mid =>
        refine comma_bind_eq_ok_iff.mpr ⟨rest, comma, ?_⟩
        rw [atEnd_bind]
        cases rest <;> rfl

theorem round_again_iff {read state : List Capability} {c : Cursor} :
    Options.elements.round Options.capability read s ⟨ts, stray⟩ = .ok (.again state, c) ↔
      ∃ p mid rest, ts.PathAt p mid ∧ mid.Comma rest ∧ rest ≠ [] ∧ state = read ++ [⟨p⟩] ∧
        c = ⟨rest, stray⟩ := by
  rw [round_eq_ok_iff]
  constructor
  · rintro ⟨p, mid, path, ⟨-, h, -⟩ | ⟨rest, comma, rfl, h⟩⟩
    · cases h
    · cases rest with
      | nil => cases h
      | cons t rest => cases h; exact ⟨p, mid, _, path, comma, List.cons_ne_nil _ _, rfl, rfl⟩
  · rintro ⟨p, mid, rest, path, comma, more, rfl, rfl⟩
    exact ⟨p, mid, path, .inr ⟨rest, comma, rfl, by simp [more]⟩⟩

theorem round_done_iff {read cs : List Capability} {c : Cursor} :
    Options.elements.round Options.capability read s ⟨ts, stray⟩ = .ok (.done cs, c) ↔
      ∃ p mid, ts.PathAt p mid ∧ (mid = [] ∨ mid.Comma []) ∧ cs = read ++ [⟨p⟩] ∧
        c = ⟨[], stray⟩ := by
  rw [round_eq_ok_iff]
  constructor
  · rintro ⟨p, mid, path, ⟨rfl, h, rfl⟩ | ⟨rest, comma, rfl, h⟩⟩
    · cases h
      exact ⟨p, [], path, .inl rfl, rfl, rfl⟩
    · cases rest with
      | nil => cases h; exact ⟨p, mid, path, .inr comma, rfl, rfl⟩
      | cons t rest => cases h
  · rintro ⟨p, mid, path, rfl | comma, rfl, rfl⟩
    · exact ⟨p, [], path, .inl ⟨rfl, rfl, rfl⟩⟩
    · exact ⟨p, mid, path, .inr ⟨[], comma, rfl, rfl⟩⟩

theorem round_lowers : Lowers (Options.elements.round Options.capability) := by
  intro s state c state' c' h
  obtain ⟨p, mid, rest, path, comma, -, -, rfl⟩ := round_again_iff.mp h
  exact Nat.lt_trans comma.weight_lt path.weight_lt

theorem elements_eq_ok_iff {read cs : List Capability} {c : Cursor} (hts : ts ≠ []) :
    Options.elements Options.capability read s ⟨ts, stray⟩ = .ok (cs, c) ↔
      ∃ ps, ts.Paths ps ∧ cs = read ++ ps.map Capability.mk ∧ c = ⟨[], stray⟩ := by
  rw [Options.elements]
  constructor
  · intro h
    induction hn : ts.weight using Nat.strongRecOn generalizing ts read with
    | ind n ih =>
      rcases (loop_eq_ok_iff round_lowers).mp h with done | ⟨state, c', again, later⟩
      · obtain ⟨p, mid, path, stop, rfl, rfl⟩ := round_done_iff.mp done
        refine ⟨[p], ?_, rfl, rfl⟩
        rcases stop with rfl | comma
        · exact .last path
        · exact .cons path comma .nil
      · obtain ⟨p, mid, rest, path, comma, more, rfl, rfl⟩ := round_again_iff.mp again
        have less := Nat.lt_trans comma.weight_lt path.weight_lt
        obtain ⟨ps, paths, rfl, rfl⟩ := ih _ (hn ▸ less) more later rfl
        exact ⟨p :: ps, .cons path comma paths, by simp, rfl⟩
  · rintro ⟨ps, paths, rfl, rfl⟩
    induction paths generalizing read with
    | nil => exact absurd rfl hts
    | last path =>
      refine (loop_eq_ok_iff round_lowers).mpr (.inl (round_done_iff.mpr ?_))
      exact ⟨_, [], path, .inl rfl, rfl, rfl⟩
    | @cons ts mid rest p ps path comma more ih =>
      -- a comma at the end is read in the round of the path before it
      by_cases hr : rest = []
      · subst hr
        cases more with
        | nil =>
          refine (loop_eq_ok_iff round_lowers).mpr (.inl (round_done_iff.mpr ?_))
          exact ⟨p, mid, path, .inr comma, rfl, rfl⟩
        | last path' => exact absurd rfl path'.ne_nil
        | cons path' => exact absurd rfl path'.ne_nil
      · refine (loop_eq_ok_iff round_lowers).mpr (.inr ⟨_, _,
          round_again_iff.mpr ⟨p, mid, rest, path, comma, hr, rfl, rfl⟩, ?_⟩)
        have later := @ih (read ++ [⟨p⟩]) hr
        rwa [List.append_assoc] at later

theorem elements?_eq_ok_iff {cs : List Capability} {c : Cursor} :
    Options.elements? Options.capability [] s ⟨ts, stray⟩ = .ok (cs, c) ↔
      ∃ ps, ts.Paths ps ∧ cs = ps.map Capability.mk ∧ c = ⟨[], stray⟩ := by
  rw [Options.elements?, atEnd_bind]
  cases ts with
  | nil =>
    constructor
    · intro h
      cases h
      exact ⟨[], .nil, rfl, rfl⟩
    · rintro ⟨ps, paths, rfl, rfl⟩
      cases paths with
      | nil => rfl
      | last path => exact absurd rfl path.ne_nil
      | cons path => exact absurd rfl path.ne_nil
  | cons t ts => exact elements_eq_ok_iff (List.cons_ne_nil t ts)

/-- **Which derive attributes can be read.** Those with a delimited list of paths, and the list
gives its paths in order. -/
theorem Attribute.derived_eq_ok_iff {a : Attribute} {cs : List Capability} :
    a.derived = .ok cs ↔ ∃ d content place ps, a.body = .list d content place ∧
      Tokens.Paths content ps ∧ cs = ps.map Capability.mk := by
  rw [Attribute.derived]
  cases a.body with
  | bare => simp
  | value => simp
  | list d content place =>
    simp only [runIn_eq_ok_iff, elements?_eq_ok_iff]
    constructor
    · rintro ⟨rest, ⟨ps, paths, rfl, -⟩, -⟩
      exact ⟨d, content, place, ps, rfl, paths, rfl⟩
    · rintro ⟨_, _, _, ps, ⟨⟩, paths, rfl⟩
      exact ⟨[], ⟨ps, paths, rfl, rfl⟩, rfl⟩

end TypedId
