/-
Lists of options, written and read. `reads_written`: what is written as a list
of traits and crate paths is read as all its traits in order and its last crate
path, however the traits are spread over options. Where only a crate path may
be given, just those lists are read that ask for no trait otherwise. That rests
on one step: an option for traits always adds some (`option_added`).
-/
import TypedId.Proofs.Requests

namespace TypedId

open Reader

namespace OptionList

/-! ## Options as they are written -/

/-- A string literal without a suffix, whose text is a path. -/
structure CrateLiteral where
  written : String
  place : Span
  text : String
  path : Path
  value : Token.Literal.stringValue? written = some (text, "")
  reads : CratePath.ofLiteral ⟨text, "", place⟩ = .ok path

theorem CrateLiteral.crateRead (l : CrateLiteral) :
    crateRead (l.written, l.place) = .ok l.path := by
  have text : textLiteral .top ⟨[.literal l.written l.place], none⟩ =
      .ok (⟨l.text, "", l.place⟩, ⟨[], none⟩) :=
    textLiteral_eq_ok_iff.mpr ⟨[], ⟨l.written, rfl, l.value⟩, rfl⟩
  rw [TypedId.crateRead, text]
  exact l.reads

/-- One option, with the places of its words and marks. -/
inductive Entry where
  /-- This is `derive(…)`, with at least one trait. -/
  | traits (word : Span) (list : TraitList) (parens : Span)
  /-- This is `crate = "…"`. -/
  | crate (word : Span) (equals : Mark) (literal : CrateLiteral)

namespace Entry

/-- The word that an option begins with. -/
def word : Entry → Ident
  | .traits word _ _ => ⟨"derive", word⟩
  | .crate word _ _ => ⟨"crate", word⟩

/-- What is behind the word. -/
def argument : Entry → Tokens
  | .traits _ list parens => [.group .parenthesis list.tokens parens]
  | .crate _ equals literal => [equals.token '=', .literal literal.written literal.place]

def tokens (e : Entry) : Tokens := e.word.token :: e.argument

def capabilities : Entry → List Capability
  | .traits _ list _ => list.capabilities
  | .crate .. => []

def path? : Entry → Option Path
  | .traits .. => none
  | .crate _ _ literal => some literal.path

/-- The options with one more. -/
def onto (o : Options) : Entry → Options
  | .traits _ list _ => { o with capabilities := o.capabilities ++ list.capabilities }
  | .crate _ _ literal => { o with cratePath := some literal.path }

end Entry

/-- Options with the comma behind each, which may be left out behind the last. -/
def written (trailing : Bool) : List (Entry × Mark) → Tokens
  | [] => []
  | [(e, comma)] => e.tokens ++ if trailing then [comma.token ','] else []
  | (e, comma) :: next :: more => e.tokens ++ comma.token ',' :: written trailing (next :: more)

/-- All traits that are asked for, in order, and the last crate path. -/
def asked (es : List Entry) : Options where
  capabilities := es.flatMap Entry.capabilities
  cratePath := (es.filterMap Entry.path?).getLast?

theorem foldl_onto (es : List Entry) (o : Options) :
    es.foldl Entry.onto o =
      ⟨o.capabilities ++ (asked es).capabilities, (asked es).cratePath.or o.cratePath⟩ := by
  induction es generalizing o with
  | nil => simp [asked]
  | cons e es ih =>
    rw [List.foldl_cons, ih]
    cases e with
    | traits word list parens => simp [asked, Entry.onto, Entry.capabilities, Entry.path?]
    | crate word equals literal =>
      have last : ([literal.path] ++ es.filterMap Entry.path?).getLast? =
          (es.filterMap Entry.path?).getLast?.or (some literal.path) := List.getLast?_append
      simp only [List.singleton_append] at last
      simp [asked, Entry.onto, Entry.capabilities, Entry.path?, last]

/-! ## Reading what is written -/

theorem path_entry (e : Entry) (rest : Tokens) :
    Options.path .top ⟨e.tokens ++ rest, none⟩ =
      .ok (.ofIdent e.word, ⟨e.argument ++ rest, none⟩) := by
  cases e <;> exact path_read ⟨none, _, []⟩ .top none rfl

theorem option_entry (e : Entry) (o : Options) (rest : Tokens) :
    Options.option .deriveAndCrate (.ofIdent e.word) o .top ⟨e.argument ++ rest, none⟩ =
      .ok (e.onto o, ⟨rest, none⟩) := by
  cases e with
  | traits word list parens => exact option_derive o word list parens .top rest
  | crate word equals literal =>
    have read := option_crate .deriveAndCrate o word equals (literal.written, literal.place) rest
    rw [literal.crateRead] at read
    exact read

/-- How a round goes on behind its option. -/
def closing (o : Options) : Reader (Round Options Options) := do
  if ← atEnd then return .done o
  let _ ← operator ","
  if ← atEnd then return .done o else return .again o

theorem round_eq (allowed : Allowed) (o : Options) :
    Options.elements.round (Options.option allowed) o =
      Options.path >>= fun p => Options.option allowed p o >>= closing := rfl

theorem round_entry (e : Entry) (o : Options) (rest : Tokens) :
    Options.elements.round (Options.option .deriveAndCrate) o .top ⟨e.tokens ++ rest, none⟩ =
      closing (e.onto o) .top ⟨rest, none⟩ := by
  rw [round_eq, bind_apply, path_entry]
  simp only [bind_apply, option_entry]

theorem closing_comma (o : Options) (comma : Mark) (rest : Tokens) :
    closing o .top ⟨comma.token ',' :: rest, none⟩ =
      .ok (if rest.isEmpty then .done o else .again o, ⟨rest, none⟩) := by
  cases rest <;> rfl

theorem written_cons_ne_nil (trailing : Bool) (next : Entry × Mark) (more : List (Entry × Mark)) :
    written trailing (next :: more) ≠ [] := by
  cases more <;> exact List.cons_ne_nil _ _

/-- One round for each option. -/
theorem ends_written (trailing : Bool) (e : Entry × Mark) (es : List (Entry × Mark))
    (o : Options) :
    Ends (Options.elements.round (Options.option .deriveAndCrate)) .top (es.length + 1) o
      ⟨written trailing (e :: es), none⟩
      (.ok (((e :: es).map Prod.fst).foldl Entry.onto o, ⟨[], none⟩)) := by
  induction es generalizing e o with
  | nil =>
    refine .done ?_
    rw [written, round_entry]
    cases trailing <;> rfl
  | cons next more ih =>
    refine .again ?_ (ih next (e.1.onto o))
    have behind := written_cons_ne_nil trailing next more
    rw [written, round_entry, closing_comma, if_neg (by simpa using behind)]

theorem length_le_weight_written (trailing : Bool) (e : Entry × Mark) (es : List (Entry × Mark)) :
    es.length + 1 ≤ Tokens.weight (written trailing (e :: es)) := by
  induction es generalizing e with
  | nil =>
    have := Tokens.weight_pos e.1.word.token
    simp only [written, Entry.tokens, List.cons_append, Tokens.weight_cons, List.length_nil]
    omega
  | cons next more ih =>
    have := ih next
    simp only [written, Tokens.weight_append, Tokens.weight_cons, List.length_cons, Mark.token,
      Token.weight]
    omega

theorem ofTokens_written (trailing : Bool) (es : List (Entry × Mark)) :
    Options.ofTokens .deriveAndCrate (written trailing es) = .ok (asked (es.map Prod.fst)) := by
  cases es with
  | nil => rfl
  | cons e es =>
    have read := loop_of_ends (ends_written trailing e es .none)
      (Nat.le_succ_of_le (length_le_weight_written trailing e es))
    rw [foldl_onto] at read
    have all : Options.elements? (Options.option .deriveAndCrate) .none .top
        ⟨written trailing (e :: es), none⟩ = .ok (asked ((e :: es).map Prod.fst), ⟨[], none⟩) := by
      rw [Options.elements?, atEnd_bind, if_neg (by simpa using written_cons_ne_nil trailing e es),
        Options.elements, read]
      simp [Options.none]
    rw [Options.ofTokens, run, runIn, all]
    rfl

/-- One list of traits behind another. -/
def append (l : TraitList) (comma : Mark) (m : TraitList) : TraitList :=
  ⟨l.first, l.others ++ (comma, m.first) :: m.others⟩

theorem capabilities_append (l : TraitList) (comma : Mark) (m : TraitList) :
    (append l comma m).capabilities = l.capabilities ++ m.capabilities := by
  simp [append, TraitList.capabilities]

variable (before after : List Entry)

theorem asked_merge (w w₁ w₂ q q₁ q₂ : Span) (l : TraitList) (comma : Mark) (m : TraitList) :
    asked (before ++ .traits w (append l comma m) q :: after) =
      asked (before ++ .traits w₁ l q₁ :: .traits w₂ m q₂ :: after) := by
  simp only [asked, List.flatMap_append, List.flatMap_cons, Entry.capabilities,
    capabilities_append, List.append_assoc, List.filterMap_append, List.filterMap_cons, Entry.path?]

theorem asked_swap (w w' v v' q q' : Span) (e e' : Mark) (x : CrateLiteral) (l : TraitList) :
    asked (before ++ .crate w e x :: .traits v l q :: after) =
      asked (before ++ .traits v' l q' :: .crate w' e' x :: after) := by
  simp only [asked, List.flatMap_append, List.flatMap_cons, Entry.capabilities, List.nil_append,
    List.filterMap_append, List.filterMap_cons, Entry.path?]

/-! ## Crate paths only -/

variable {s : Scope} {c : Cursor} {p : Path} {o : Options}

/-- A list of traits that can be read holds one at least. -/
theorem elements_added {read cs : List Capability} {c' : Cursor}
    (h : Options.elements Options.capability read s c = .ok (cs, c')) :
    ∃ added, added ≠ [] ∧ cs = read ++ added := by
  obtain ⟨ts, stray⟩ := c
  by_cases hts : ts = []
  · subst hts
    rcases (loop_eq_ok_iff round_lowers).mp h with done | ⟨_, _, again, -⟩
    · obtain ⟨_, _, path, -⟩ := round_done_iff.mp done
      exact absurd rfl path.ne_nil
    · obtain ⟨_, _, _, path, -⟩ := round_again_iff.mp again
      exact absurd rfl path.ne_nil
  · obtain ⟨ps, paths, rfl, -⟩ := (elements_eq_ok_iff hts).mp h
    refine ⟨ps.map Capability.mk, ?_, rfl⟩
    cases paths with
    | nil => exact absurd rfl hts
    | last | cons => exact List.cons_ne_nil _ _

variable {r : Options × Cursor}

/-- An option for the crate path is the same in both forms. -/
theorem option_crate_eq (crate : p.isIdent "crate" = true) (allowed : Allowed) :
    Options.option allowed p o = Options.option .crateOnly p o := by
  rw [Options.option, Options.option, if_pos crate, if_pos crate]

theorem capabilities_of_crate (crate : p.isIdent "crate" = true) {allowed : Allowed}
    (h : Options.option allowed p o s c = .ok r) : r.1.capabilities = o.capabilities := by
  rw [Options.option, if_pos crate] at h
  obtain ⟨given, c', -, hr⟩ := bind_eq_ok_iff.mp h
  cases hr
  rfl

theorem isIdent_of_crateOnly (h : Options.option .crateOnly p o s c = .ok r) :
    p.isIdent "crate" = true := by
  by_contra other
  rw [Options.option, if_neg other] at h
  simp only [reduceCtorEq, decide_false, Bool.and_false, Bool.false_eq_true, if_false] at h
  cases h

/-- Any other option adds traits. -/
theorem option_added (other : p.isIdent "crate" ≠ true)
    (h : Options.option .deriveAndCrate p o s c = .ok r) :
    ∃ added, added ≠ [] ∧ r.1.capabilities = o.capabilities ++ added := by
  rw [Options.option, if_neg other] at h
  split at h
  · obtain ⟨⟨place, cs⟩, c', hg, hr⟩ := bind_eq_ok_iff.mp h
    cases hr
    obtain ⟨_, _, _, _, inner, _⟩ := group_of_ok hg
    exact elements_added inner
  · cases h

/-- Where only a crate path may be given, those options can be given that add no trait. -/
theorem option_crateOnly_iff :
    Options.option .crateOnly p o s c = .ok r ↔
      Options.option .deriveAndCrate p o s c = .ok r ∧ r.1.capabilities = o.capabilities := by
  constructor
  · intro h
    have crate := isIdent_of_crateOnly h
    exact ⟨option_crate_eq crate .deriveAndCrate ▸ h, capabilities_of_crate crate h⟩
  · rintro ⟨h, same⟩
    by_cases crate : p.isIdent "crate" = true
    · exact option_crate_eq crate .deriveAndCrate ▸ h
    · obtain ⟨added, some', more⟩ := option_added crate h
      rw [same] at more
      exact absurd (List.self_eq_append_right.mp more) some'

theorem option_grows (h : Options.option .deriveAndCrate p o s c = .ok r) :
    o.capabilities <+: r.1.capabilities := by
  by_cases crate : p.isIdent "crate" = true
  · exact capabilities_of_crate crate h ▸ List.prefix_refl _
  · obtain ⟨added, -, more⟩ := option_added crate h
    rw [more]
    exact List.prefix_append _ _

/-- The options when a round ends. -/
def reached : Round Options Options → Options
  | .again o => o
  | .done o => o

theorem reached_closing {q : Round Options Options × Cursor} (h : closing o s c = .ok q) :
    reached q.1 = o := by
  rw [closing, atEnd_bind] at h
  split at h
  · cases h
    rfl
  · obtain ⟨_, c', -, h⟩ := bind_eq_ok_iff.mp h
    rw [atEnd_bind] at h
    split at h <;> (cases h; rfl)

theorem round_eq_ok_iff {allowed : Allowed} {q : Round Options Options × Cursor} :
    Options.elements.round (Options.option allowed) o s c = .ok q ↔
      ∃ p c₁ o' c₂, Options.path s c = .ok (p, c₁) ∧
        Options.option allowed p o s c₁ = .ok (o', c₂) ∧ closing o' s c₂ = .ok q := by
  simp only [round_eq, bind_eq_ok_iff]
  constructor
  · rintro ⟨p, c₁, hp, o', c₂, ho, hq⟩
    exact ⟨p, c₁, o', c₂, hp, ho, hq⟩
  · rintro ⟨p, c₁, o', c₂, hp, ho, hq⟩
    exact ⟨p, c₁, hp, o', c₂, ho, hq⟩

theorem round_crateOnly_iff {q : Round Options Options × Cursor} :
    Options.elements.round (Options.option .crateOnly) o s c = .ok q ↔
      Options.elements.round (Options.option .deriveAndCrate) o s c = .ok q ∧
        (reached q.1).capabilities = o.capabilities := by
  simp only [round_eq_ok_iff, option_crateOnly_iff]
  constructor
  · rintro ⟨p, c₁, o', c₂, hp, ⟨ho, same⟩, hq⟩
    exact ⟨⟨p, c₁, o', c₂, hp, ho, hq⟩, (reached_closing hq).symm ▸ same⟩
  · rintro ⟨⟨p, c₁, o', c₂, hp, ho, hq⟩, same⟩
    exact ⟨p, c₁, o', c₂, hp, ⟨ho, reached_closing hq ▸ same⟩, hq⟩

theorem round_grows {q : Round Options Options × Cursor}
    (h : Options.elements.round (Options.option .deriveAndCrate) o s c = .ok q) :
    o.capabilities <+: (reached q.1).capabilities := by
  obtain ⟨p, c₁, o', c₂, -, ho, hq⟩ := round_eq_ok_iff.mp h
  rw [reached_closing hq]
  exact option_grows ho

theorem go_grows {n : Nat}
    (h : loop.go (Options.elements.round (Options.option .deriveAndCrate)) n o s c = .ok r) :
    o.capabilities <+: r.1.capabilities := by
  refine go_keeps (P := fun o' : Options => o.capabilities <+: o'.capabilities)
    (Q := fun o' : Options => o.capabilities <+: o'.capabilities) ?_ ?_ (List.prefix_refl _) h
  · exact fun before again => before.trans (round_grows again)
  · exact fun before done => before.trans (round_grows done)

/-- No round may add a trait, and if the whole loop adds none, then no round does: what was added
would stay in front. -/
theorem go_crateOnly_iff {n : Nat} :
    loop.go (Options.elements.round (Options.option .crateOnly)) n o s c = .ok r ↔
      loop.go (Options.elements.round (Options.option .deriveAndCrate)) n o s c = .ok r ∧
        r.1.capabilities = o.capabilities := by
  induction n generalizing o c with
  | zero =>
    constructor
    · intro h
      cases h
    · rintro ⟨⟨⟩, -⟩
  | succ n ih =>
    rw [go_succ_eq_ok_iff, go_succ_eq_ok_iff]
    simp only [round_crateOnly_iff, ih, reached]
    constructor
    · rintro (⟨done, same⟩ | ⟨o', c', ⟨again, same⟩, later, same'⟩)
      · exact ⟨.inl done, same⟩
      · exact ⟨.inr ⟨o', c', again, later⟩, same'.trans same⟩
    · rintro ⟨done | ⟨o', c', again, later⟩, same⟩
      · exact .inl ⟨done, same⟩
      · have first : o.capabilities <+: o'.capabilities := round_grows again
        have others : o'.capabilities <+: o.capabilities := same ▸ go_grows later
        have kept : o'.capabilities = o.capabilities :=
          others.eq_of_length_le first.length_le
        exact .inr ⟨o', c', ⟨again, kept⟩, later, same.trans kept.symm⟩

theorem ofTokens_crateOnly_iff {ts : Tokens} {o : Options} :
    Options.ofTokens .crateOnly ts = .ok o ↔
      Options.ofTokens .deriveAndCrate ts = .ok o ∧ o.capabilities = [] := by
  simp only [Options.ofTokens, run, runIn_eq_ok_iff]
  cases ts with
  | nil =>
    constructor
    · rintro ⟨rest, h, stop⟩
      cases h
      exact ⟨⟨[], rfl, rfl⟩, rfl⟩
    · rintro ⟨read, -⟩
      exact read
  | cons t ts =>
    have loops (allowed : Allowed) (rest : Tokens) :
        Options.elements? (Options.option allowed) .none .top ⟨t :: ts, none⟩ =
          .ok (o, ⟨rest, none⟩) ↔
        loop.go (Options.elements.round (Options.option allowed))
          ((Cursor.mk (t :: ts) none).weight + 1) .none .top ⟨t :: ts, none⟩ =
          .ok (o, ⟨rest, none⟩) := Iff.rfl
    simp only [loops, go_crateOnly_iff]
    constructor
    · rintro ⟨rest, ⟨read, same⟩, stop⟩
      exact ⟨⟨rest, read, stop⟩, same⟩
    · rintro ⟨⟨rest, read, stop⟩, same⟩
      exact ⟨rest, ⟨read, same⟩, stop⟩

/-! ## What options ask for -/

/-- **Options read back.** Options that are written one after another, with or without a last
comma, are read as all traits they list and the last crate path they give. So it is one whether
traits are listed in one option or in two, and on which side of them a crate path stands. Where
only a crate path may be given, an input gives one, or none, just if it does so in the other form
and asks for no trait there. -/
theorem reads_written :
    (∀ trailing es, Options.ofTokens .deriveAndCrate (written trailing es) =
      .ok {
        capabilities := (es.map Prod.fst).flatMap Entry.capabilities
        cratePath := ((es.map Prod.fst).filterMap Entry.path?).getLast? }) ∧
    (∀ trailing trailing' before after (w w₁ w₂ q q₁ q₂ : Span) (m m₁ m₂ comma : Mark)
      (l k : TraitList),
      Options.ofTokens .deriveAndCrate
          (written trailing (before ++ (.traits w (append l comma k) q, m) :: after)) =
        Options.ofTokens .deriveAndCrate
          (written trailing' (before ++ (.traits w₁ l q₁, m₁) :: (.traits w₂ k q₂, m₂) :: after))) ∧
    (∀ trailing trailing' before after (w w' v v' q q' : Span) (e e' m m' n n' : Mark)
      (x : CrateLiteral) (l : TraitList),
      Options.ofTokens .deriveAndCrate
          (written trailing (before ++ (.crate w e x, m) :: (.traits v l q, n) :: after)) =
        Options.ofTokens .deriveAndCrate
          (written trailing' (before ++ (.traits v' l q', n') :: (.crate w' e' x, m') :: after))) ∧
    ∀ ts p, (∃ o, Options.ofTokens .crateOnly ts = .ok o ∧ o.cratePath = p) ↔
      ∃ o, Options.ofTokens .deriveAndCrate ts = .ok o ∧ o.cratePath = p ∧ o.capabilities = [] := by
  refine ⟨ofTokens_written, ?_, ?_, fun ts p => ?_⟩
  · intros
    simp only [ofTokens_written, List.map_append, List.map_cons]
    exact congrArg Except.ok (asked_merge ..)
  · intros
    simp only [ofTokens_written, List.map_append, List.map_cons]
    exact congrArg Except.ok (asked_swap ..)
  · simp only [ofTokens_crateOnly_iff]
    constructor
    · rintro ⟨o, ⟨read, none⟩, path⟩
      exact ⟨o, read, path, none⟩
    · rintro ⟨o, read, path, none⟩
      exact ⟨o, ⟨read, none⟩, path⟩

/-- The literal `"ids"`. -/
def idsLiteral : CrateLiteral where
  written := "\"ids\""
  place := .callSite
  text := "ids"
  path := .ofIdent ⟨"ids", .callSite⟩
  value := by decide +kernel
  reads := by
    have word : IsIdent "ids" := by decide
    obtain ⟨place, lexed⟩ := lex_of_isIdent word ""
    have moved : Tokens.moveTo .callSite [.ident "ids" place] = [.ident "ids" .callSite] := by
      simp [Tokens.moveTo, Token.moveTo]
    have read : runIn ⟨.callSite, .invisible⟩ Grammar.anyPath [.ident "ids" .callSite] =
        .ok (.ofIdent ⟨"ids", .callSite⟩) := rfl
    simp only [CratePath.ofLiteral, lexed, moved, read]
    rfl

/-- `crate = "ids", derive(Clone),`. -/
theorem reads_written_ids :
    Options.ofTokens .deriveAndCrate [
        .ident "crate" .callSite, .punct '=' false .callSite, .literal "\"ids\"" .callSite,
        .punct ',' false .callSite, .ident "derive" .callSite,
        .group .parenthesis [.ident "Clone" .callSite] .callSite, .punct ',' false .callSite] =
      .ok ⟨[⟨.ofIdent ⟨"Clone", .callSite⟩⟩], some (.ofIdent ⟨"ids", .callSite⟩)⟩ :=
  reads_written.1 true [
    (.crate .callSite ⟨false, .callSite⟩ idsLiteral, ⟨false, .callSite⟩),
    (.traits .callSite ⟨⟨none, ⟨"Clone", .callSite⟩, []⟩, []⟩ .callSite, ⟨false, .callSite⟩)]

end OptionList

end TypedId
