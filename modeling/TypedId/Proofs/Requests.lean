/-
Requests: what both ways of declaring an identifier type are told, and the
tokens that say so to either. The marks and fixed words stand wherever a
`Layout` puts them; the visibility, the raw type, the traits and the text of
the crate path are the same tokens in both forms. The lists of options are
read back here: `elements_read` for the traits.
-/
import TypedId.Expansion
import TypedId.Proofs.Names
import TypedId.Proofs.PathLists
import TypedId.Proofs.Visibility

namespace TypedId

/-! ## Rounds of a loop -/

namespace Reader

/-- The loop ends in just so many rounds, with a value or a fault. -/
inductive Ends {σ α : Type} (round : σ → Reader (Round σ α)) (s : Scope) :
    Nat → σ → Cursor → Except Fault (α × Cursor) → Prop
  | done {state a c c'} (h : round state s c = .ok (.done a, c')) :
      Ends round s 1 state c (.ok (a, c'))
  | fault {state c f} (h : round state s c = .error f) : Ends round s 1 state c (.error f)
  | again {state state' c c' n r} (h : round state s c = .ok (.again state', c'))
      (rest : Ends round s n state' c' r) : Ends round s (n + 1) state c r

theorem go_of_ends {σ α : Type} {round : σ → Reader (Round σ α)} {s : Scope} {n : Nat} {state : σ}
    {c : Cursor} {r : Except Fault (α × Cursor)} (h : Ends round s n state c r) {fuel : Nat}
    (hn : n ≤ fuel) : loop.go round fuel state s c = r := by
  induction h generalizing fuel with
  | done h =>
    obtain ⟨m, rfl⟩ := Nat.exists_eq_add_of_le' hn
    rw [loop.go, bind_apply, h]
    rfl
  | fault h =>
    obtain ⟨m, rfl⟩ := Nat.exists_eq_add_of_le' hn
    rw [loop.go, bind_apply, h]
  | again h rest ih =>
    obtain ⟨m, rfl⟩ := Nat.exists_eq_add_of_le' hn
    rw [← Nat.add_assoc, loop.go, bind_apply, h]
    exact ih (Nat.le_add_left _ _)

theorem loop_of_ends {σ α : Type} {round : σ → Reader (Round σ α)} {s : Scope} {n : Nat}
    {state : σ} {c : Cursor} {r : Except Fault (α × Cursor)} (h : Ends round s n state c r)
    (hn : n ≤ c.weight + 1) : loop round state s c = r :=
  go_of_ends h hn

end Reader

/-! ## Paths of words -/

/-- A mark: whether another one follows it directly, and its place. -/
structure Mark where
  joint : Bool
  place : Span

def Mark.token (m : Mark) (c : Char) : Token := .punct c m.joint m.place

/-- A double colon. -/
structure Colons where
  first : Span
  second : Mark

namespace Colons

def tokens (c : Colons) : Tokens := [.punct ':' true c.first, c.second.token ':']

def place (c : Colons) : Span := c.first.join c.second.place

end Colons

/-- A path without generic arguments, as it is written. -/
structure PlainPath where
  absolute : Option Colons
  first : Ident
  others : List (Colons × Ident)

namespace PlainPath

def tokens (p : PlainPath) : Tokens :=
  (p.absolute.map Colons.tokens).getD [] ++
    p.first.token :: p.others.flatMap fun q => q.1.tokens ++ [q.2.token]

def path (p : PlainPath) : Path :=
  ⟨p.absolute.map Colons.place, ⟨p.first, .none⟩, p.others.map fun q => ⟨q.2, .none⟩⟩

theorem exists_tokens (p : PlainPath) : ∃ t ts, p.tokens = t :: ts := by
  obtain ⟨absolute, first, others⟩ := p
  cases absolute <;> exact ⟨_, _, rfl⟩

end PlainPath

open Reader

theorem words_shown (others : List (Colons × Ident)) (rest : Tokens) :
    Tokens.Words ((others.flatMap fun q => q.1.tokens ++ [q.2.token]) ++ rest)
      (others.map (·.2)) rest := by
  induction others with
  | nil => exact .nil
  | cons q others ih =>
    have colons : Tokens.DoubleColon
        (((q :: others).flatMap fun q => q.1.tokens ++ [q.2.token]) ++ rest) q.1.place
        (q.2.token :: ((others.flatMap fun q => q.1.tokens ++ [q.2.token]) ++ rest)) :=
      ⟨q.1.first, _, q.1.second.joint, q.1.second.place, rfl, rfl, rfl⟩
    exact .cons colons rfl ih

theorem PlainPath.shown (p : PlainPath) (rest : Tokens) :
    Tokens.PathAt (p.tokens ++ rest) p.path rest := by
  obtain ⟨absolute, first, others⟩ := p
  have words := words_shown others rest
  have path : PlainPath.path ⟨absolute, first, others⟩ =
      .ofWords (absolute.map Colons.place) first (others.map (·.2)) := by
    simp [PlainPath.path, Path.ofWords]
  rw [path, PlainPath.tokens, List.append_assoc, List.cons_append]
  cases absolute with
  | none => exact .mk rfl rfl words
  | some c =>
    exact .mk ⟨c.first, _, c.second.joint, c.second.place, rfl, rfl, rfl⟩ rfl words

theorem path_read (p : PlainPath) (s : Scope) {rest : Tokens} (stray : Option Fault)
    (h : (Sign.operator "::").shows rest = false) :
    Options.path s ⟨p.tokens ++ rest, stray⟩ = .ok (p.path, ⟨rest, stray⟩) :=
  path_eq_ok_iff.mpr ⟨rest, p.shown rest, h, rfl⟩

/-! ## Lists of traits -/

/-- At least one trait, parted by commas. -/
structure TraitList where
  first : PlainPath
  others : List (Mark × PlainPath)

namespace TraitList

def tokens (l : TraitList) : Tokens :=
  l.first.tokens ++ l.others.flatMap fun q => q.1.token ',' :: q.2.tokens

def capabilities (l : TraitList) : List Capability :=
  ⟨l.first.path⟩ :: l.others.map fun q => ⟨q.2.path⟩

end TraitList

theorem TraitList.shown (l : TraitList) :
    l.tokens.Paths (l.first.path :: l.others.map fun q => q.2.path) := by
  obtain ⟨first, others⟩ := l
  induction others generalizing first with
  | nil => exact .last (first.shown [])
  | cons q others ih =>
    have comma : Tokens.Comma (q.1.token ',' :: TraitList.tokens ⟨q.2, others⟩)
        (TraitList.tokens ⟨q.2, others⟩) := ⟨q.1.joint, q.1.place, rfl⟩
    exact .cons (first.shown _) comma (ih q.2)

theorem elements_read (l : TraitList) (read : List Capability) (s : Scope) (stray : Option Fault) :
    Options.elements Options.capability read s ⟨l.tokens, stray⟩ =
      .ok (read ++ l.capabilities, ⟨[], stray⟩) := by
  obtain ⟨t, ts, ht⟩ := l.first.exists_tokens
  have some' : l.tokens ≠ [] := by simp [TraitList.tokens, ht]
  refine (elements_eq_ok_iff some').mpr ⟨_, l.shown, ?_, rfl⟩
  simp [TraitList.capabilities]

/-! ## Requests -/

/-- What is asked for in either form. The crate path is a literal with its place. -/
structure Request where
  visibility : Tokens
  rawType : Tokens
  name : String
  traits : Option TraitList
  cratePath : Option (String × Span)

/-- Where the marks and the fixed words of one form stand. -/
structure Layout where
  afterType : Mark
  afterName : Mark
  afterTraits : Mark
  hash : Mark
  equals : Mark
  semicolon : Mark
  crateWord : Span
  deriveWord : Span
  structWord : Span
  parens : Span
  brackets : Span
  name : Span

namespace Layout

variable (w : Layout)

def traitOption (l : TraitList) : Tokens :=
  [.ident "derive" w.deriveWord, .group .parenthesis l.tokens w.parens]

def crateOption (p : String × Span) : Tokens :=
  [.ident "crate" w.crateWord, w.equals.token '=', .literal p.1 p.2]

end Layout

namespace Request

variable (r : Request) (w : Layout)

/-- The options of the freestanding form. -/
def options : Tokens :=
  match r.traits, r.cratePath with
  | none, none => []
  | some l, none => w.traitOption l
  | none, some p => w.crateOption p
  | some l, some p => w.traitOption l ++ w.afterTraits.token ',' :: w.crateOption p

/-- The input of the freestanding form: `V T, "N", derive(…), crate = "…"`. -/
def input : Tokens :=
  r.visibility ++ (r.rawType ++ w.afterType.token ',' ::
    .literal ("\"" ++ r.name ++ "\"") w.name ::
    match r.options w with
    | [] => []
    | o :: os => w.afterName.token ',' :: o :: os)

/-- The arguments of the attached form: `T, crate = "…"`. -/
def arguments : Tokens :=
  r.rawType ++
    match r.cratePath with
    | none => []
    | some p => w.afterType.token ',' :: w.crateOption p

/-- The declaration of the attached form: `#[derive(…)] V struct N;`. -/
def item : Tokens :=
  (match r.traits with
    | none => []
    | some l => [w.hash.token '#', .group .bracket (w.traitOption l) w.brackets]) ++
  (r.visibility ++ [.ident "struct" w.structWord, .ident r.name w.name, w.semicolon.token ';'])

def capabilities : List Capability := (r.traits.map TraitList.capabilities).getD []

/-- What the parts of a request are read as. The visibility ends where the raw type begins, the
raw type is read whole, with nothing left behind it, and the name is an identifier. -/
structure Reads (v : Visibility) (t : RawType) : Prop where
  visibility : Grammar.visibility .top ⟨r.visibility ++ r.rawType, none⟩ =
    .ok (v, ⟨r.rawType, none⟩)
  rawType : Grammar.anyType .top ⟨r.rawType, none⟩ = .ok (t, ⟨[], none⟩)
  name : IsName r.name

end Request

/-! ## Reading the options -/

/-- The crate path that a literal gives. -/
def crateRead (p : String × Span) : Except Fault Path :=
  match textLiteral .top ⟨[.literal p.1 p.2], none⟩ with
  | .error f => .error f
  | .ok (l, _) => CratePath.ofLiteral l

/-- What a literal is read as does not hang on what is behind it. -/
theorem textLiteral_read (p : String × Span) (rest : Tokens) :
    textLiteral .top ⟨.literal p.1 p.2 :: rest, none⟩ =
      (textLiteral .top ⟨[.literal p.1 p.2], none⟩).map fun r => (r.1, ⟨rest, none⟩) := by
  have shown (rest : Tokens) : Sign.stringLiteral.shows (.literal p.1 p.2 :: rest) =
      decide (Token.Literal.kind p.1 = .string) := rfl
  simp only [textLiteral, bind_apply, literalOf, shown]
  cases decide (Token.Literal.kind p.1 = .string) <;> rfl

theorem givenPath_read (equals : Mark) (p : String × Span) (rest : Tokens) :
    Options.givenPath .top ⟨equals.token '=' :: .literal p.1 p.2 :: rest, none⟩ =
      (crateRead p).map fun path => (path, ⟨rest, none⟩) := by
  have mark : operator "=" .top ⟨equals.token '=' :: .literal p.1 p.2 :: rest, none⟩ =
      .ok ([.punct '=' false equals.place], ⟨.literal p.1 p.2 :: rest, none⟩) := rfl
  rw [Options.givenPath, bind_apply, mark, crateRead]
  simp only [bind_apply, textLiteral_read p rest]
  cases textLiteral .top ⟨[.literal p.1 p.2], none⟩ with
  | error f => rfl
  | ok r =>
    simp only [Except.map]
    cases CratePath.ofLiteral r.1 <;> rfl

/-- A group and what stands behind it. -/
theorem groupThen_read {α β : Type} {d : Delimiter} {p : Reader α} {after : Span → α → Reader β}
    {content : Tokens} {place : Span} {a : α} {b : β} {s : Scope} {rest : Tokens} {rest' : Tokens}
    (inner : p ⟨place.closing, d⟩ ⟨content, none⟩ = .ok (a, ⟨[], none⟩))
    (behind : after place a s ⟨rest, none⟩ = .ok (b, ⟨rest', none⟩)) :
    groupThen d p after s ⟨.group d content place :: rest, none⟩ = .ok (b, ⟨rest', none⟩) := by
  rw [groupThen]
  simp only [Tokens.group?_cons, inner, behind]
  rfl

theorem group_read {α : Type} {d : Delimiter} {p : Reader α} {content : Tokens} {place : Span}
    {a : α} (h : p ⟨place.closing, d⟩ ⟨content, none⟩ = .ok (a, ⟨[], none⟩)) (s : Scope)
    (rest : Tokens) :
    group d p s ⟨.group d content place :: rest, none⟩ = .ok ((place, a), ⟨rest, none⟩) :=
  groupThen_read h rfl

theorem option_derive (options : Options) (place : Span) (l : TraitList) (parens : Span) (s : Scope)
    (rest : Tokens) :
    Options.option .deriveAndCrate (.ofIdent ⟨"derive", place⟩) options s
        ⟨.group .parenthesis l.tokens parens :: rest, none⟩ =
      .ok ({ options with capabilities := options.capabilities ++ l.capabilities },
        ⟨rest, none⟩) := by
  have inner := group_read
    (elements_read l options.capabilities ⟨parens.closing, .parenthesis⟩ none) s rest
  have other : (Path.ofIdent ⟨"derive", place⟩).isIdent "crate" = false := rfl
  have derive : (Path.ofIdent ⟨"derive", place⟩).isIdent "derive" = true := rfl
  rw [Options.option, other, derive]
  simp only [Bool.false_eq_true, if_false, Bool.true_and, decide_true, if_true, bind_apply, inner]
  rfl

theorem option_crate (allowed : Allowed) (options : Options) (place : Span) (equals : Mark)
    (p : String × Span) (rest : Tokens) :
    Options.option allowed (.ofIdent ⟨"crate", place⟩) options .top
        ⟨equals.token '=' :: .literal p.1 p.2 :: rest, none⟩ =
      (crateRead p).map fun path =>
        ({ options with cratePath := some path }, ⟨rest, none⟩) := by
  have crate : (Path.ofIdent ⟨"crate", place⟩).isIdent "crate" = true := rfl
  rw [Options.option, crate, if_pos rfl, bind_apply, givenPath_read]
  cases crateRead p <;> rfl

/-- The crate path that a request gives, if it gives one. -/
def Request.pathRead (r : Request) : Except Fault (Option Path) :=
  match r.cratePath with
  | none => .ok none
  | some p => (crateRead p).map some

/-- A crate path ends the options. -/
theorem crate_ends (allowed : Allowed) (options : Options) (w : Layout) (p : String × Span) :
    Ends (Options.elements.round (Options.option allowed)) .top 1 options
      ⟨w.crateOption p, none⟩
      (((crateRead p).map fun path => { options with cratePath := some path }).map
        fun options => (options, ⟨[], none⟩)) := by
  have path : Options.path .top ⟨w.crateOption p, none⟩ =
      .ok (.ofIdent ⟨"crate", w.crateWord⟩, ⟨[w.equals.token '=', .literal p.1 p.2], none⟩) :=
    path_read ⟨none, ⟨"crate", w.crateWord⟩, []⟩ .top none rfl
  have round : Options.elements.round (Options.option allowed) options .top
      ⟨w.crateOption p, none⟩ = (crateRead p).map fun path =>
        (.done { options with cratePath := some path }, ⟨[], none⟩) := by
    rw [Options.elements.round, bind_apply, path]
    simp only [bind_apply, option_crate]
    cases crateRead p <;> rfl
  cases h : crateRead p with
  | error f =>
    rw [h] at round
    exact .fault round
  | ok given =>
    rw [h] at round
    exact .done round

/-- Two rounds are always allowed, since there is a token. -/
theorem ofTokens_of_ends {allowed : Allowed} {ts : Tokens} {n : Nat} {r : Except Fault Options}
    (hts : ts ≠ [])
    (h : Ends (Options.elements.round (Options.option allowed)) .top n .none ⟨ts, none⟩
      (r.map fun options => (options, ⟨[], none⟩))) (hn : n ≤ 2) :
    Options.ofTokens allowed ts = r := by
  obtain ⟨t, ts, rfl⟩ := List.exists_cons_of_ne_nil hts
  have rounds : n ≤ (Cursor.mk (t :: ts) none).weight + 1 := by
    have := Tokens.weight_pos t
    rw [Cursor.weight, Tokens.weight_cons]
    omega
  have read : Options.elements? (Options.option allowed) .none .top ⟨t :: ts, none⟩ =
      r.map fun options => (options, ⟨[], none⟩) := loop_of_ends h rounds
  rw [Options.ofTokens, run, runIn, read]
  cases r <;> rfl

/-- A crate path alone is an option of either form. -/
theorem crateOption_read (allowed : Allowed) (w : Layout) (p : String × Span) :
    Options.ofTokens allowed (w.crateOption p) =
      (crateRead p).map fun path => ⟨[], some path⟩ :=
  ofTokens_of_ends (List.cons_ne_nil _ _) (crate_ends allowed .none w p) (Nat.le_succ 1)

theorem derive_read (w : Layout) (l : TraitList) (rest : Tokens) :
    Options.path .top ⟨w.traitOption l ++ rest, none⟩ =
      .ok (.ofIdent ⟨"derive", w.deriveWord⟩,
        ⟨.group .parenthesis l.tokens w.parens :: rest, none⟩) :=
  path_read ⟨none, ⟨"derive", w.deriveWord⟩, []⟩ .top none rfl

theorem map_crateRead (cs : List Capability) (p : String × Span) :
    (crateRead p).map (fun path => (⟨cs, some path⟩ : Options)) =
      ((crateRead p).map some).map fun path => ⟨cs, path⟩ := by
  cases crateRead p <;> rfl

/-- The freestanding form lists the traits among its options. -/
theorem options_read (r : Request) (w : Layout) :
    Options.ofTokens .deriveAndCrate (r.options w) =
      r.pathRead.map fun path => ⟨r.capabilities, path⟩ := by
  obtain ⟨vis, raw, name, traits, cratePath⟩ := r
  rw [Request.options, Request.pathRead, Request.capabilities]
  match traits, cratePath with
  | none, none => rfl
  | none, some p => exact (crateOption_read .deriveAndCrate w p).trans (map_crateRead [] p)
  | some l, none =>
    refine ofTokens_of_ends (List.cons_ne_nil _ _) (.done ?_) (Nat.le_succ 1)
    have path := derive_read w l []
    rw [List.append_nil] at path
    rw [Options.elements.round, bind_apply, path]
    simp only [bind_apply, option_derive]
    rfl
  | some l, some p =>
    have step : Options.elements.round (Options.option .deriveAndCrate) .none .top
        ⟨w.traitOption l ++ w.afterTraits.token ',' :: w.crateOption p, none⟩ =
          .ok (.again ⟨l.capabilities, none⟩, ⟨w.crateOption p, none⟩) := by
      rw [Options.elements.round, bind_apply, derive_read]
      simp only [bind_apply, option_derive]
      rfl
    exact (ofTokens_of_ends (List.cons_ne_nil _ _)
      (.again step (crate_ends .deriveAndCrate ⟨l.capabilities, none⟩ w p)) (Nat.le_refl 2)).trans
      (map_crateRead l.capabilities p)

end TypedId
