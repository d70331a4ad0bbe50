/-
Readers of token sequences. A reader works inside one scope (a group, or the
whole input), takes tokens from the front of what is left there and gives a
value or a fault. Tokens that a group is left with are a fault too, but a
late one: reading goes on behind the group, any other fault comes first, and
only `Reader.run` reports the first such remainder.

Loops are bounded by the number of tokens left, which every round must
lower; a round that does not ends as `Complaint.stuck`.
-/
import TypedId.Fault

namespace TypedId

/-- What encloses the tokens that are being read. -/
structure Scope where
  /-- Where faults at the end point. -/
  close : Span
  delimiter : Delimiter
deriving Repr

namespace Scope

/-- A whole input: its end is the macro call. -/
def top : Scope := ⟨.callSite, .invisible⟩

end Scope

structure Cursor where
  rest : Tokens
  /-- The first remainder of a group that was closed too early. -/
  stray : Option Fault
deriving Repr

namespace Cursor

def weight (c : Cursor) : Nat := c.rest.weight

end Cursor

def Reader (α : Type) := Scope → Cursor → Except Fault (α × Cursor)

namespace Reader

instance : Monad Reader where
  pure a := fun _ c => .ok (a, c)
  bind p f := fun s c =>
    match p s c with
    | .ok (a, c') => f a s c'
    | .error e => .error e

/-- The first token left unread when a scope closes. Invisible groups count by what they hold, and
a token found inside one is not told which delimiter was due. -/
def remainder (delimiter : Delimiter) : Tokens → Option Fault
  | [] => none
  | .group .invisible content _ :: rest =>
    match (Token.enterAll content).head? with
    | some t => some (.placed t.span (.leftOver .invisible))
    | none => remainder delimiter rest
  | t :: _ => some (.placed t.span (.leftOver delimiter))

/-! ## Faults -/

/-- A fault at the next token. -/
def complain {α : Type} (complaint : Complaint) : Reader α :=
  fun s c => .error (.before s.close c.rest complaint)

/-- None of these signs follows. -/
def expected {α : Type} (signs : List Sign) : Reader α := complain (.expected signs)

/-- None of the other signs follows: those of the list that do follow do not fit for another
reason. -/
def expectedOthers {α : Type} (signs : List Sign) : Reader α := fun s c =>
  expected (signs.filter fun sign => !sign.shows c.rest) s c

/-- Nothing that could be named stands here; points at the whole of the next token. -/
def unexpected {α : Type} : Reader α := fun s c =>
  match c.rest with
  | [] => .error (.before s.close c.rest (.expected []))
  | t :: _ => .error (.placed t.span (.expected []))

def wanted {α : Type} (what : String) : Reader α := complain (.wanted what)

def failAt {α : Type} (span : Span) (complaint : Complaint) : Reader α :=
  fun _ _ => .error (.placed span complaint)

/-! ## Looking ahead -/

/-- A look at the tokens to come. -/
def look {α : Type} (f : Tokens → α) : Reader α := fun _ c => .ok (f c.rest, c)

/-- Whether nothing is left, not even an invisible group. -/
def atEnd : Reader Bool := look List.isEmpty

def peek (sign : Sign) : Reader Bool := look sign.shows

/-- Whether one of the signs follows. -/
def peekAny (signs : List Sign) : Reader Bool := look fun ts => signs.any (·.shows ts)

/-- Whether the sign follows behind the next token. -/
def peek2 (sign : Sign) : Reader Bool :=
  look fun ts => (Tokens.skip? ts).any sign.shows

/-- Whether the sign follows behind the next two tokens. -/
def peek3 (sign : Sign) : Reader Bool :=
  look fun ts => ((Tokens.skip? ts).bind Tokens.skip?).any sign.shows

/-- Whether a double colon follows with the sign behind it. -/
def peekBehind (sign : Sign) : Reader Bool := do
  return (← peek (.operator "::")) && (← peek3 sign)

/-- Where the next token is, or the end of the scope. -/
def here : Reader Span :=
  fun s c => .ok (match c.rest with
    | [] => s.close
    | t :: _ => t.errorSpan, c)

/-! ## Taking tokens -/

/-- An operator, mark by mark. A missing one is pointed at without a word about the end. -/
def operator (text : String) : Reader Tokens := fun s c =>
  match Tokens.operator? text.toList c.rest with
  | some (marks, rest) => .ok (marks, { c with rest })
  | none =>
    let place := match Tokens.mark? c.rest with
      | some (_, _, span, _) => span
      | none => (Fault.before s.close c.rest .stuck).span
    .error (.placed place (.expected [.operator text]))

def keyword (text : String) : Reader Tokens := fun s c =>
  match Tokens.word? c.rest with
  | some (w, rest) =>
    if w.text = text then .ok ([w.token], { c with rest })
    else .error (.before s.close c.rest (.expected [.keyword text]))
  | none => .error (.before s.close c.rest (.expected [.keyword text]))

/-- A word that is no keyword. -/
def identifier : Reader Ident := fun s c =>
  match Tokens.word? c.rest with
  | some (w, rest) =>
    if isKeyword w.text then .error (.before s.close c.rest (.keywordForIdentifier w.text))
    else .ok (w, { c with rest })
  | none => .error (.before s.close c.rest (.expected [.identifier]))

/-- Any word. -/
def word : Reader Ident := fun s c =>
  match Tokens.word? c.rest with
  | some (w, rest) => .ok (w, { c with rest })
  | none => .error (.before s.close c.rest (.wanted "ident"))

def lifetime : Reader Tokens := fun s c =>
  match Tokens.lifetime? c.rest with
  | some (ts, rest) => .ok (ts, { c with rest })
  | none => .error (.before s.close c.rest (.expected [.lifetime]))

/-- A literal, negative numbers and the two truth values included. -/
def literal : Reader Tokens := fun s c =>
  match Tokens.value? c.rest with
  | some (ts, rest) => .ok (ts, { c with rest })
  | none => .error (.before s.close c.rest (.expected [.literal]))

/-- A literal that shows the sign asked for. -/
def literalOf (sign : Sign) : Reader Tokens := fun s c =>
  if sign.shows c.rest then literal s c
  else .error (.before s.close c.rest (.expected [sign]))

/-- A group and what follows it as one piece: what `inner` leaves of the group is noted after the
remainders in `after`. -/
def groupThen {α β : Type} (d : Delimiter) (inner : Reader α) (after : Span → α → Reader β) :
    Reader β := fun s c =>
  match Tokens.group? d c.rest with
  | some (content, span, rest) =>
    match inner ⟨span.closing, d⟩ { c with rest := content } with
    | .ok (a, c') =>
      match after span a s { c' with rest } with
      | .ok (b, c'') => .ok (b, { c'' with stray := c''.stray <|> remainder d c'.rest })
      | .error e => .error e
    | .error e => .error e
  | none => .error (.before s.close c.rest (.expected [.group d]))

/-- A group and what `inner` makes of its contents. -/
def group {α : Type} (d : Delimiter) (inner : Reader α) : Reader (Span × α) :=
  groupThen d inner fun span a => pure (span, a)

/-- The token in front, if it is a group with visible delimiters, as it stands. -/
def anyGroup : Reader (Delimiter × Tokens × Span) := fun s c =>
  match c.rest with
  | .group d content span :: rest =>
    if d = .invisible then .error (.before s.close c.rest (.wanted "delimiter"))
    else .ok ((d, content, span), { c with rest })
  | _ => .error (.before s.close c.rest (.wanted "delimiter"))

/-- All tokens that are left, as they stand. -/
def remaining : Reader Tokens := fun _ c => .ok (c.rest, { c with rest := [] })

/-! ## Optional pieces -/

/-- The piece if its sign follows. -/
def optional (sign : Sign) (piece : Reader Tokens) : Reader Tokens := do
  if ← peek sign then piece else return []

/-- The operator if it follows. -/
def operator? (text : String) : Reader Tokens := optional (.operator text) (operator text)

/-- The keyword if it follows. -/
def keyword? (text : String) : Reader Tokens := optional (.keyword text) (keyword text)

/-! ## Trial reading -/

/-- Reads ahead on a copy; what is left over in groups there is forgotten. -/
def ahead {α : Type} (p : Reader α) : Reader α := fun s c =>
  match p s { c with stray := none } with
  | .ok (a, _) => .ok (a, c)
  | .error e => .error e

/-- A piece if it can be read; else nothing is taken. Reading that got stuck does not tell whether
the piece is there, and stays a fault. -/
def attempt {α : Type} (p : Reader α) : Reader (Option α) := fun s c =>
  match p s c with
  | .ok (a, c') => .ok (some a, c')
  | .error f => if f.complaint = .stuck then .error f else .ok (none, c)

/-- The tokens between two stages of reading, the earlier one given by its tokens, the later one
by their weight. A group that reading has left in the middle is an invisible one. -/
def between (stop : Nat) : Tokens → Tokens
  | [] => []
  | t :: ts =>
    if Tokens.weight (t :: ts) ≤ stop then []
    else if stop ≤ Tokens.weight ts then t :: between stop ts
    else
      match t with
      | .group _ content _ => between stop (content ++ ts)
      | t => [t]
termination_by ts => Tokens.weight ts
decreasing_by
  · simp only [Tokens.weight_cons]
    have := Tokens.weight_pos t
    omega
  · simp

/-- A value together with the tokens that it was read from, as they stood in the input. -/
def withSource {α : Type} (p : Reader α) : Reader (α × Tokens) := fun s c =>
  match p s c with
  | .ok (a, c') => .ok ((a, between c'.weight c.rest), c')
  | .error e => .error e

/-! ## Loops -/

/-- How a round of a loop ends. -/
inductive Round (σ α : Type) where
  | again (state : σ)
  | done (value : α)

/-- Repeats rounds until one is the last. -/
def loop {σ α : Type} (round : σ → Reader (Round σ α)) (state : σ) : Reader α := fun s c =>
  go (c.weight + 1) state s c
where
  go : Nat → σ → Reader α
    | 0, _ => complain .stuck
    | n + 1, state => do
      match ← round state with
      | .again state => go n state
      | .done a => return a

/-- Reads pieces one after another until a piece says that it is the last. -/
def pieces (piece : Reader (Tokens × Bool)) : Reader Tokens :=
  loop (fun read => do
    let (ts, more) ← piece
    return if more then .again (read ++ ts) else .done (read ++ ts)) []

/-- Reads items as long as `more` says so. -/
def whileM {α : Type} (more : Reader Bool) (item : Reader α) : Reader (List α) :=
  loop (fun read => do
    if ← more then return .again (read ++ [← item]) else return .done read) []

/-- Items parted by commas up to the end of the scope; the last one may have a comma too. -/
def commaList {α : Type} (item : Reader α) : Reader (List (α × Tokens)) :=
  loop (fun read => do
    if ← atEnd then return .done read
    let a ← item
    if ← atEnd then return .done (read ++ [(a, [])])
    let comma ← operator ","
    return .again (read ++ [(a, comma)])) []

/-- The tokens of a comma list, as they are written back. -/
def commaTokens (item : Reader Tokens) : Reader Tokens := do
  return (← commaList item).flatMap fun p => p.1 ++ p.2

/-- A group that is written back with the contents that `inner` gives. -/
def groupTokens (d : Delimiter) (inner : Reader Tokens) : Reader Tokens := do
  let (span, ts) ← group d inner
  return [.group d ts span]

/-! ## Whole inputs -/

/-- Reads a whole scope: a fault in reading, or else the first remainder. -/
def runIn {α : Type} (scope : Scope) (p : Reader α) (ts : Tokens) : Except Fault α :=
  match p scope ⟨ts, none⟩ with
  | .error e => .error e
  | .ok (a, c) =>
    match c.stray <|> remainder scope.delimiter c.rest with
    | some fault => .error fault
    | none => .ok a

/-- Reads a whole input. -/
def run {α : Type} (p : Reader α) (ts : Tokens) : Except Fault α := runIn .top p ts

end Reader

end TypedId
