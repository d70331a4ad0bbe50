/-
What a reader can look for in front of it. Every sign has a name for
messages and a test on the tokens to come. Tests look through invisible
groups.
-/
import TypedId.Token
import TypedId.Token.Literal

namespace TypedId

/-- Words that are never plain identifiers. -/
def keywords : List String :=
  ["_", "abstract", "as", "async", "await", "become", "box", "break", "const", "continue",
   "crate", "do", "dyn", "else", "enum", "extern", "false", "final", "fn", "for", "if", "impl",
   "in", "let", "loop", "macro", "match", "mod", "move", "mut", "override", "priv", "pub", "ref",
   "return", "Self", "self", "static", "struct", "super", "trait", "true", "try", "type",
   "typeof", "unsafe", "unsized", "use", "virtual", "where", "while", "yield"]

def isKeyword (text : String) : Bool := keywords.contains text

namespace Tokens

/-- The word in front. -/
def word? (ts : Tokens) : Option (Ident × Tokens) :=
  match ts.enter with
  | .ident x s :: rest => some (⟨x, s⟩, rest)
  | _ => none

/-- The literal in front. -/
def literal? (ts : Tokens) : Option (String × Span × Tokens) :=
  match ts.enter with
  | .literal x s :: rest => some (x, s, rest)
  | _ => none

/-- The mark in front; an apostrophe counts as part of a lifetime and not as a mark. -/
def mark? (ts : Tokens) : Option (Char × Bool × Span × Tokens) :=
  match ts.enter with
  | .punct c j s :: rest => if c = '\x27' then none else some (c, j, s, rest)
  | _ => none

/-- The lifetime in front: its two tokens and what follows. -/
def lifetime? (ts : Tokens) : Option (Tokens × Tokens) :=
  match ts.enter with
  | .punct c true s :: rest =>
    if c = '\x27' then
      match word? rest with
      | some (i, rest) => some ([.punct c true s, i.token], rest)
      | none => none
    else none
  | _ => none

/-- The group in front, if it has the delimiter asked for. -/
def group? (d : Delimiter) (ts : Tokens) : Option (Tokens × Span × Tokens) :=
  match (if d = .invisible then ts else ts.enter) with
  | .group d' content s :: rest => if d' = d then some (content, s, rest) else none
  | _ => none

/-- The operator in front, mark by mark: each but the last has to be joint. Gives the marks as
they are written back and what follows. -/
def operator? : List Char → Tokens → Option (Tokens × Tokens)
  | [], ts => some ([], ts)
  | [c], ts =>
    match mark? ts with
    | some (c', _, s, rest) => if c' = c then some ([.punct c false s], rest) else none
    | none => none
  | c :: cs, ts =>
    match mark? ts with
    | some (c', j, s, rest) =>
      if c' = c && j then (operator? cs rest).map fun (marks, rest) => (.punct c true s :: marks, rest)
      else none
    | none => none

/-- A literal or one of the words `true` and `false`, or a negative number, which counts as one
literal: its mark and its digits then stand at one place. Gives the tokens and what follows. -/
def value? (ts : Tokens) : Option (Tokens × Tokens) :=
  match ts.enter with
  | .literal x s :: rest => some ([.literal x s], rest)
  | .ident x s :: rest => if x = "true" || x = "false" then some ([.ident x s], rest) else none
  | .punct c _ s :: rest =>
    if c = '-' then
      match literal? rest with
      | some (x, s', rest) =>
        if Token.Literal.isNumber x then
          some ([.punct '-' false (s.join s'), .literal x (s.join s')], rest)
        else none
      | none => none
    else none
  | _ => none

/-- The text of a literal, with the mark of a negative number. -/
def valueText : Tokens → String
  | [.literal x _] => x
  | [.punct _ _ _, .literal x _] => "-" ++ x
  | _ => ""

/-- The tokens behind the first one; a lifetime counts as one token. -/
def skip? (ts : Tokens) : Option Tokens :=
  match ts.enter with
  | [] => none
  | .punct c true _ :: rest =>
    match c, rest with
    | '\x27', .ident _ _ :: rest => some rest
    | _, rest => some rest
  | _ :: rest => some rest

end Tokens

inductive Sign where
  | operator (text : String)
  | keyword (text : String)
  /-- A word that is no keyword. -/
  | identifier
  /-- Any word. -/
  | word
  | lifetime
  | literal
  | stringLiteral
  | integerLiteral
  | floatLiteral
  | group (delimiter : Delimiter)
deriving DecidableEq, Repr

namespace Sign

/-- The name in messages. -/
def name : Sign → String
  | .operator text => "`" ++ text ++ "`"
  | .keyword text => "`" ++ text ++ "`"
  | .identifier => "identifier"
  | .word => "identifier"
  | .lifetime => "lifetime"
  | .literal => "literal"
  | .stringLiteral => "string literal"
  | .integerLiteral => "integer literal"
  | .floatLiteral => "floating point literal"
  | .group d => d.description

/-- Whether the tokens begin with the sign. -/
def shows : Sign → Tokens → Bool
  | .operator text, ts => (Tokens.operator? text.toList ts).isSome
  | .keyword text, ts => (Tokens.word? ts).any fun w => w.1.text = text
  | .identifier, ts => (Tokens.word? ts).any fun w => !isKeyword w.1.text
  | .word, ts => (Tokens.word? ts).isSome
  | .lifetime, ts => (Tokens.lifetime? ts).isSome
  | .literal, ts => (Tokens.value? ts).isSome
  | .stringLiteral, ts => (Tokens.literal? ts).any fun l => Token.Literal.kind l.1 = .string
  | .integerLiteral, ts => kindIs .integer ts
  | .floatLiteral, ts => kindIs .float ts
  | .group d, ts => (Tokens.group? d ts).isSome
where
  kindIs (k : Token.LiteralKind) (ts : Tokens) : Bool :=
    (Tokens.value? ts).any fun v => Token.Literal.kind (Tokens.valueText v.1) = k

end Sign

end TypedId
