/-
From text to token trees. The text is first cut into lexemes (blanks and
plain comments fall away, doc comments become attributes), then the
delimiters are nested. Every scanner takes the text that is left and gives
the text behind what it read; `Lexer.lex` is the whole of it. Reading fails
without a reason: a text is a token sequence or it is not.
-/
import TypedId.Text.Blank
import TypedId.Text.IdentifierChars
import TypedId.Text.Escaped
import TypedId.Token
import TypedId.Token.Escape

namespace TypedId.Lexer

open Text Token

/-- Whether `text` begins with the characters of `start`. -/
def begins (start : String) (text : List Char) : Bool :=
  start.toList.isPrefixOf text

/-! ## Blanks and comments -/

/-- A block comment, given the text behind its opening: comments nest. -/
def blockComment (depth : Nat) : List Char → Option (List Char)
  | '/' :: '*' :: rest => blockComment (depth + 1) rest
  | '*' :: '/' :: rest =>
    match depth with
    | 0 => some rest
    | depth + 1 => blockComment depth rest
  | _ :: rest => blockComment depth rest
  | [] => none

/-- The rest of a line; its end stays, but a carriage return before a line feed does not count
as part of the line. -/
def lineEnd : List Char → List Char × List Char
  | [] => ([], [])
  | '\n' :: rest => ([], '\n' :: rest)
  | '\r' :: '\n' :: rest => ([], '\n' :: rest)
  | c :: rest => let (line, behind) := lineEnd rest; (c :: line, behind)

/-- A comment that is not a doc comment. -/
def plainComment? (text : List Char) : Option (List Char) :=
  if begins "//" text && (!begins "///" text || begins "////" text) && !begins "//!" text then
    some (lineEnd text).2
  else if begins "/**/" text then some (text.drop 4)
  else if begins "/*" text && (!begins "/**" text || begins "/***" text) && !begins "/*!" text then
    blockComment 0 (text.drop 2)
  else none

/-- Drops blanks and plain comments in front. -/
def skipBlank (text : List Char) : List Char :=
  match plainComment? text with
  | some rest => if rest.length < text.length then skipBlank rest else text
  | none =>
    match text with
    | c :: rest => if isTokenBlank c then skipBlank rest else text
    | [] => []
termination_by text.length

/-- A doc comment: its text, whether it is an inner one, and what follows. A carriage return must
stand before a line feed. -/
def docComment? (text : List Char) : Option (List Char × Bool × List Char) := do
  let (content, inner, rest) ←
    if begins "//!" text then
      let (line, rest) := lineEnd (text.drop 3)
      some (line, true, rest)
    else if begins "/*!" text then block true
    else if begins "///" text then
      if begins "////" text then none
      else
        let (line, rest) := lineEnd (text.drop 3)
        some (line, false, rest)
    else if begins "/**" text && !begins "/***" text then block false
    else none
  if loneReturn content then none else some (content, inner, rest)
where
  block (inner : Bool) : Option (List Char × Bool × List Char) := do
    let rest ← blockComment 0 (text.drop 2)
    let whole := text.take (text.length - rest.length)
    return ((whole.drop 3).take (whole.length - 5), inner, rest)
  loneReturn : List Char → Bool
    | '\r' :: '\n' :: rest => loneReturn rest
    | '\r' :: _ => true
    | _ :: rest => loneReturn rest
    | [] => false

/-! ## Literals -/

/-- The identifier in front, if there is one: its characters and what follows. -/
def word? : List Char → Option (List Char × List Char)
  | c :: rest =>
    if isIdentStart c then
      some (c :: rest.takeWhile isIdentContinue, rest.dropWhile isIdentContinue)
    else none
  | [] => none

/-- Any literal may carry a suffix that is an identifier. -/
def dropSuffix (text : List Char) : List Char :=
  match word? text with
  | some (_, rest) => rest
  | none => text

/-- The characters that may stand unescaped in a literal. -/
def allows (alphabet : Escape.Alphabet) (c : Char) : Bool :=
  match alphabet with
  | .text => true
  | .bytes => c.toNat < 0x80
  | .nulFree => c != '\x00'

/-- A quoted text behind its opening quote. -/
def cooked (alphabet : Escape.Alphabet) : List Char → Option (List Char)
  | [] => none
  | '"' :: rest => some rest
  | '\r' :: rest =>
    match rest with
    | '\n' :: rest => cooked alphabet rest
    | _ => none
  | '\\' :: rest =>
    match Escape.inText? alphabet rest with
    | some n => cooked alphabet (rest.drop n)
    | none => none
  | c :: rest => if allows alphabet c then cooked alphabet rest else none
termination_by text => text.length

/-- A raw text behind its opening quote, closed by a quote and `hashes`. -/
def raw (alphabet : Escape.Alphabet) (hashes : List Char) : List Char → Option (List Char)
  | [] => none
  | c :: rest =>
    if c = '"' && hashes.isPrefixOf rest then some (rest.drop hashes.length)
    else if c = '\r' then
      match rest with
      | '\n' :: rest => raw alphabet hashes rest
      | _ => none
    else if allows alphabet c then raw alphabet hashes rest
    else none

/-- A raw text behind its `r`: at most 255 hashes open it. -/
def rawText? (alphabet : Escape.Alphabet) (text : List Char) : Option (List Char) :=
  let hashes := text.takeWhile (· == '#')
  match text.dropWhile (· == '#') with
  | '"' :: rest => if hashes.length ≤ 255 then raw alphabet hashes rest else none
  | _ => none

/-- A character or byte behind its opening quote. -/
def quoted? (alphabet : Escape.Alphabet) (text : List Char) : Option (List Char) := do
  let rest ←
    match text with
    | '\\' :: rest => (Escape.single? alphabet rest).map rest.drop
    | c :: rest => if allows alphabet c then some rest else none
    | [] => none
  match rest with
  | '\x27' :: rest => some rest
  | _ => none

/-- The digits of a number behind its first digit, up to an exponent. Gives what is left, whether
a point was read, and whether an exponent follows; none where a point belongs to something else. -/
def mantissa? (point : Bool) : List Char → Option (List Char × Bool × Bool)
  | [] => some ([], point, false)
  | c :: rest =>
    if c.isDigit || c == '_' then mantissa? point rest
    else if c == '.' && !point then
      if rest.head?.any fun d => d == '.' || isIdentStart d then none else mantissa? true rest
    else some (c :: rest, point, c == 'e' || c == 'E')

/-- The exponent behind its `e`: a sign, then digits and underscores with at least one digit. -/
def exponent? (sign digit : Bool) : List Char → Option (List Char)
  | [] => if digit then some [] else none
  | c :: rest =>
    if c == '+' || c == '-' then
      if digit then some (c :: rest) else if sign then none else exponent? true false rest
    else if c.isDigit then exponent? sign true rest
    else if c == '_' then exponent? sign digit rest
    else if digit then some (c :: rest) else none

/-- No character that continues an identifier may follow a number directly. -/
def wordBreak? (text : List Char) : Option (List Char) :=
  if text.head?.any isIdentContinue then none else some text

/-- A number with a point or an exponent. Digits before a bad exponent still count with a point. -/
def float? : List Char → Option (List Char)
  | [] => none
  | c :: rest =>
    if c.isDigit then do
      let (behind, point, exponent) ← mantissa? false rest
      if !point && !exponent then none
      else
        let behind ←
          if exponent then
            match exponent? false false (behind.drop 1) with
            | some behind => some behind
            | none => if point then some behind else none
          else some behind
        wordBreak? (dropSuffix behind)
    else none

/-- Digits of one base. -/
def digits? (base : Nat) (empty : Bool) : List Char → Option (List Char)
  | [] => if empty then none else some []
  | c :: rest =>
    if c == '_' then
      if empty && base == 10 then none else digits? base empty rest
    else
      match Text.hexDigit? c with
      | some d =>
        if d < base then digits? base false rest
        else if c.isDigit then none
        else if empty then none else some (c :: rest)
      | none => if empty then none else some (c :: rest)

def integer? (text : List Char) : Option (List Char) := do
  let behind ←
    if begins "0x" text then digits? 16 true (text.drop 2)
    else if begins "0o" text then digits? 8 true (text.drop 2)
    else if begins "0b" text then digits? 2 true (text.drop 2)
    else digits? 10 true text
  wordBreak? (dropSuffix behind)

/-- The one text that stands for a literal lost in an earlier error. -/
def lostLiteral : String := "(/*ERROR*/)"

/-! ## Any literal -/

/-- A text, cooked or raw. -/
def string? : List Char → Option (List Char)
  | '"' :: rest => cooked .text rest
  | 'r' :: rest => rawText? .text rest
  | _ => none

/-- A text of bytes. -/
def byteString? : List Char → Option (List Char)
  | 'b' :: '"' :: rest => cooked .bytes rest
  | 'b' :: 'r' :: rest => rawText? .bytes rest
  | _ => none

/-- A text without the null character. -/
def nulFreeString? : List Char → Option (List Char)
  | 'c' :: '"' :: rest => cooked .nulFree rest
  | 'c' :: 'r' :: rest => rawText? .nulFree rest
  | _ => none

def byte? : List Char → Option (List Char)
  | 'b' :: '\x27' :: rest => quoted? .bytes rest
  | _ => none

def character? : List Char → Option (List Char)
  | '\x27' :: rest => quoted? .text rest
  | _ => none

/-- A literal; gives what follows it. -/
def literal? (text : List Char) : Option (List Char) :=
  ((string? text <|> byteString? text <|> nulFreeString? text <|> byte? text <|>
      character? text).map dropSuffix)
    <|> float? text <|> integer? text

/-! ## Marks and words -/

def isMark (c : Char) : Bool :=
  "~!@#$%^&*-=+|;:,<.>/?'".toList.contains c

/-- A punctuation character that does not open a comment. -/
def mark? : List Char → Option (Char × List Char)
  | '/' :: '/' :: _ => none
  | '/' :: '*' :: _ => none
  | c :: rest => if isMark c then some (c, rest) else none
  | [] => none

/-- Words that have no raw form. -/
def neverRaw : List String := ["_", "super", "self", "Self", "crate"]

/-- An identifier, raw or not. -/
def ident? (text : List Char) : Option (List Char × List Char) :=
  if begins "r#" text then do
    let (w, rest) ← word? (text.drop 2)
    if neverRaw.contains (String.ofList w) then none else some ('r' :: '#' :: w, rest)
  else word? text

/-- Beginnings of literals that an identifier must not be read from. -/
def literalStarts : List String :=
  ["r\"", "r#\"", "r##", "b\"", "b'", "br\"", "br#", "c\"", "cr\"", "cr#"]

/-- A mark and whether it is joint. An apostrophe opens a lifetime, which a further apostrophe
or hash would spoil. -/
def punct? (text : List Char) : Option (Char × Bool × List Char) := do
  let (c, rest) ← mark? text
  if c == '\x27' then
    let (_, behind) ← ident? rest
    if begins "'" behind || (begins "#" behind && !begins "r#" rest) then none
    else some (c, true, rest)
  else some (c, (mark? rest).isSome, rest)

/-! ## Lexemes -/

inductive Lexeme where
  | opening (delimiter : Delimiter) (place : Span)
  | closing (delimiter : Delimiter) (place : Span)
  /-- Tokens that need no nesting. -/
  | leaf (tokens : Tokens)
deriving Repr

/-- The attribute that a doc comment stands for, all of it at the place of the comment. -/
def docAttribute (place : Span) (inner : Bool) (content : String) : Tokens :=
  [.punct '#' false place] ++
  (if inner then [.punct '!' false place] else []) ++
  [.group .bracket
    [.ident "doc" place, .punct '=' false place, .literal (stringLiteral content) place] place]

/-- The lexeme in front of a text without leading blanks. `place rest` is the span from the front
to `rest`, `taken rest` the text between them. -/
def lexeme? (place : List Char → Span) (taken : List Char → String) (text : List Char) :
    Option (Lexeme × List Char) :=
  match docComment? text with
  | some (content, inner, rest) =>
    some (.leaf (docAttribute (place rest) inner (String.ofList content)), rest)
  | none =>
    match text with
    | [] => none
    | c :: rest =>
      if c == '(' && !begins lostLiteral text then some (.opening .parenthesis (place rest), rest)
      else if c == '[' then some (.opening .bracket (place rest), rest)
      else if c == '\x7b' then some (.opening .brace (place rest), rest)
      else if c == ')' then some (.closing .parenthesis (place rest), rest)
      else if c == ']' then some (.closing .bracket (place rest), rest)
      else if c == '\x7d' then some (.closing .brace (place rest), rest)
      else leaf text
where
  leaf (text : List Char) : Option (Lexeme × List Char) :=
    match literal? text with
    | some rest => some (.leaf [.literal (taken rest) (place rest)], rest)
    | none =>
      match punct? text with
      | some (c, joint, rest) => some (.leaf [.punct c joint (place rest)], rest)
      | none =>
        if literalStarts.any (begins · text) then none
        else
          match ident? text with
          | some (w, rest) => some (.leaf [.ident (String.ofList w) (place rest)], rest)
          | none =>
            if begins lostLiteral text then
              let rest := text.drop lostLiteral.length
              some (.leaf [.literal lostLiteral (place rest)], rest)
            else none

/-- All lexemes of a text that starts at `pos` in `source`. -/
def lexemes? (source : String) (pos : Position) (text : List Char) : Option (List Lexeme) :=
  let front := skipBlank text
  if front.isEmpty then some []
  else do
    let here := pos.afterAll (text.take (text.length - front.length))
    let taken (rest : List Char) := front.take (front.length - rest.length)
    let (lexeme, rest) ← lexeme?
      (fun rest => .within source here (here.afterAll (taken rest)))
      (fun rest => String.ofList (taken rest)) front
    if rest.length < text.length then
      let others ← lexemes? source (here.afterAll (taken rest)) rest
      return lexeme :: others
    else none
termination_by text.length

/-! ## Nesting -/

/-- An open group: its delimiter, the place of that, and the tokens read before it. -/
structure Frame where
  delimiter : Delimiter
  place : Span
  before : Tokens

/-- Nests the lexemes; `current` holds the tokens of the innermost open group, last first. -/
def nest? (frames : List Frame) (current : Tokens) : List Lexeme → Option Tokens
  | [] => if frames.isEmpty then some current.reverse else none
  | .leaf tokens :: rest => nest? frames (tokens.reverse ++ current) rest
  | .opening d place :: rest => nest? (⟨d, place, current⟩ :: frames) [] rest
  | .closing d place :: rest =>
    match frames with
    | [] => none
    | frame :: frames =>
      if frame.delimiter = d then
        nest? frames (.group d current.reverse (frame.place.join place) :: frame.before) rest
      else none

/-- The token trees of a text. One byte order mark in front counts as a column and no more. -/
def lex (source : String) (text : String) : Option Tokens := do
  let lexemes ←
    match text.toList with
    | '\ufeff' :: rest => lexemes? source (Position.start.after '\ufeff') rest
    | all => lexemes? source .start all
  nest? [] [] lexemes

end TypedId.Lexer
