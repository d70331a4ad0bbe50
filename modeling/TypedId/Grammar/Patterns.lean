/-
Reading patterns. `patternOnce` reads one without alternatives,
`alternatives` reads several parted by `|`.
-/
import TypedId.Grammar.Types

namespace TypedId.Grammar

open Reader

/-- What a pattern can begin with. -/
def patternSigns : List Sign :=
  [.identifier, .operator "::", .operator "<", .keyword "_", .literal, .keyword "const",
   .keyword "ref", .keyword "mut", .operator "&", .group .parenthesis, .group .bracket,
   .operator "..", .keyword "const"]

/-- A single `|`. -/
def showsBar : Reader Bool := do
  return (← peek (.operator "|")) && !(← peek (.operator "||")) && !(← peek (.operator "|="))

/-- Patterns parted by `|`, and one before them where `leading` allows it. -/
def alternatives (g : Grammar) (leading : Bool) : Reader Pattern := do
  let bar ← if leading then operator? "|" else pure []
  let first ← g.pattern
  let more ← pieces do
    if ← showsBar then
      let between ← operator "|"
      return (between ++ (← g.pattern).tokens, true)
    else return ([], false)
  if bar.isEmpty && more.isEmpty then return first
  else return .plain (bar ++ first.tokens ++ more)

/-! ## Ranges -/

/-- The marks of a range and whether it is closed. Where `old` allows it, three dots stand for
`..=`. -/
def rangeMarks (old : Bool) : Reader (Tokens × Bool) := do
  if ← peek (.operator "..=") then return (← operator "..=", true)
  else if ← peek (.operator "...") then
    if old then
      match ← operator "..." with
      | [a, b, c] => return ([a, b, .punct '=' false c.span], true)
      | marks => return (marks, true)
    else expected [.operator "..="]
  else if ← peek (.operator "..") then return (← operator "..", false)
  else expected [.operator ".."]

/-- An end of a range, or nothing. -/
def rangeBound (g : Grammar) : Reader Tokens := do
  if (← atEnd) ||
      (← peekAny [.operator "|", .operator "=", .operator ",", .operator ";", .keyword "if"]) ||
      ((← peek (.operator ":")) && !(← peek (.operator "::"))) then return []
  else if ← peek .literal then literal
  else if ← peekAny [.identifier, .operator "::", .operator "<", .keyword "self", .keyword "Self",
      .keyword "super", .keyword "crate"] then
    let (owner, p) ← ownedPath g true
    return owner ++ p.tokens
  else if ← peek (.keyword "const") then return (← keyword "const") ++ (← block g)
  else
    expected [.literal, .identifier, .operator "::", .operator "<", .keyword "self",
      .keyword "Self", .keyword "super", .keyword "crate", .keyword "const"]

/-- The range that begins with `start`. -/
def rangeFrom (g : Grammar) (start : Tokens) : Reader Pattern := do
  let (marks, closed) ← rangeMarks true
  let stop ← rangeBound g
  if !stop.isEmpty then return .plain (start ++ marks ++ stop)
  else if closed then wanted "range upper bound"
  else return ⟨start ++ marks, .openRange (Tokens.span marks)⟩

/-- A range without a start, or the pattern for the rest. -/
def rangeTo (g : Grammar) : Reader Pattern := do
  let (marks, closed) ← rangeMarks false
  let stop ← rangeBound g
  if !stop.isEmpty then return ⟨marks ++ stop, .openRange (Tokens.span marks)⟩
  else if closed then wanted "range upper bound"
  else return ⟨marks, .rest⟩

/-! ## Paths -/

/-- The position of a tuple field as it is written back: in base ten, without a suffix. -/
def tupleIndex : Reader Tokens := fun s c =>
  match literalOf .integerLiteral s c with
  | .error e => .error e
  | .ok (ts, c') =>
    let place := Tokens.span ts
    let (digits, suffix) := Token.Literal.integer (Tokens.valueText ts)
    if !suffix.isEmpty then .error (.placed place (.wanted "unsuffixed integer"))
    else
      match digits with
      | none => .error (.placed place .badIndex)
      | some n =>
        if n < UInt32.size then .ok ([.literal (toString n) place], c')
        else .error (.placed place .largeIndex)

/-- The name or position of a field, and whether it is a name. -/
def member : Reader (Tokens × Bool) := do
  if ← peek .identifier then return ([(← identifier).token], true)
  else if ← peek .integerLiteral then return (← tupleIndex, false)
  else wanted "identifier or integer"

/-- A field of a struct pattern. -/
def fieldPattern (g : Grammar) : Reader Tokens := do
  let ((short, ts), source) ← withSource do
    let boxed ← keyword? "box"
    let byRef ← keyword? "ref"
    let mut_ ← keyword? "mut"
    let marks := boxed ++ byRef ++ mut_
    let (field, named) ←
      if marks.isEmpty then member else (fun i => ([i.token], true)) <$> identifier
    if (marks.isEmpty && (← peek (.operator ":"))) || !named then
      let colon ← operator ":"
      return (false, field ++ colon ++ (← alternatives g true).tokens)
    else return (!boxed.isEmpty, byRef ++ mut_ ++ field)
  return if short then source else ts

def structPattern (g : Grammar) : Reader Tokens :=
  groupTokens .brace <| loop (fun (read : Tokens) => do
    if ← atEnd then return .done read
    let attributes ← outerTokens g
    if ← peek (.operator "..") then return .done (read ++ attributes ++ (← operator ".."))
    let field ← fieldPattern g
    if ← atEnd then return .done (read ++ attributes ++ field)
    return .again (read ++ attributes ++ field ++ (← operator ","))) []

/-- A pattern that begins with a path. -/
def pathPattern (g : Grammar) : Reader Pattern := do
  let (owner, p) ← ownedPath g true
  let ts := owner ++ p.tokens
  if owner.isEmpty && (← peek (.operator "!")) && !(← peek (.operator "!=")) && p.isPlain then
    let bang ← operator "!"
    let (_, arguments) ← macroArguments
    return .plain (ts ++ bang ++ arguments)
  else if ← peek (.group .brace) then return .plain (ts ++ (← structPattern g))
  else if ← peek (.group .parenthesis) then
    let elements ← groupTokens .parenthesis (commaTokens (Pattern.tokens <$> alternatives g true))
    return .plain (ts ++ elements)
  else if ← peek (.operator "..") then rangeFrom g ts
  else return .plain ts

/-! ## Other patterns -/

/-- A name, perhaps with a pattern that what it names must have. -/
def namePattern (g : Grammar) : Reader Pattern := do
  let byRef ← keyword? "ref"
  let mut_ ← keyword? "mut"
  let name ← if ← peek (.keyword "self") then word else identifier
  let ts := byRef ++ mut_ ++ [name.token]
  if ← peek (.operator "@") then
    let mark ← operator "@"
    return .plain (ts ++ mark ++ (← g.pattern).tokens)
  else return .plain ts

/-- A pattern in parentheses, or a tuple of patterns. -/
def tuplePattern (g : Grammar) : Reader Pattern := do
  let (place, elements) ← group .parenthesis (commaList (alternatives g true))
  return .plain [.group .parenthesis (elements.flatMap fun p => p.1.tokens ++ p.2) place]

def slicePattern (g : Grammar) : Reader Pattern := do
  let ts ← groupTokens .bracket <| commaTokens do
    let p ← alternatives g true
    match p.kind with
    | .openRange dots => failAt dots .unparenthesisedRange
    | _ => return p.tokens
  return .plain ts

/-- A pattern; see `Grammar.pattern`. -/
def patternOnce (g : Grammar) : Reader Pattern := do
  if ((← peek .identifier) && ((← peek2 (.operator "::")) || (← peek2 (.operator "!")) ||
        (← peek2 (.group .brace)) || (← peek2 (.group .parenthesis)) || (← peek2 (.operator "..")))) ||
      ((← peek (.keyword "self")) && (← peek2 (.operator "::"))) ||
      (← peekAny [.operator "::", .operator "<", .keyword "Self", .keyword "super",
        .keyword "crate"]) then pathPattern g
  else if ← peek (.keyword "_") then return .plain [(← word).token]
  else if ← peek (.keyword "box") then
    let (_, source) ← withSource do
      let _ ← keyword "box"
      let _ ← g.pattern
    return .plain source
  else if ← peekAny [.operator "-", .literal, .keyword "const"] then
    let start ← rangeBound g
    if ← peek (.operator "..") then rangeFrom g start else return .plain start
  else if ← peekAny [.keyword "ref", .keyword "mut", .keyword "self", .identifier] then
    namePattern g
  else if ← peek (.operator "&") then
    let mark ← operator "&"
    let mut_ ← keyword? "mut"
    return .plain (mark ++ mut_ ++ (← g.pattern).tokens)
  else if ← peek (.group .parenthesis) then tuplePattern g
  else if ← peek (.group .bracket) then slicePattern g
  else if (← peek (.operator "..")) && !(← peek (.operator "...")) then rangeTo g
  else expected patternSigns

end TypedId.Grammar
