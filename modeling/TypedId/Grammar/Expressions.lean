/-
Reading expressions. An atom is read first, then what trails it (calls,
fields, indices), then the operators behind it, each as far as it binds. At
the front of a statement or of a match arm an expression that ends in a block
ends there.
-/
import TypedId.Grammar.Patterns

namespace TypedId.Grammar

open Reader

/-- A block expression after its keyword. -/
def keywordBlock (g : Grammar) (text : String) : Reader Expression := do
  let word ← keyword text
  return ⟨word ++ (← block g), .blockLike⟩

/-! ## Operators -/

def binaryOperator? (ts : Tokens) : Option (String × Precedence) :=
  Precedence.operators.find? fun o => (Sign.operator o.1).shows ts

/-- An `=` that is not the beginning of `=>`. -/
def showsEquals : Reader Bool := do
  return (← peek (.operator "=")) && !(← peek (.operator "=>"))

/-- How tightly what follows binds. -/
def nextPrecedence : Reader Precedence := do
  match ← look binaryOperator? with
  | some (_, p) => return p
  | none =>
    if ← showsEquals then return .assign
    else if ← peek (.operator "..") then return .range
    else if ← peek (.keyword "as") then return .cast
    else return .jump

/-- What stands on the right of an operator. -/
def rightSide (g : Grammar) (braces : Bool) (p : Precedence) : Reader Expression := do
  let first ← g.unary braces
  loop (fun right => do
    let next ← nextPrecedence
    if p.rank < next.rank || (next = p && p = .assign) then
      let before ← look Tokens.weight
      let right ← g.climb braces next right
      if (← look Tokens.weight) = before then return .done right else return .again right
    else return .done right) first

/-- Signs behind the dots of a range that has no end. -/
def openRangeSigns : List Sign :=
  [.operator ",", .operator ";", .operator "?", .operator "=>", .operator "=", .operator "+",
   .operator "/", .operator "%", .operator "^", .operator ">", .operator "<=", .operator "!=",
   .operator "-=", .operator "*=", .operator "&=", .operator "|=", .operator "<<=", .keyword "as"]

def rangeEnd (g : Grammar) (braces closed : Bool) : Reader Tokens := do
  if !closed && ((← atEnd) || (← peekAny openRangeSigns) ||
      ((← peek (.operator ".")) && !(← peek (.operator ".."))) ||
      (!braces && (← peek (.group .brace)))) then return []
  else return (← rightSide g braces .range).tokens

/-- A range with what stands before its dots. -/
def range (g : Grammar) (braces : Bool) (start : Tokens) : Reader Expression := do
  let (marks, closed) ← rangeMarks false
  let stop ← rangeEnd g braces closed
  return ⟨start ++ marks ++ stop, .range (Tokens.span marks)⟩

/-- Refuses what cannot stand directly behind a cast. -/
def checkCast : Reader Unit := do
  if (← peek (.operator ".")) && !(← peek (.operator "..")) then
    if ← peek2 (.keyword "await") then complain (.castFollowed "`.await`")
    else if (← peek2 .identifier) && ((← peek3 (.group .parenthesis)) || (← peek3 (.operator "::")))
      then complain (.castFollowed "a method call")
    else complain (.castFollowed "a field access")
  else if ← peek (.operator "?") then complain (.castFollowed "`?`")
  else if ← peek (.group .bracket) then complain (.castFollowed "indexing")
  else if ← peek (.group .parenthesis) then complain (.castFollowed "a function call")
  else return ()

/-- The operators behind a left side; see `Grammar.climb`. -/
def climbOnce (g : Grammar) (braces : Bool) (base : Precedence) (left : Expression) :
    Reader Expression :=
  loop (fun left => do
    if left.isRange then return .done left
    match ← look binaryOperator? with
    | some (text, p) =>
      if p.rank < base.rank then return .done left
      if p = .compare && left.isComparison then complain .chainedComparison
      let mark ← operator text
      let right ← rightSide g braces p
      return .again ⟨left.tokens ++ mark ++ right.tokens,
        if p = .compare then .comparison else .other⟩
    | none =>
      if base.rank ≤ Precedence.assign.rank && (← showsEquals) then
        let equals ← operator "="
        return .again (.plain (left.tokens ++ equals ++ (← rightSide g braces .assign).tokens))
      else if base.rank ≤ Precedence.range.rank && (← peek (.operator "..")) then
        return .again (← range g braces left.tokens)
      else if ← peek (.keyword "as") then
        let as ← keyword "as"
        let type ← g.type false false
        checkCast
        return .again (.plain (left.tokens ++ as ++ type.tokens))
      else return .done left) left

/-! ## Trailers -/

/-- Arguments in parentheses. -/
def callArguments (g : Grammar) : Reader Tokens :=
  groupTokens .parenthesis (commaTokens (Expression.tokens <$> g.expression true))

/-- Splits a text at its points. -/
def splitAtPoints (text : List Char) : List (List Char) :=
  text.foldr (fun c parts =>
    match parts with
    | part :: rest => if c == '.' then [] :: part :: rest else (c :: part) :: rest
    | [] => [[c]]) [[]]

/-- Two positions written as one literal, such as the `0.1` in `x.0.1`. Says too whether a point
ends it. -/
def pairOfIndices (point : Span) (text : String) (place : Span) : Except Fault (Tokens × Bool) := do
  let parts := splitAtPoints text.toList
  let endsOpen := parts.getLast? == some []
  let parts := if endsOpen then parts.dropLast else parts
  let mut read : Tokens := []
  for part in parts do
    let part := String.ofList part
    if Token.Literal.kind part != .integer then
      throw (.placed place (.expected [.integerLiteral]))
    let (value, suffix) := Token.Literal.integer part
    if !suffix.isEmpty then throw (.placed place (.wanted "unsuffixed integer"))
    match value with
    | none => throw (.placed place .badIndex)
    | some n =>
      if UInt32.size ≤ n then throw (.placed place .largeIndex)
      read := read ++ [.punct '.' false (if read.isEmpty then point else place),
        .literal (toString n) place]
  if endsOpen then read := read ++ [.punct '.' false place]
  return (read, endsOpen)

/-- A name or position behind a point, perhaps with a call. -/
def memberTrailer (g : Grammar) (before : Tokens) : Reader Tokens := do
  if ← peek (.keyword "await") then return before ++ (← keyword "await")
  else
    let (field, named) ← member
    let arguments ←
      if named && (← peek (.operator "::")) then Arguments.tokens <$> (do anglesAfter g (← operator "::"))
      else pure []
    if named && (!arguments.isEmpty || (← peek (.group .parenthesis))) then
      return before ++ field ++ arguments ++ (← callArguments g)
    else return before ++ field ++ arguments

/-- What follows a point. -/
def pointTrailer (g : Grammar) : Reader Tokens := do
  let point ← operator "."
  if ← peek .floatLiteral then
    let number ← literalOf .floatLiteral
    match pairOfIndices (Tokens.span point) (Tokens.valueText number) (Tokens.span number) with
    | .error e => fun _ _ => .error e
    | .ok (ts, more) => if more then memberTrailer g ts else return ts
  else memberTrailer g point

/-- The calls, fields, indices and question marks behind an expression. -/
def trailers (g : Grammar) (e : Expression) : Reader Expression :=
  loop (fun e => do
    if ← peek (.group .parenthesis) then return .again (.plain (e.tokens ++ (← callArguments g)))
    else if (← peek (.operator ".")) && !(← peek (.operator "..")) && !e.isRange then
      return .again (.plain (e.tokens ++ (← pointTrailer g)))
    else if ← peek (.group .bracket) then
      let index ← groupTokens .bracket (Expression.tokens <$> g.expression true)
      return .again (.plain (e.tokens ++ index))
    else if (← peek (.operator "?")) && !e.isRange then
      return .again (.plain (e.tokens ++ (← operator "?")))
    else return .done e) e

/-! ## Control flow -/

/-- `if` with all its branches. -/
def branches (g : Grammar) : Reader Expression :=
  loop (fun (read : Tokens) => do
    let if_ ← keyword "if"
    let condition ← g.expression false
    let yes ← bareBlock g
    let read := read ++ if_ ++ condition.tokens ++ yes
    if ← peek (.keyword "else") then
      let else_ ← keyword "else"
      if ← peek (.keyword "if") then return .again (read ++ else_)
      else if ← peek (.group .brace) then
        return .done ⟨read ++ else_ ++ (← bareBlock g), .blockLike⟩
      else expected [.keyword "if", .group .brace]
    else return .done ⟨read, .blockLike⟩) []

def whileLoop (g : Grammar) : Reader Expression := do
  let while_ ← keyword "while"
  let condition ← g.expression false
  return ⟨while_ ++ condition.tokens ++ (← block g), .blockLike⟩

def forLoop (g : Grammar) : Reader Expression := do
  let for_ ← keyword "for"
  let pattern ← alternatives g true
  let in_ ← keyword "in"
  let source ← g.expression false
  return ⟨for_ ++ pattern.tokens ++ in_ ++ source.tokens ++ (← block g), .blockLike⟩

def arm (g : Grammar) : Reader Tokens := do
  let attributes ← outerTokens g
  let pattern ← alternatives g true
  let guard ←
    if ← peek (.keyword "if") then
      let if_ ← keyword "if"
      pure (if_ ++ (← g.expression true).tokens)
    else pure []
  let arrow ← operator "=>"
  let body ← g.early
  let comma ← if !body.isBlockLike && !(← atEnd) then operator "," else operator? ","
  return attributes ++ pattern.tokens ++ guard ++ arrow ++ body.tokens ++ comma

def matching (g : Grammar) : Reader Expression := do
  let match_ ← keyword "match"
  let value ← g.expression false
  let arms ← groupTokens .brace do
    let attributes ← innerTokens g
    let arms ← whileM (return !(← atEnd)) (arm g)
    return attributes ++ arms.flatten
  return ⟨match_ ++ value.tokens ++ arms, .blockLike⟩

/-- A loop or block behind its label. -/
def labelled (g : Grammar) : Reader Expression := do
  let label ← lifetime
  let colon ← operator ":"
  let e ←
    if ← peek (.keyword "while") then whileLoop g
    else if ← peek (.keyword "for") then forLoop g
    else if ← peek (.keyword "loop") then keywordBlock g "loop"
    else if ← peek (.group .brace) then (fun ts => ⟨ts, .blockLike⟩) <$> block g
    else wanted "loop or block expression"
  return ⟨label ++ colon ++ e.tokens, .blockLike⟩

/-- Whether an expression follows a word that may stand alone. -/
def showsExpression : Reader Bool := do
  return ((← peek .word) && !(← peek (.keyword "as"))) ||
    (← peekAny [.group .parenthesis, .group .bracket, .group .brace, .literal, .operator "..",
      .operator "::", .lifetime, .operator "#"]) ||
    (← starts "!" ["!="]) || (← starts "-" ["-=", "->"]) || (← starts "*" ["*="]) ||
    (← starts "|" ["|="]) || (← starts "&" ["&="]) || (← starts "<" ["<=", "<<="])
where
  starts (mark : String) (longer : List String) : Reader Bool := do
    return (← peek (.operator mark)) && !(← peekAny (longer.map .operator))

def breaking (g : Grammar) (braces : Bool) : Reader Expression := do
  let break_ ← keyword "break"
  let label ← ahead (optional .lifetime lifetime)
  if !label.isEmpty && (← ahead (do let _ ← lifetime; peek (.operator ":"))) then
    let (_, source) ← withSource (g.expression true)
    failAt (Tokens.span source) .labelledBreak
  else
    let label ← optional .lifetime lifetime
    let value ←
      if (← showsExpression) && (braces || !(← peek (.group .brace))) then
        Expression.tokens <$> g.expression true
      else pure []
    return .plain (break_ ++ label ++ value)

def closureInput (g : Grammar) : Reader Tokens := do
  let attributes ← outerTokens g
  let pattern ← g.pattern
  if ← peek (.operator ":") then
    let colon ← operator ":"
    return attributes ++ pattern.tokens ++ colon ++ (← g.type true true).tokens
  else return attributes ++ pattern.tokens

def closure (g : Grammar) (braces : Bool) : Reader Expression := do
  let binder ← binder? g
  let const_ ← keyword? "const"
  let static_ ← keyword? "static"
  let async_ ← keyword? "async"
  let move_ ← keyword? "move"
  let opening ← operator "|"
  let inputs ← loop (fun (read : Tokens) => do
    if ← peek (.operator "|") then return .done read
    let input ← closureInput g
    if ← peek (.operator "|") then return .done (read ++ input)
    return .again (read ++ input ++ (← operator ","))) []
  let closing ← operator "|"
  let front := binder ++ const_ ++ static_ ++ async_ ++ move_ ++ opening ++ inputs ++ closing
  if ← peek (.operator "->") then
    let arrow ← operator "->"
    let type ← g.type true true
    return .plain (front ++ arrow ++ type.tokens ++ (← bareBlock g))
  else return .plain (front ++ (← g.expression braces).tokens)

/-- Whether a `for<…>` follows that binds lifetimes. -/
def showsBinder : Reader Bool := do
  return (← peek (.keyword "for")) && (← peek2 (.operator "<")) &&
    ((← peek3 .lifetime) || (← peek3 (.operator ">")))

/-! ## Paths, structs and macro calls -/

/-- The fields of a struct expression. -/
def structFields (g : Grammar) : Reader Tokens :=
  groupTokens .brace <| loop (fun (read : Tokens) => do
    if ← atEnd then return .done read
    if ← peek (.operator "..") then
      let dots ← operator ".."
      if ← atEnd then return .done (read ++ dots)
      return .done (read ++ dots ++ (← g.expression true).tokens)
    let attributes ← outerTokens g
    let (field, named) ← member
    let value ←
      if !named || (← peek (.operator ":")) then
        let colon ← operator ":"
        pure (colon ++ (← g.expression true).tokens)
      else pure []
    let read := read ++ attributes ++ field ++ value
    if ← atEnd then return .done read
    return .again (read ++ (← operator ","))) []

/-- A path and what makes it a macro call or a struct. -/
def afterPath (g : Grammar) (braces : Bool) (owner : Tokens) (p : Path) : Reader Expression := do
  let ts := owner ++ p.tokens
  if owner.isEmpty && (← peek (.operator "!")) && !(← peek (.operator "!=")) && p.isPlain then
    let bang ← operator "!"
    let (d, arguments) ← macroArguments
    return ⟨ts ++ bang ++ arguments, if d = .brace then .bracedCall else .other⟩
  else if braces && (← peek (.group .brace)) then return .plain (ts ++ (← structFields g))
  else return ⟨ts, .path owner p⟩

/-- An invisible group. A path in it can go on behind it. -/
def insertedExpression (g : Grammar) (braces : Bool) : Reader Expression := do
  let (place, inner) ← group .invisible (g.expression true)
  let kept : Expression := ⟨[.group .invisible inner.tokens place], .group (!inner.goesOn)⟩
  match inner.kind with
  | .path owner p =>
    let longer ← moreSegments g true p
    let e ← afterPath g braces owner longer
    match e.kind with
    | .path _ q => return if q.others.length = p.others.length then kept else e
    | _ => return e
  | _ => return kept

/-! ## Atoms -/

/-- An array, or one value repeated. -/
def arrayExpression (g : Grammar) : Reader Expression := do
  let ts ← groupTokens .bracket do
    if ← atEnd then return []
    let first ← g.expression true
    if ← atEnd then return first.tokens
    else if ← peek (.operator ",") then
      let comma ← operator ","
      return first.tokens ++ comma ++ (← commaTokens (Expression.tokens <$> g.expression true))
    else if ← peek (.operator ";") then
      let semicolon ← operator ";"
      return first.tokens ++ semicolon ++ (← g.expression true).tokens
    else wanted "`,` or `;`"
  return .plain ts

/-- A condition that binds a pattern. -/
def letExpression (g : Grammar) (braces : Bool) : Reader Expression := do
  let let_ ← keyword "let"
  let pattern ← alternatives g true
  let equals ← operator "="
  let left ← g.unary braces
  let value ← g.climb braces .compare left
  return .plain (let_ ++ pattern.tokens ++ equals ++ value.tokens)

/-- An expression that is kept as it stands in the input. -/
def verbatim (p : Reader Unit) : Reader Expression := do
  let (_, source) ← withSource p
  return ⟨source, .verbatim⟩

def builtin : Reader Unit := do
  let _ ← word
  let _ ← operator "#"
  let _ ← identifier
  let _ ← group .parenthesis remaining

/-- A word and the expression that may follow it. -/
def leaving (g : Grammar) (text : String) : Reader Expression := do
  let word ← keyword text
  let bare ←
    if text = "yield" then
      (do return (← atEnd) || (← peekAny [.operator ",", .operator ";"]))
    else (do return !(← showsExpression))
  if bare then return .plain word
  else return .plain (word ++ (← g.expression true).tokens)

/-- The keywords that begin a control-flow expression, as atoms. -/
def controlFlow? (g : Grammar) : Reader (Option Expression) := do
  if ← peek (.keyword "if") then some <$> branches g
  else if ← peek (.keyword "while") then some <$> whileLoop g
  else if ← peek (.keyword "for") then some <$> forLoop g
  else if ← peek (.keyword "loop") then some <$> keywordBlock g "loop"
  else if ← peek (.keyword "match") then some <$> matching g
  else return none

def atom (g : Grammar) (braces : Bool) : Reader Expression := do
  if ← peek (.group .invisible) then insertedExpression g braces
  else if ← peek .literal then return .plain (← literal)
  else if (← peek (.keyword "async")) && ((← peek2 (.group .brace)) ||
      ((← peek2 (.keyword "move")) && (← peek3 (.group .brace)))) then
    let async_ ← keyword "async"
    let move_ ← keyword? "move"
    return .plain (async_ ++ move_ ++ (← bareBlock g))
  else if (← peek (.keyword "try")) && (← peek2 (.group .brace)) then
    let try_ ← keyword "try"
    return ⟨try_ ++ (← bareBlock g), .blockLike⟩
  else if (← peekAny [.operator "|", .keyword "move", .keyword "static"]) || (← showsBinder) ||
      ((← peek (.keyword "const")) && !(← peek2 (.group .brace))) ||
      ((← peek (.keyword "async")) && ((← peek2 (.operator "|")) || (← peek2 (.keyword "move")))) then
    closure g braces
  else if (← peek (.keyword "builtin")) && (← peek2 (.operator "#")) then verbatim builtin
  else if (← peekAny [.identifier, .operator "::", .operator "<", .keyword "self",
        .keyword "Self", .keyword "super", .keyword "crate"]) ||
      ((← peek (.keyword "try")) && ((← peek2 (.operator "!")) || (← peek2 (.operator "::")))) then
    let (owner, p) ← ownedPath g true
    afterPath g braces owner p
  else if ← peek (.group .parenthesis) then return .plain (← callArguments g)
  else if ← peek (.keyword "break") then breaking g braces
  else if ← peek (.keyword "continue") then
    let continue_ ← keyword "continue"
    return .plain (continue_ ++ (← optional .lifetime lifetime))
  else if ← peek (.keyword "return") then leaving g "return"
  else if ← peek (.keyword "become") then
    verbatim do
      let _ ← keyword "become"
      let _ ← g.expression true
  else if ← peek (.group .bracket) then arrayExpression g
  else if ← peek (.keyword "let") then letExpression g braces
  else
    match ← controlFlow? g with
    | some e => return e
    | none =>
      if ← peek (.keyword "yield") then leaving g "yield"
      else if ← peek (.keyword "unsafe") then keywordBlock g "unsafe"
      else if ← peek (.keyword "const") then keywordBlock g "const"
      else if ← peek (.group .brace) then return ⟨← block g, .blockLike⟩
      else if ← peek (.operator "..") then range g braces []
      else if ← peek (.keyword "_") then return .plain [(← word).token]
      else if ← peek .lifetime then labelled g
      else wanted "an expression"

/-! ## Expressions -/

/-- Attributes in front of an expression. -/
def expressionAttributes (g : Grammar) : Reader Tokens :=
  return (← whileM (do return !(← peek (.group .invisible)) && (← peek (.operator "#")))
    (outerAttribute g)).flatMap Attribute.tokens

/-- An atom with what trails it, behind its attributes. -/
def trailed (g : Grammar) (braces : Bool) (attributes : Tokens) : Reader Expression := do
  let e ← trailers g (← atom g braces)
  if attributes.isEmpty then return e
  else
    match e.kind with
    | .range dots => failAt dots .attributedRange
    | _ => return e.attributed attributes

/-- A reference, or the address of a place. -/
def reference (g : Grammar) (braces : Bool) : Reader Tokens := do
  let mark ← operator "&"
  let raw ←
    if (← peek (.keyword "raw")) && ((← peek2 (.keyword "mut")) || (← peek2 (.keyword "const"))) then
      keyword "raw"
    else pure []
  let mut_ ← keyword? "mut"
  let const_ ← if !raw.isEmpty && mut_.isEmpty then keyword "const" else pure []
  return mark ++ raw ++ mut_ ++ const_ ++ (← g.unary braces).tokens

/-- An expression without binary operators; see `Grammar.unary`. -/
def unaryOnce (g : Grammar) (braces : Bool) : Reader Expression := do
  let (e, source) ← withSource do
    let attributes ← expressionAttributes g
    if ← peek (.group .invisible) then trailed g braces attributes
    else if ← peek (.operator "&") then return .plain (attributes ++ (← reference g braces))
    else if ← peek (.operator "*") then
      return .plain (attributes ++ (← operator "*") ++ (← g.unary braces).tokens)
    else if ← peek (.operator "!") then
      return .plain (attributes ++ (← operator "!") ++ (← g.unary braces).tokens)
    else if ← peek (.operator "-") then
      return .plain (attributes ++ (← operator "-") ++ (← g.unary braces).tokens)
    else trailed g braces attributes
  match e.kind with
  | .verbatim => return ⟨source, .verbatim⟩
  | _ => return e

/-- An expression; see `Grammar.expression`. -/
def expressionOnce (g : Grammar) (braces : Bool) : Reader Expression := do
  climbOnce g braces .jump (← unaryOnce g braces)

/-- The front of an expression that may end where a block does. -/
def earlyFront (g : Grammar) : Reader Expression := do
  if ← peek (.group .invisible) then
    let e ← insertedExpression g true
    if e.goesOn then trailers g e else return e
  else if ← showsBinder then unaryOnce g true
  else
    match ← controlFlow? g with
    | some e => return e
    | none =>
      if (← peek (.keyword "try")) && (← peek2 (.group .brace)) then
        let try_ ← keyword "try"
        return ⟨try_ ++ (← bareBlock g), .blockLike⟩
      else if ← peek (.keyword "unsafe") then keywordBlock g "unsafe"
      else if (← peek (.keyword "const")) && (← peek2 (.group .brace)) then keywordBlock g "const"
      else if ← peek (.group .brace) then return ⟨← block g, .blockLike⟩
      else if ← peek .lifetime then labelled g
      else unaryOnce g true

/-- An expression at the front of a statement; see `Grammar.early`. -/
def earlyOnce (g : Grammar) : Reader Expression := do
  let attributes ← expressionAttributes g
  let e ← earlyFront g
  if e.goesOn then climbOnce g true .jump (e.attributed attributes)
  else if ((← peek (.operator ".")) && !(← peek (.operator ".."))) || (← peek (.operator "?")) then
    let e ← trailers g e
    climbOnce g true .jump (e.attributed attributes)
  else return e.attributed attributes

end TypedId.Grammar
