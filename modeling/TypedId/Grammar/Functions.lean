/-
Reading the heads of functions, and the parts that declarations of every kind
share: macro calls, associated types and constants.
-/
import TypedId.Grammar.Expressions

namespace TypedId.Grammar

open Reader

/-! ## Inputs -/

/-- One input of a function. -/
structure Input where
  tokens : Tokens
  /-- The place of `self` in a receiver. -/
  receiver : Option Span
  /-- Whether this is the three dots that take any further inputs. -/
  variadic : Bool

/-- `self` with what may stand around it. -/
def receiver (g : Grammar) : Reader Input := do
  let mark ← operator? "&"
  let region ← if mark.isEmpty then pure [] else optional .lifetime lifetime
  let mut_ ← keyword? "mut"
  let self ← keyword "self"
  let type ←
    if mark.isEmpty && (← peek (.operator ":")) then
      let colon ← operator ":"
      pure (colon ++ (← g.type true true).tokens)
    else pure []
  return ⟨mark ++ region ++ mut_ ++ self ++ type, some (Tokens.span self), false⟩

def input (g : Grammar) : Reader Input := do
  match ← attempt (receiver g) with
  | some input => return input
  | none =>
    if (← peek .identifier) && (← peek2 (.operator "<")) then
      let place ← here
      let type ← g.type true true
      return ⟨.ident "_" place :: .punct ':' false place :: type.tokens, none, false⟩
    else
      let pattern ← g.pattern
      let colon ← operator ":"
      if ← peek (.operator "...") then
        return ⟨pattern.tokens ++ colon ++ (← operator "..."), none, true⟩
      else return ⟨pattern.tokens ++ colon ++ (← g.type true true).tokens, none, false⟩

/-- The inputs of a function with a body. Only the first can be a receiver. -/
def inputs (g : Grammar) : Reader Tokens :=
  loop (fun ((read, hasReceiver) : Tokens × Bool) => do
    if ← atEnd then return .done read
    let attributes ← outerTokens g
    let input ←
      if ← peek (.operator "...") then (⟨·, none, true⟩) <$> operator "..." else input g
    let isFirst := read.isEmpty
    let read := read ++ attributes ++ input.tokens
    if input.variadic then
      return .done (read ++ (← if ← atEnd then pure [] else operator ","))
    match input.receiver with
    | some place =>
      if hasReceiver then failAt place .secondReceiver
      if !isFirst then failAt place .lateReceiver
    | none => pure ()
    if ← atEnd then return .done read
    return .again (read ++ (← operator ","), hasReceiver || input.receiver.isSome)) ([], false)

/-! ## Heads -/

/-- The words before `fn`; `safe` is one of them where it is allowed. -/
def qualifiers (safe : Bool) : Reader Tokens := do
  let const_ ← keyword? "const"
  let async_ ← keyword? "async"
  let safety ←
    if safe && (← peek (.keyword "safe")) then keyword "safe" else keyword? "unsafe"
  return const_ ++ async_ ++ safety ++ (← abi)

/-- Whether a function follows. -/
def showsFunction (safe : Bool) : Reader Bool := do
  match ← ahead (attempt (do let _ ← qualifiers safe; peek (.keyword "fn"))) with
  | some found => return found
  | none => return false

/-- A function up to its body. -/
def signature (g : Grammar) (safe : Bool) : Reader Tokens := do
  let words ← qualifiers safe
  let fn_ ← keyword "fn"
  let name ← identifier
  let generics ← generics g
  groupThen .parenthesis (inputs g) fun place inputs => do
    let result ← result g true
    let bounds ← whereTokens g
    return words ++ fn_ ++ [name.token] ++ generics.tokens ++
      [.group .parenthesis inputs place] ++ result ++ bounds

/-! ## Shared parts -/

/-- What a macro call can begin with. -/
def macroSigns : List Sign :=
  [.identifier, .keyword "self", .keyword "super", .keyword "crate", .operator "::"]

/-- A macro call as a declaration: it ends in braces or in a semicolon. -/
def macroCall (named : Bool) : Reader Tokens := do
  let p ← plainPath
  let bang ← operator "!"
  let name ←
    if named && ((← peek (.keyword "try")) || (← peek .identifier)) then
      (fun w => [w.token]) <$> word
    else pure []
  let (d, arguments) ← macroArguments
  let semicolon ← if d = .brace then pure [] else operator ";"
  return p.tokens ++ bang ++ name ++ arguments ++ semicolon

/-- Bounds parted by `+`, up to one of the signs. -/
def boundsBefore (g : Grammar) (const : Bool) (stop : List Sign) : Reader Tokens :=
  pieces do
    if ← peekAny stop then return ([], false)
    let b ← g.bound false const
    if ← peekAny stop then return (b.tokens, false)
    return (b.tokens ++ (← operator "+"), true)

/-- Where the where clause of an associated type may stand. -/
inductive WherePlace where
  | beforeEquals
  | afterEquals
  | either
deriving DecidableEq

/-- A type alias, or an associated type. -/
def typeAlias (g : Grammar) (default : Bool) (place : WherePlace) : Reader Tokens := do
  let visible ← visibility
  let default_ ← if default then keyword? "default" else pure []
  let type_ ← keyword "type"
  let name ← identifier
  let generics ← generics g
  let colon ← operator? ":"
  let bounds ←
    if colon.isEmpty then pure []
    else boundsBefore g true [.keyword "where", .operator "=", .operator ";"]
  let early ← if place = .afterEquals then pure none else whereClause? g
  let value ←
    if ← peek (.operator "=") then
      let equals ← operator "="
      pure (equals ++ (← g.type true true).tokens)
    else pure []
  let late ← if place = .beforeEquals || early.isSome then pure none else whereClause? g
  let semicolon ← operator ";"
  let clause : Option WhereClause → Tokens := fun c => (c.map (·.tokens)).getD []
  return visible.tokens ++ default_ ++ type_ ++ [name.token] ++ generics.tokens ++ colon ++ bounds ++
    clause early ++ value ++ clause late ++ semicolon

/-- A constant behind the words before it; its name may be `_`. -/
def constant (g : Grammar) : Reader Tokens := do
  let const_ ← keyword "const"
  let name ←
    if ← peekAny [.identifier, .keyword "_"] then word
    else expected [.identifier, .keyword "_"]
  let generics ← generics g
  let colon ← operator ":"
  let type ← g.type true true
  let value ←
    if ← peek (.operator "=") then
      let equals ← operator "="
      pure (equals ++ (← g.expression true).tokens)
    else pure []
  let bounds ← whereTokens g
  let semicolon ← operator ";"
  return const_ ++ [name.token] ++ generics.tokens ++ colon ++ type.tokens ++ value ++ bounds ++
    semicolon

/-- Declarations in braces, after attributes of the whole. -/
def members (g : Grammar) (item : Reader Tokens) : Reader Tokens :=
  groupTokens .brace do
    let attributes ← innerTokens g
    let items ← whileM (return !(← atEnd)) item
    return attributes ++ items.flatten

end TypedId.Grammar
