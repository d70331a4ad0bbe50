/-
Reading the statements of a block. A statement is a macro call in braces, a
declaration, a binding by `let`, or an expression, which needs a semicolon
behind it unless it ends in a block or is the last.
-/
import TypedId.Grammar.Items

namespace TypedId.Grammar

open Reader

/-- A statement, and whether a semicolon has to come before the next one. -/
abbrev Statement := Tokens × Bool

/-- Where a macro call leads a statement. -/
inductive CallForm where
  | none
  /-- The call declares a name. -/
  | item
  /-- The call ends in braces and is a statement by itself. -/
  | statement

/-- Looks ahead for a macro call. -/
def callForm : Reader CallForm := do
  match ← attempt plainPath with
  | .none => return .none
  | .some _ =>
    if ← peek (.operator "!") then
      if (← peek2 .identifier) || (← peek2 (.keyword "try")) then return .item
      else if (← peek2 (.group .brace)) &&
          !(((← peek3 (.operator ".")) && !(← peek3 (.operator ".."))) || (← peek3 (.operator "?"))) then
        return .statement
      else return .none
    else return .none

/-- Whether a declaration follows. -/
def showsItem : Reader Bool := do
  return (← peekAny [.keyword "pub", .keyword "extern", .keyword "use", .keyword "fn",
      .keyword "mod", .keyword "type", .keyword "struct", .keyword "enum", .keyword "trait",
      .keyword "impl", .keyword "macro"]) ||
    ((← peek (.keyword "crate")) && !(← peek2 (.operator "::"))) ||
    ((← peek (.keyword "static")) && ((← peek2 (.keyword "mut")) || (← peek2 .identifier))) ||
    ((← peek (.keyword "const")) && !((← peek2 (.group .brace)) || (← peek2 (.keyword "static")) ||
      ((← peek2 (.keyword "async")) && !((← peek3 (.keyword "unsafe")) ||
        (← peek3 (.keyword "extern")) || (← peek3 (.keyword "fn")))) ||
      (← peek2 (.keyword "move")) || (← peek2 (.operator "|")))) ||
    ((← peek (.keyword "unsafe")) && !(← peek2 (.group .brace))) ||
    ((← peek (.keyword "async")) && ((← peek2 (.keyword "unsafe")) ||
      (← peek2 (.keyword "extern")) || (← peek2 (.keyword "fn")))) ||
    ((← peek (.keyword "union")) && (← peek2 .identifier)) ||
    ((← peek (.keyword "auto")) && (← peek2 (.keyword "trait"))) ||
    ((← peek (.keyword "default")) && ((← peek2 (.keyword "unsafe")) || (← peek2 (.keyword "impl"))))

/-- A binding, perhaps with a block for when its pattern does not fit. -/
def binding (g : Grammar) : Reader Tokens := do
  let let_ ← keyword "let"
  let pattern ← g.pattern
  let type ←
    if ← peek (.operator ":") then
      let colon ← operator ":"
      pure (colon ++ (← g.type true true).tokens)
    else pure []
  let value ←
    if ← peek (.operator "=") then
      let equals ← operator "="
      let value ← g.expression true
      if !value.endsInBrace && (← peek (.keyword "else")) then
        let else_ ← keyword "else"
        pure (equals ++ value.tokens ++ else_ ++ (← bareBlock g))
      else pure (equals ++ value.tokens)
    else pure []
  return let_ ++ pattern.tokens ++ type ++ value ++ (← operator ";")

def statement (g : Grammar) : Reader Statement := do
  let attributes ← outerAttributes g
  let front := attributes.flatMap Attribute.tokens
  match ← ahead callForm with
  | .statement =>
    let p ← plainPath
    let bang ← operator "!"
    let (_, arguments) ← macroArguments
    return (front ++ p.tokens ++ bang ++ arguments ++ (← operator? ";"), false)
  | .item => return ((← itemBehind g attributes).tokens, false)
  | .none =>
    if (← peek (.keyword "let")) && !(← peek (.group .invisible)) then
      return (front ++ (← binding g), false)
    else if ← showsItem then return ((← itemBehind g attributes).tokens, false)
    else
      let e ← earlyOnce g
      let semicolon ← operator? ";"
      return (front ++ e.tokens ++ semicolon, semicolon.isEmpty && e.needsSemicolon)

/-- The statements up to the end of the scope; see `Grammar.statements`. -/
def statementsOnce (g : Grammar) : Reader Tokens :=
  loop (fun (read : Tokens) => do
    if ← peek (.operator ";") then return .again (read ++ (← operator ";"))
    if ← atEnd then return .done read
    let (ts, open_) ← statement g
    if ← atEnd then return .done (read ++ ts)
    if open_ then complain .missingSemicolon
    return .again (read ++ ts)) []

end TypedId.Grammar
