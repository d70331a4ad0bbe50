/-
Reading the declarations inside traits, implementations and blocks of foreign
functions.
-/
import TypedId.Grammar.Structs

namespace TypedId.Grammar

open Reader

/-- A function that is either given a body or ended by a semicolon. -/
def functionMember (g : Grammar) : Reader Tokens := do
  let head ← signature g false
  if ← peek (.group .brace) then return head ++ (← block g)
  else if ← peek (.operator ";") then return head ++ (← operator ";")
  else expected [.group .brace, .operator ";"]

/-! ## Traits -/

def traitMember (g : Grammar) : Reader Tokens := do
  let attributes ← outerTokens g
  let visible ← visibility
  let default_ ← keyword? "default"
  let inherited := visible.isInherited && default_.isEmpty
  let signs : List Sign := [.keyword "fn", .keyword "const", .keyword "type"]
  let member ←
    if ← showsFunction false then functionMember g
    else if ← peek (.keyword "const") then
      if ← ahead (do let _ ← keyword "const"; peekAny [.identifier, .keyword "_"]) then constant g
      else if ← ahead (do
          let _ ← keyword "const"
          peekAny [.keyword "async", .keyword "unsafe", .keyword "extern", .keyword "fn"]) then
        functionMember g
      else
        ahead do
          let _ ← keyword "const"
          expected [.identifier, .keyword "_", .keyword "async", .keyword "unsafe",
            .keyword "extern", .keyword "fn"]
    else if ← peek (.keyword "type") then typeAlias g false .afterEquals
    else if inherited && (← peekAny macroSigns) then macroCall false
    else expected (if inherited then signs ++ macroSigns else signs)
  return attributes ++ visible.tokens ++ default_ ++ member

/-! ## Implementations -/

/-- What kind of member an implementation goes on with. -/
inductive MemberForm where
  | function
  | constant
  | type
  | call

/-- Looks ahead for the kind of the next member. -/
def memberForm : Reader MemberForm := do
  let visible ← visibility
  let isDefault := (← peek (.keyword "default")) && !(← peek2 (.operator "!"))
  if isDefault then
    let _ ← keyword "default"
  let inherited := visible.isInherited && !isDefault
  if ← showsFunction false then return .function
  else if ← peek (.keyword "const") then return .constant
  else if ← peek (.keyword "type") then return .type
  else if inherited && (← peekAny macroSigns) then return .call
  else
    expectedOthers ((if isDefault then [] else [.keyword "default"]) ++
      [.keyword "fn", .keyword "const", .keyword "type"] ++ if inherited then macroSigns else [])

def implementationMember (g : Grammar) : Reader Tokens := do
  let attributes ← outerTokens g
  let member ←
    match ← ahead memberForm with
    | .function => do
      let visible ← visibility
      let default_ ← keyword? "default"
      let head ← signature g false
      if ← peek (.operator ";") then pure (visible.tokens ++ default_ ++ head ++ (← operator ";"))
      else pure (visible.tokens ++ default_ ++ head ++ (← block g))
    | .constant => do
      let visible ← visibility
      let default_ ← keyword? "default"
      pure (visible.tokens ++ default_ ++ (← constant g))
    | .type => typeAlias g true .afterEquals
    | .call => macroCall false
  return attributes ++ member

/-! ## Foreign declarations -/

/-- Looks ahead for the kind of the next foreign declaration; a constant stands for a static. -/
def foreignForm : Reader MemberForm := do
  let visible ← visibility
  if ← showsFunction true then return .function
  else if (← peek (.keyword "static")) || ((← peekAny [.keyword "unsafe", .keyword "safe"]) &&
      (← peek2 (.keyword "static"))) then return .constant
  else if ← peek (.keyword "type") then return .type
  else if visible.isInherited && (← peekAny macroSigns) then return .call
  else
    expected ([.keyword "fn", .keyword "static", .keyword "type"] ++
      if visible.isInherited then macroSigns else [])

def foreignMember (g : Grammar) : Reader Tokens := do
  let attributes ← outerTokens g
  let member ←
    match ← ahead foreignForm with
    | .function => do
      let visible ← visibility
      let head ← signature g true
      if ← peek (.group .brace) then pure (visible.tokens ++ head ++ (← block g))
      else pure (visible.tokens ++ head ++ (← operator ";"))
    | .constant => do
      let visible ← visibility
      let safety ← if ← peek (.keyword "safe") then keyword "safe" else keyword? "unsafe"
      let static_ ← keyword "static"
      let mut_ ← keyword? "mut"
      let name ← identifier
      let colon ← operator ":"
      let type ← g.type true true
      let value ←
        if ← peek (.operator "=") then
          let equals ← operator "="
          pure (equals ++ (← g.expression true).tokens)
        else pure []
      pure (visible.tokens ++ safety ++ static_ ++ mut_ ++ [name.token] ++ colon ++ type.tokens ++
        value ++ (← operator ";"))
    | .type => typeAlias g false .either
    | .call => macroCall false
  return attributes ++ member

end TypedId.Grammar
