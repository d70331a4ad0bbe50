/-
Reading declarations. What a declaration is shows behind its visibility, so a
look ahead decides first and the declaration is read from its start then.
-/
import TypedId.Grammar.Members

namespace TypedId.Grammar

open Reader

/-! ## Imports -/

/-- A tree of imports; see `Grammar.imports`. -/
def importsOnce (g : Grammar) (root : Bool) : Reader (Tokens × Bool) := do
  if ← peekAny [.identifier, .keyword "self", .keyword "super", .keyword "crate", .keyword "try"] then
    let name ← word
    if ← peek (.operator "::") then
      let colons ← operator "::"
      let (rest, _) ← g.imports false
      return (name.token :: colons ++ rest, false)
    else if ← peek (.keyword "as") then
      let as ← keyword "as"
      let other ←
        if ← peekAny [.identifier, .keyword "_"] then word
        else wanted "identifier or underscore"
      return (name.token :: as ++ [other.token], false)
    else return ([name.token], false)
  else if ← peek (.operator "*") then return (← operator "*", false)
  else if ← peek (.group .brace) then
    let (place, ts, fromRoot) ← group .brace <| loop (fun ((read, fromRoot) : Tokens × Bool) => do
      if ← atEnd then return .done (read, fromRoot)
      let start ← if root then operator? "::" else pure []
      let (tree, deep) ← g.imports (root && start.isEmpty)
      let read := read ++ start ++ tree
      let fromRoot := fromRoot || !start.isEmpty || deep
      if ← atEnd then return .done (read, fromRoot)
      return .again (read ++ (← operator ","), fromRoot)) ([], false)
    return ([.group .brace ts place], fromRoot)
  else
    expected [.identifier, .keyword "self", .keyword "super", .keyword "crate", .keyword "try",
      .operator "*", .group .brace]

def useItem (g : Grammar) : Reader Tokens := do
  let visible ← visibility
  let use_ ← keyword "use"
  let start ← operator? "::"
  let (tree, _) ← importsOnce g start.isEmpty
  let semicolon ← operator ";"
  return visible.tokens ++ use_ ++ start ++ tree ++ semicolon

def externCrate : Reader Tokens := do
  let visible ← visibility
  let extern_ ← keyword "extern"
  let crate ← keyword "crate"
  let name ← if ← peek (.keyword "self") then word else identifier
  let renamed ←
    if ← peek (.keyword "as") then
      let as ← keyword "as"
      let other ← if ← peek (.keyword "_") then word else identifier
      pure (as ++ [other.token])
    else pure []
  return visible.tokens ++ extern_ ++ crate ++ [name.token] ++ renamed ++ (← operator ";")

/-! ## Blocks of declarations -/

def foreignModule (g : Grammar) : Reader Tokens := do
  let safety ← keyword? "unsafe"
  let extern_ ← keyword "extern"
  let name ← optional .stringLiteral (literalOf .stringLiteral)
  return safety ++ extern_ ++ name ++ (← members g (foreignMember g))

def module (g : Grammar) : Reader Tokens := do
  let visible ← visibility
  let safety ← keyword? "unsafe"
  let mod_ ← keyword "mod"
  let name ← if ← peek (.keyword "try") then word else identifier
  let head := visible.tokens ++ safety ++ mod_ ++ [name.token]
  if ← peek (.operator ";") then return head ++ (← operator ";")
  else if ← peek (.group .brace) then return head ++ (← members g (Item.tokens <$> g.item))
  else expected [.operator ";", .group .brace]

/-- A trait behind its name and generic parameters. -/
def traitBody (g : Grammar) : Reader Tokens := do
  let colon ← operator? ":"
  let above ←
    if colon.isEmpty then pure [] else boundsBefore g true [.keyword "where", .group .brace]
  let bounds ← whereTokens g
  return colon ++ above ++ bounds ++ (← members g (traitMember g))

/-- A trait that words may stand before. -/
def markedTrait (g : Grammar) : Reader Tokens := do
  let visible ← visibility
  let safety ← keyword? "unsafe"
  let auto ← keyword? "auto"
  let trait_ ← keyword "trait"
  let name ← identifier
  let generics ← generics g
  return visible.tokens ++ safety ++ auto ++ trait_ ++ [name.token] ++ generics.tokens ++
    (← traitBody g)

/-- A trait, or another name for a sum of traits. -/
def traitOrAlias (g : Grammar) : Reader Tokens := do
  let visible ← visibility
  let trait_ ← keyword "trait"
  let name ← identifier
  let generics ← generics g
  let head := visible.tokens ++ trait_ ++ [name.token] ++ generics.tokens
  if ← peekAny [.group .brace, .operator ":", .keyword "where"] then
    return head ++ (← traitBody g)
  else if ← peek (.operator "=") then
    let equals ← operator "="
    let sum ← boundsBefore g false [.keyword "where", .operator ";"]
    let bounds ← whereTokens g
    return head ++ equals ++ sum ++ bounds ++ (← operator ";")
  else expected [.group .brace, .operator ":", .keyword "where", .operator "="]

/-- Whether the `<` behind `impl` opens parameters and not a type. -/
def showsParameters : Reader Bool := do
  return (← peek (.operator "<")) &&
    ((← peek2 (.operator ">")) || (← peek2 (.operator "#")) || (← peek2 (.keyword "const")) ||
      (((← peek2 .identifier) || (← peek2 .lifetime)) &&
        ((← peek3 (.operator ":")) || (← peek3 (.operator ",")) || (← peek3 (.operator ">")) ||
          (← peek3 (.operator "=")))))

def implementation (g : Grammar) : Reader Tokens := do
  let visible ← visibility
  let default_ ← keyword? "default"
  let safety ← keyword? "unsafe"
  let impl_ ← keyword "impl"
  let generics ← if ← showsParameters then Generics.tokens <$> generics g else pure []
  let constness ←
    if (← peek (.keyword "const")) || ((← peek (.operator "?")) && (← peek2 (.keyword "const"))) then
      let mark ← operator? "?"
      pure (mark ++ (← keyword "const"))
    else pure []
  let polarity ←
    if (← peek (.operator "!")) && !(← peek2 (.group .brace)) then operator "!" else pure []
  let first ← g.type true true
  let type ←
    if ← peek (.keyword "for") then
      let for_ ← keyword "for"
      pure (first.tokens ++ for_ ++ (← g.type true true).tokens)
    else if polarity.isEmpty then pure first.tokens
    else failAt (Tokens.span polarity) .negativeInherent
  let bounds ← whereTokens g
  return visible.tokens ++ default_ ++ safety ++ impl_ ++ generics ++ constness ++ polarity ++ type ++
    bounds ++ (← members g (implementationMember g))

/-! ## Other declarations -/

def functionItem (g : Grammar) : Reader Tokens := do
  let visible ← visibility
  let head ← signature g false
  if ← peek (.operator ";") then return visible.tokens ++ head ++ (← operator ";")
  else return visible.tokens ++ head ++ (← block g)

def staticItem (g : Grammar) : Reader Tokens := do
  let visible ← visibility
  let static_ ← keyword "static"
  let mut_ ← keyword? "mut"
  let name ← identifier
  let head := visible.tokens ++ static_ ++ mut_ ++ [name.token]
  if ← peek (.operator "=") then
    let equals ← operator "="
    return head ++ equals ++ (← g.expression true).tokens ++ (← operator ";")
  else
    let colon ← operator ":"
    let type ← g.type true true
    let head := head ++ colon ++ type.tokens
    if ← peek (.operator ";") then return head ++ (← operator ";")
    else
      let equals ← operator "="
      return head ++ equals ++ (← g.expression true).tokens ++ (← operator ";")

/-- A macro declared by `macro`, kept as it stands. -/
def macroItem : Reader Tokens := do
  let visible ← visibility
  let macro_ ← keyword "macro"
  let name ← identifier
  let inputs ←
    if ← peek (.group .parenthesis) then groupTokens .parenthesis remaining else pure []
  if ← peek (.group .brace) then
    return visible.tokens ++ macro_ ++ [name.token] ++ inputs ++ (← groupTokens .brace remaining)
  else if inputs.isEmpty then expected [.group .parenthesis, .group .brace]
  else expected [.group .brace]

/-! ## Declarations -/

inductive ItemForm where
  | function
  | externCrate
  | foreignModule
  | imports
  | static
  | constant
  | markedTrait
  | implementation
  | module
  | alias
  | struct
  | enum
  | union
  | trait
  | macro2
  | call

/-- What a declaration can begin with behind its visibility. -/
def itemSigns : List Sign :=
  [.keyword "fn", .keyword "extern", .keyword "use", .keyword "static", .keyword "const",
   .keyword "unsafe", .keyword "mod", .keyword "type", .keyword "struct", .keyword "enum",
   .keyword "union", .keyword "trait", .keyword "auto", .keyword "impl", .keyword "default",
   .keyword "macro"]

/-- What follows `extern` if no function does. -/
def externForm : Reader ItemForm := do
  let _ ← keyword "extern"
  if ← peek (.keyword "crate") then return .externCrate
  else if ← peek (.group .brace) then return .foreignModule
  else if ← peek .stringLiteral then
    let _ ← literalOf .stringLiteral
    if ← peek (.group .brace) then return .foreignModule else expected [.group .brace]
  else expected [.keyword "crate", .group .brace, .stringLiteral]

/-- What follows `unsafe` if no function does. -/
def unsafeForm : Reader ItemForm := do
  let _ ← keyword "unsafe"
  if (← peek (.keyword "trait")) ||
      ((← peek (.keyword "auto")) && (← peek2 (.keyword "trait"))) then return .markedTrait
  else if ← peek (.keyword "impl") then return .implementation
  else if ← peek (.keyword "extern") then return .foreignModule
  else if ← peek (.keyword "mod") then return .module
  else
    expectedOthers [.keyword "trait", .keyword "auto", .keyword "impl", .keyword "extern",
      .keyword "mod"]

/-- Looks ahead for the kind of the next declaration. -/
def itemForm : Reader ItemForm := do
  let visible ← visibility
  if ← showsFunction false then return .function
  else if ← peek (.keyword "extern") then externForm
  else if ← peek (.keyword "use") then return .imports
  else if ← peek (.keyword "static") then return .static
  else if ← peek (.keyword "const") then return .constant
  else if ← peek (.keyword "unsafe") then unsafeForm
  else if ← peek (.keyword "mod") then return .module
  else if ← peek (.keyword "type") then return .alias
  else if ← peek (.keyword "struct") then return .struct
  else if ← peek (.keyword "enum") then return .enum
  else if (← peek (.keyword "union")) && (← peek2 .identifier) then return .union
  else if ← peek (.keyword "trait") then return .trait
  else if (← peek (.keyword "auto")) && (← peek2 (.keyword "trait")) then return .markedTrait
  else if (← peek (.keyword "impl")) ||
      ((← peek (.keyword "default")) && !(← peek2 (.operator "!"))) then return .implementation
  else if ← peek (.keyword "macro") then return .macro2
  else if visible.isInherited && (← peekAny macroSigns) then return .call
  else expectedOthers (itemSigns ++ if visible.isInherited then macroSigns else [])

/-- A declaration behind its attributes. -/
def itemBehind (g : Grammar) (attributes : List Attribute) : Reader Item := do
  let other (p : Reader Tokens) : Reader Item := do
    return .other (attributes.flatMap Attribute.tokens ++ (← p))
  match ← ahead itemForm with
  | .struct => structItem g attributes
  | .function => other (functionItem g)
  | .externCrate => other externCrate
  | .foreignModule => other (foreignModule g)
  | .imports => other (useItem g)
  | .static => other (staticItem g)
  | .constant => other do return (← visibility).tokens ++ (← constant g)
  | .markedTrait => other (markedTrait g)
  | .implementation => other (implementation g)
  | .module => other (module g)
  | .alias => other (typeAlias g false .beforeEquals)
  | .enum => other (enumItem g)
  | .union => other (unionItem g)
  | .trait => other (traitOrAlias g)
  | .macro2 => other macroItem
  | .call => other (macroCall true)

/-- A declaration; see `Grammar.item`. -/
def itemOnce (g : Grammar) : Reader Item := do itemBehind g (← outerAttributes g)

end TypedId.Grammar
