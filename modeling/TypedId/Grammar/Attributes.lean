/-
Reading plain paths, visibilities and attributes.
-/
import TypedId.Grammar.Core

namespace TypedId.Grammar

open Reader

/-- The double colon; gives its place. -/
def separator : Reader Span := return Tokens.span (← operator "::")

/-- A leading `::`, if it is there. -/
def separator? : Reader (Option Span) := do
  if ← peek (.operator "::") then return some (← separator) else return none

/-- The words that can be segments of a plain path. -/
def segmentSigns : List Sign :=
  [.identifier, .keyword "super", .keyword "self", .keyword "Self", .keyword "crate"]

/-- A path of words without arguments. -/
def plainPath : Reader Path := do
  let absolute ← separator?
  if ← peekAny segmentSigns then
    let first ← word
    loop segments { absolute, first := ⟨first, .none⟩, others := [] }
  else
    let _ ← identifier
    complain .stuck
where
  segments (read : Path) : Reader (Round Path Path) := do
    if ← peek (.operator "::") then
      let _ ← separator
      if ← peekAny segmentSigns then return .again (read.push ⟨← word, .none⟩)
      else wanted "path segment after `::`"
    else return .done read

/-- What restricts a visibility behind its `pub`. Parentheses that hold anything but one of the
known words, or a path behind `in`, do not belong to it. -/
def restriction (pub : Span) : Reader Visibility := do
  match ← look (Tokens.group? .parenthesis) with
  | none => return .everywhere pub
  | some (content, _, _) =>
    if [Sign.keyword "crate", .keyword "self", .keyword "super"].any (·.shows content) then
      if (Tokens.word? content).any (·.2.isEmpty) then
        let (parens, w) ← group .parenthesis word
        return .restricted pub parens none (.ofIdent w)
      else return .everywhere pub
    else if (Sign.keyword "in").shows content then
      let (parens, within, path) ← group .parenthesis do
        let within ← keyword "in"
        return (Tokens.span within, ← plainPath)
      return .restricted pub parens (some within) path
    else return .everywhere pub

/-- A visibility as its words show it. -/
def shownVisibility : Reader Visibility := do
  if ← peek (.keyword "pub") then restriction (Tokens.span (← keyword "pub"))
  else return .inherited

/-- Whether an invisible group without contents stands in front. -/
def showsEmpty : Tokens → Bool
  | .group .invisible [] _ :: _ => true
  | _ => false

/-- A visibility. An invisible group without contents is one too, and shows none. -/
def visibility : Reader Visibility := do
  if ← look showsEmpty then
    fun _ c => .ok (.inherited, { c with rest := c.rest.tail })
  else shownVisibility

/-- What follows the path inside an attribute. -/
def attributeBody (g : Grammar) : Reader AttributeBody := do
  if ← peekAny [.group .parenthesis, .group .bracket, .group .brace] then
    let (d, content, place) ← anyGroup
    return .list d content place
  else if (← peek (.operator "=")) && !(← peek (.operator "==")) && !(← peek (.operator "=>")) then
    let equals := Tokens.span (← operator "=")
    if ← look fun ts => (Tokens.value? ts).any (·.2.isEmpty) then
      return .value equals (← literal)
    else if (← peek (.operator "#")) && (← peek2 (.group .bracket)) then
      complain .attributeInAttribute
    else return .value equals (← g.expression true).tokens
  else return .bare

/-- The path and the body of an attribute; `unsafe` may stand for the path. -/
def attributeContent (g : Grammar) : Reader (Path × AttributeBody) := do
  let path ← if ← peek (.keyword "unsafe") then Path.ofIdent <$> word else plainPath
  return (path, ← attributeBody g)

def outerAttribute (g : Grammar) : Reader Attribute := do
  let hash := Tokens.span (← operator "#")
  let (bracket, path, body) ← group .bracket (attributeContent g)
  return { hash, bang := none, bracket, path, body }

def innerAttribute (g : Grammar) : Reader Attribute := do
  let hash := Tokens.span (← operator "#")
  let bang := Tokens.span (← operator "!")
  let (bracket, path, body) ← group .bracket (attributeContent g)
  return { hash, bang := some bang, bracket, path, body }

def outerAttributes (g : Grammar) : Reader (List Attribute) :=
  whileM (peek (.operator "#")) (outerAttribute g)

def innerAttributes (g : Grammar) : Reader (List Attribute) :=
  whileM (do return (← peek (.operator "#")) && (← peek2 (.operator "!"))) (innerAttribute g)

/-- Outer attributes, as they are written back. -/
def outerTokens (g : Grammar) : Reader Tokens :=
  return (← outerAttributes g).flatMap Attribute.tokens

def innerTokens (g : Grammar) : Reader Tokens :=
  return (← innerAttributes g).flatMap Attribute.tokens

/-- Statements in braces, after attributes of the block itself. -/
def block (g : Grammar) : Reader Tokens :=
  groupTokens .brace do return (← innerTokens g) ++ (← g.statements)

/-- Statements in braces. -/
def bareBlock (g : Grammar) : Reader Tokens := groupTokens .brace g.statements

/-- A macro's arguments, kept as they stand. -/
def macroArguments : Reader (Delimiter × Tokens) := do
  let (d, content, place) ← anyGroup
  return (d, [.group d content place])

end TypedId.Grammar
