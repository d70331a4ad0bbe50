/-
Declaring a new identifier type: a visibility, a raw type, a name in quotes
and options. Missing pieces and faulty options are reported together.
-/
import TypedId.Derives
import TypedId.Diagnostics

namespace TypedId.Freestanding

open Reader

/-- The pieces as they stand, before it is checked that they are all there. -/
structure Pieces where
  visibility : Visibility
  rawType : Option RawType
  name : Option TextLiteral
  options : Tokens

/-- A comma, unless nothing follows. -/
def separator : Reader Unit := do
  if ← atEnd then return ()
  let _ ← operator ","

/-- The raw type, unless it was left out. -/
def rawType? : Reader (Option RawType) := do
  if (← atEnd) || (← peekAny [.stringLiteral, .operator ","]) then return none
  else return some (← Grammar.anyType)

/-- The name in quotes and the comma behind it, unless it was left out. -/
def name? : Reader (Option TextLiteral) := do
  if ← peek .stringLiteral then
    let name ← textLiteral
    separator
    return some name
  else return none

def pieces : Reader Pieces := do
  let visibility ← Grammar.visibility
  let rawType ← rawType?
  if rawType.isSome || (← peek (.operator ",")) then separator
  let name ← name?
  return { visibility, rawType, name, options := ← remaining }

/-- The declaration that the pieces make up. -/
def Pieces.declaration (p : Pieces) : Except Report Declaration :=
  let nameSpan := (p.rawType.map RawType.span).getD .callSite
  let ds := Diagnostics.empty
  let ds := if p.rawType.isSome then ds else ds.push ⟨.rawType none, .callSite⟩
  let ds := if p.name.isSome then ds else ds.push ⟨.missingName, nameSpan⟩
  let (options, ds) := ds.check ((Options.ofTokens .deriveAndCrate p.options).mapError Report.ofFault)
  ds.conclude do
    let rawType ← p.rawType
    let name ← p.name
    let options ← options
    return {
      name := ⟨name.text, name.span⟩
      rawType
      capabilities := options.capabilities
      visibility := p.visibility
      attributes := []
      form := .freestanding
      cratePath := options.cratePath }

/-- Reads the input of a freestanding declaration. -/
def parse (input : Tokens) : Except Report Declaration := do
  let p ← (run pieces input).mapError Report.ofFault
  p.declaration

end TypedId.Freestanding
