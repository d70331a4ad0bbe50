/-
Making an identifier type of a struct that is written out: the arguments give
the raw type and options, the struct everything else. Its body has to be
empty, since the raw value is to be its only field.
-/
import TypedId.Derives
import TypedId.Diagnostics

namespace TypedId.Attached

open Reader

structure Arguments where
  rawType : Option RawType
  options : Tokens

def arguments : Reader Arguments := do
  if ← atEnd then return ⟨none, []⟩
  let rawType ← Grammar.anyType
  if ← atEnd then return ⟨some rawType, []⟩
  let _ ← operator ","
  return ⟨some rawType, ← remaining⟩

/-- The struct, if its body can be filled in. -/
def fillable : Item → Except Diagnostic StructItem
  | .other ts => .error ⟨.declaration "expected a struct declaration", Tokens.span ts⟩
  | .struct s _ =>
    if s.generics.count ≠ 0 then
      .error ⟨.declaration "identifier structs cannot be generic", Tokens.span s.generics.tokens⟩
    else
      match s.whereClause, s.fields with
      | some clause, _ =>
        .error ⟨.declaration "identifier structs cannot have a where clause", clause.place⟩
      | none, field :: _ =>
        .error ⟨.declaration
          "the struct body must be empty; the macro adds the `raw_value` field", field.span⟩
      | none, [] => .ok s

/-- The declaration made of the arguments and the item. -/
def declaration (args : Arguments) (item : Item) : Except Report Declaration :=
  let ds := Diagnostics.empty
  let ds := if args.rawType.isSome then ds else ds.push ⟨.rawType none, .callSite⟩
  let (options, ds) := ds.check ((Options.ofTokens .crateOnly args.options).mapError Report.ofFault)
  let (target, ds) := ds.check ((fillable item).mapError Report.ofDiagnostic)
  let (split, ds) :=
    match target with
    | some s => ds.check ((splitDerives s.attributes).mapError Report.ofFault)
    | none => (none, ds)
  ds.conclude do
    let rawType ← args.rawType
    let options ← options
    let target ← target
    let (capabilities, attributes) ← split
    return {
      name := .ofIdent target.name
      rawType
      capabilities
      visibility := target.visibility
      attributes
      form := .attached
      cratePath := options.cratePath }

/-- Reads the arguments and the item they are attached to. -/
def parse (args item : Tokens) : Except Report Declaration := do
  let args ← (run arguments args).mapError Report.ofFault
  let item ← (run Grammar.anyItem item).mapError Report.ofFault
  declaration args item

end TypedId.Attached
