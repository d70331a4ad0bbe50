/-
Reading structs, enums and unions. Of structs the parts are kept; the others
are written back as they were read.
-/
import TypedId.Grammar.Functions

namespace TypedId.Grammar

open Reader

/-! ## Fields -/

/-- A named field. A field without a name can have its own fields for a type. -/
def namedField (g : Grammar) : Reader Field := do
  let attributes ← outerAttributes g
  let visibility ← visibility
  let nameless ← peek (.keyword "_")
  let name ← if nameless then word else identifier
  let _ ← operator ":"
  let type ←
    if nameless && ((← peek (.keyword "struct")) ||
        ((← peek (.keyword "union")) && (← peek2 (.group .brace)))) then
      let (_, source) ← withSource do
        let _ ← word
        let _ ← group .brace g.fields
      pure (.other source)
    else g.type true true
  return { attributes, visibility, name := some name, type }

/-- A field of a tuple struct. -/
def tupleField (g : Grammar) : Reader Field := do
  let attributes ← outerAttributes g
  let visibility ← visibility
  return { attributes, visibility, name := none, type := ← g.type true true }

/-- Named fields up to the end of the scope; see `Grammar.fields`. -/
def fieldsOnce (g : Grammar) : Reader (List (Field × Tokens)) := commaList (namedField g)

/-- Fields in their delimiters, with their tokens. -/
abbrev Fields := List Field × Tokens

def fieldsOf (d : Delimiter) (list : Reader (List (Field × Tokens))) : Reader Fields := do
  let (place, fields) ← group d list
  return (fields.map (·.1), [.group d (fields.flatMap fun f => f.1.tokens ++ f.2) place])

def namedFields (g : Grammar) : Reader Fields := fieldsOf .brace (fieldsOnce g)

def tupleFields (g : Grammar) : Reader Fields := fieldsOf .parenthesis (commaList (tupleField g))

/-! ## Declarations -/

/-- What follows a struct's generic parameters: the where clause, the fields and the tokens. -/
def structBody (g : Grammar) : Reader (Option WhereClause × List Field × Tokens) := do
  let clause ← whereClause? g
  let before := (clause.map (·.tokens)).getD []
  if clause.isNone && (← peek (.group .parenthesis)) then
    let (fields, ts) ← tupleFields g
    let clause ← whereClause? g
    if ← peek (.operator ";") then
      let semicolon ← operator ";"
      return (clause, fields, ts ++ (clause.map (·.tokens)).getD [] ++ semicolon)
    else expected (if clause.isNone then [.keyword "where", .operator ";"] else [.operator ";"])
  else if ← peek (.group .brace) then
    let (fields, ts) ← namedFields g
    return (clause, fields, before ++ ts)
  else if ← peek (.operator ";") then return (clause, [], before ++ (← operator ";"))
  else if clause.isNone then
    expected [.keyword "where", .group .parenthesis, .group .brace, .operator ";"]
  else expected [.group .brace, .operator ";"]

/-- A struct behind its attributes. -/
def structItem (g : Grammar) (attributes : List Attribute) : Reader Item := do
  let visibility ← visibility
  let struct_ ← keyword "struct"
  let name ← identifier
  let generics ← generics g
  let (whereClause, fields, body) ← structBody g
  return .struct { attributes, visibility, name, generics, whereClause, fields }
    (attributes.flatMap Attribute.tokens ++ visibility.tokens ++ struct_ ++ [name.token] ++
      generics.tokens ++ body)

def variant (g : Grammar) : Reader Tokens := do
  let attributes ← outerTokens g
  let _ ← visibility
  let name ← identifier
  let fields ←
    if ← peek (.group .brace) then Prod.snd <$> namedFields g
    else if ← peek (.group .parenthesis) then Prod.snd <$> tupleFields g
    else pure []
  let value ←
    if ← peek (.operator "=") then
      let equals ← operator "="
      pure (equals ++ (← g.expression true).tokens)
    else pure []
  return attributes ++ [name.token] ++ fields ++ value

def enumItem (g : Grammar) : Reader Tokens := do
  let visible ← visibility
  let enum_ ← keyword "enum"
  let name ← identifier
  let generics ← generics g
  let bounds ← whereTokens g
  let variants ← groupTokens .brace (commaTokens (variant g))
  return visible.tokens ++ enum_ ++ [name.token] ++ generics.tokens ++ bounds ++ variants

def unionItem (g : Grammar) : Reader Tokens := do
  let visible ← visibility
  let union_ ← keyword "union"
  let name ← identifier
  let generics ← generics g
  let bounds ← whereTokens g
  let (_, fields) ← namedFields g
  return visible.tokens ++ union_ ++ [name.token] ++ generics.tokens ++ bounds ++ fields

end TypedId.Grammar
