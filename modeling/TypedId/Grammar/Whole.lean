/-
The grammar as a whole. A part of the grammar is read inside another one only
behind a token of the latter, so the number of tokens bounds how deep the parts
nest, and `deep` of that number is the grammar for all of them.
-/
import TypedId.Grammar.Statements

namespace TypedId.Grammar

/-- The grammar of texts whose parts nest at most so deep; deeper ones are refused. -/
def deep : Nat → Grammar
  | 0 => stuck
  | n + 1 =>
    let g := deep n
    { type := typeOnce g
      bound := boundOnce g
      expression := expressionOnce g
      unary := unaryOnce g
      climb := climbOnce g
      early := earlyOnce g
      pattern := patternOnce g
      statements := statementsOnce g
      item := itemOnce g
      fields := fieldsOnce g
      imports := importsOnce g }

/-- A part of the grammar, nested as deep as the tokens to be read allow. -/
def whole {α : Type} (part : Grammar → Reader α) : Reader α := fun s c =>
  part (deep (c.weight + 1)) s c

/-- A type. -/
def anyType : Reader RawType := whole fun g => typeOnce g true true

/-- A path with generic arguments, but without parenthesised ones. -/
def anyPath : Reader Path := whole fun g => path g false

/-- A declaration. -/
def anyItem : Reader Item := whole itemOnce

/-- Attributes before a declaration. -/
def anyAttributes : Reader (List Attribute) := whole outerAttributes

end TypedId.Grammar
