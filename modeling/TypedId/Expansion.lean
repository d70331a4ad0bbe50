/-
Expansion: reading a declaration, checking it, making code of it. The first
stage that fails ends it, and its report is all that is written.
-/
import TypedId.Attached
import TypedId.Emission
import TypedId.Freestanding
import TypedId.Validation

namespace TypedId

/-- Where an expansion ended before its time. -/
inductive Stage where
  | parse
  | validate
  | generate
deriving DecidableEq, Repr

namespace Stage

def name : Stage → String
  | .parse => "parse"
  | .validate => "validate"
  | .generate => "generate"

end Stage

/-- How an expansion went: the declaration if there is one, and its code or a report. -/
structure Expansion where
  declaration : Option Declaration
  result : Except (Stage × Report) Tokens

namespace Expansion

def ofDeclaration (d : Declaration) : Except (Stage × Report) Tokens := do
  (Validation.validate d).mapError fun r => (.validate, r)
  (Emission.generate d).mapError fun r => (.generate, r)

def ofParsed : Except Report Declaration → Expansion
  | .ok d => ⟨some d, ofDeclaration d⟩
  | .error r => ⟨none, .error (.parse, r)⟩

/-- Expands a freestanding declaration. -/
def freestanding (input : Tokens) : Expansion := ofParsed (Freestanding.parse input)

/-- Expands a declaration that is attached to an item. -/
def attached (args item : Tokens) : Expansion := ofParsed (Attached.parse args item)

/-- What is written in either case. -/
def tokens (e : Expansion) : Tokens :=
  match e.result with
  | .ok ts => ts
  | .error (_, r) => r.tokens

end Expansion

end TypedId
