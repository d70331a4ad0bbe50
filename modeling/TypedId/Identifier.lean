/-
Identifiers. An identifier type gives raw values a type of their own: its
identifiers are equal, ordered and shown as their raw values are, and those of
two types do not mix. As data an identifier is its bare raw value, or a record
with the raw value in its only field.
-/
import TypedId.Event
import TypedId.RawValue

namespace TypedId

/-- A type of identifiers over raw values of one type. -/
structure IdentifierType (α : Type) where
  /-- The path of the module that declares it. -/
  scope : String
  name : String
  /-- Whether the derived form as data is the bare raw value. -/
  transparent : Bool
deriving DecidableEq, Repr

def IdentifierType.qualifiedName {α : Type} (T : IdentifierType α) : String :=
  T.scope ++ "::" ++ T.name

structure Identifier {α : Type} (T : IdentifierType α) where
  rawValue : α
deriving DecidableEq, Repr

namespace Identifier

variable {α : Type} [RawValue α] {T : IdentifierType α}

/-- The name of the only field. -/
def fieldName : String := "raw_value"

/-- The text in debugging output. -/
def debug (i : Identifier T) : String :=
  T.name ++ " \x7b " ++ fieldName ++ ": " ++ RawValue.debug i.rawValue ++ " \x7d"

def order (i j : Identifier T) : Ordering := RawValue.order i.rawValue j.rawValue

/-! ## From text -/

/-- A text that is no raw value of a type. -/
structure ParseError where
  typeName : String
  input : String
  fault : RawValue.Fault
deriving DecidableEq, Repr

namespace ParseError

def message (e : ParseError) : String :=
  "failed to parse `" ++ e.input ++ "` as " ++ e.typeName ++ ": " ++ e.fault.message

def event (e : ParseError) : Event :=
  ⟨.debug, "identifier parse failed",
    [("identifier", e.typeName), ("input", e.input), ("error", e.fault.message)]⟩

end ParseError

/-- The identifier whose raw value a text denotes, and what is logged on the way. -/
def parse (T : IdentifierType α) (input : String) :
    Except ParseError (Identifier T) × List Event :=
  match RawValue.read input with
  | .ok r => (.ok ⟨r⟩, [])
  | .error f =>
    let e : ParseError := ⟨T.qualifiedName, input, f⟩
    (.error e, [e.event])

/-! ## As bare raw values -/

def toBareData (i : Identifier T) : Except Data.Fault Data := RawValue.toData i.rawValue

def ofBareData (T : IdentifierType α) (d : Data) : Except Data.Fault (Identifier T) :=
  (RawValue.ofData d).map fun r => ⟨r⟩

/-! ## In the derived form -/

def toData (i : Identifier T) : Except Data.Fault Data :=
  if T.transparent then i.toBareData
  else i.toBareData.map fun d => .map [(fieldName, d)]

/-- A record may have further fields; a list stands for the fields in order. -/
def ofRecord (T : IdentifierType α) : Data → Except Data.Fault (Identifier T)
  | .map fields =>
    match fields.lookup fieldName with
    | some d => ofBareData T d
    | none => .error (.missingField fieldName)
  | .list [] => .error (.length 0 ("struct " ++ T.name ++ " with 1 element"))
  | .list (d :: ds) =>
    match ofBareData T d with
    | .error f => .error f
    | .ok i => if ds.isEmpty then .ok i
      else .error (.length (ds.length + 1) "fewer elements in array")
  | d => .error (.kind d ("struct " ++ T.name))

def ofData (T : IdentifierType α) (d : Data) : Except Data.Fault (Identifier T) :=
  if T.transparent then ofBareData T d else ofRecord T d

/-! ## Collections -/

/-- The identifiers in ascending order, each one once. -/
def ascending [DecidableEq α] (ids : List (Identifier T)) : List (Identifier T) :=
  (RawValue.ascending (ids.map rawValue)).map fun r => ⟨r⟩

end Identifier

end TypedId
