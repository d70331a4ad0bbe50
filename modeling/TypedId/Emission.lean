/-
The code of an identifier type: a struct with the raw value for its only
field, a constructor, the implementation of the library's trait, and the
conversions from and to the raw type.
-/
import TypedId.CratePath

namespace TypedId.Emission

/-! ## Writing code -/

/-- The words of a text, which single spaces part. -/
def words : List Char → List (List Char)
  | [] => [[]]
  | c :: cs =>
    match words cs with
    | w :: ws => if c = ' ' then [] :: w :: ws else (c :: w) :: ws
    | [] => [[c]]

/-- A token of generated code: a word, or an operator of one or more marks. -/
def piece : List Char → Tokens
  | [] => []
  | c :: cs =>
    if Text.isIdentStart c then [.ident (String.ofList (c :: cs)) .callSite]
    else Tokens.operator .callSite (c :: cs)

/-- Generated tokens, written with a space between them. -/
def code (text : String) : Tokens := (words text.toList).flatMap piece

def parens (ts : Tokens) : Tokens := [.group .parenthesis ts .callSite]

def brackets (ts : Tokens) : Tokens := [.group .bracket ts .callSite]

def braces (ts : Tokens) : Tokens := [.group .brace ts .callSite]

/-- A documenting attribute. -/
def doc (text : String) : Tokens :=
  code "#" ++ brackets (code "doc =" ++ [.literal (Text.stringLiteral text) .callSite])

/-! ## Derived traits -/

/-- The traits that every identifier needs. -/
def requiredDerives : List String := ["Clone", "Debug", "PartialEq", "Eq", "Hash"]

/-- The capabilities as they were asked for, and the required traits that no capability names. -/
def deriveList (cs : List Capability) : List Path :=
  cs.map (·.path) ++
    (requiredDerives.filter fun r => !cs.any (·.name = r)).map fun r => .ofIdent ⟨r, .callSite⟩

def deriveAttribute (cs : List Capability) : Tokens :=
  let paths := (deriveList cs).map Path.tokens
  code "#" ++ brackets (code "derive" ++ parens ((paths.intersperse (code ",")).flatten))

/-! ## The pieces -/

/-- The struct is documented unless it was written out. -/
def documentation : Form → Tokens
  | .freestanding => doc "Strongly typed identifier declared with `new_identifier!`."
  | .attached => []

/-- The struct. -/
def declaration (i : Ident) (d : Declaration) : Tokens :=
  documentation d.form ++
  deriveAttribute d.capabilities ++ d.attributes.flatMap Attribute.tokens ++
  d.visibility.tokens ++ code "struct" ++ [i.token] ++
  braces (doc "Raw value wrapped by this identifier." ++ d.visibility.tokens ++
    code "raw_value :" ++ d.rawType.tokens ++ code ",")

/-- The constructor, as visible as the type. -/
def initializer (i : Ident) (d : Declaration) : Tokens :=
  code "impl" ++ [i.token] ++
  braces (doc "Wrap `raw_value` in this identifier type." ++
    code "#" ++ brackets (code "must_use") ++ d.visibility.tokens ++ code "const fn new" ++
    parens (code "raw_value :" ++ d.rawType.tokens) ++ code "-> Self" ++
    braces (code "Self" ++ braces (code "raw_value")))

/-- The implementation of the library's trait. -/
def identifierImpl (i : Ident) (d : Declaration) : Tokens :=
  code "impl" ++ (CratePath.orStandard d.cratePath).tokens ++ code ":: Identifier for" ++ [i.token] ++
  braces (
    code "type RawValue =" ++ d.rawType.tokens ++ code ";" ++
    code "fn from_raw_value" ++ parens (code "raw_value : Self :: RawValue") ++ code "-> Self" ++
      braces (code "Self :: new" ++ parens (code "raw_value")) ++
    code "fn raw_value" ++ parens (code "& self") ++ code "-> & Self :: RawValue" ++
      braces (code "& self . raw_value") ++
    code "fn into_raw_value" ++ parens (code "self") ++ code "-> Self :: RawValue" ++
      braces (code "self . raw_value"))

/-- The conversions in both directions. -/
def conversions (i : Ident) (d : Declaration) : Tokens :=
  code "impl :: core :: convert :: From <" ++ d.rawType.tokens ++ code "> for" ++ [i.token] ++
  braces (code "fn from" ++ parens (code "raw_value :" ++ d.rawType.tokens) ++ code "-> Self" ++
    braces (code "Self :: new" ++ parens (code "raw_value"))) ++
  code "impl :: core :: convert :: From <" ++ [i.token] ++ code "> for" ++ d.rawType.tokens ++
  braces (code "fn from" ++ parens (code "identifier :" ++ [i.token]) ++ code "-> Self" ++
    braces (code "identifier . raw_value"))

/-! ## The whole -/

/-- All code of an identifier type. -/
def items (i : Ident) (d : Declaration) : Tokens :=
  declaration i d ++ initializer i d ++ identifierImpl i d ++ conversions i d

/-- The code for a declaration; it can fail only because the name is no identifier. -/
def generate (d : Declaration) : Except Report Tokens := do
  return items (← d.name.toIdent.mapError Report.ofFault) d

end TypedId.Emission
