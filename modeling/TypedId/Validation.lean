/-
Checking a declaration before code is made of it. Every check looks at its own
part of the declaration and lists what is wrong with it; all are made.
-/
import TypedId.Declaration
import TypedId.Diagnostics
import TypedId.Text.Blank

namespace TypedId.Validation

/-- The name has to be one identifier. -/
def checkName (n : Name) : List Diagnostic :=
  if Text.isAllBlank n.text then [⟨.missingName, n.span⟩]
  else
    match n.toIdent with
    | .ok _ => []
    | .error _ => [⟨.invalidName n.text, n.span⟩]

/-- Why no identifier can wrap a type, looking at its outermost layer. -/
def unresolved? : RawType → Option String
  | .infer _ => some "`_` must be replaced by a concrete type"
  | .never _ => some "`!` has no values to wrap"
  | .unit _ => some "`()` has a single value and cannot distinguish identifiers"
  | _ => none

/-- The raw type has to be resolved under all its parentheses and invisible groups. -/
def checkRawType (t : RawType) : List Diagnostic :=
  match unresolved? t.core with
  | some detail => [⟨.rawType (some detail), t.core.span⟩]
  | none => []

/-- The raw type may not be the identifier itself. -/
def checkSelfReference (n : Name) (t : RawType) : List Diagnostic :=
  match t.ident? with
  | some i =>
    if i.text = "Self" || i.text = n.text then
      [⟨.rawType (some ("`" ++ i.text ++
        "` names the identifier being declared, which cannot wrap itself")), i.span⟩]
    else []
  | none => []

/-- What speaks against a capability behind those already asked for by these names. -/
def conflict? (seen : List String) (c : Capability) : Option Conflict :=
  if c.name = "Default" then some .zeroValue
  else if c.name = "Identifier" then some .generated
  else if seen.contains c.qualifiedName then some .duplicate
  else none

/-- What a rejected capability is called: a duplicate by its whole path. -/
def conflictName (c : Capability) : Conflict → String
  | .duplicate => c.qualifiedName
  | _ => c.name

/-- The capabilities have to be compatible, each asked for once; `seen` were asked for before. -/
def checkCapabilitiesAfter (seen : List String) : List Capability → List Diagnostic
  | [] => []
  | c :: rest =>
    ((conflict? seen c).map fun r => ⟨.capability (conflictName c r) r, c.span⟩).toList ++
      checkCapabilitiesAfter (seen ++ [c.qualifiedName]) rest

def checkCapabilities (cs : List Capability) : List Diagnostic := checkCapabilitiesAfter [] cs

/-- Everything that is wrong with a declaration. -/
def findings (d : Declaration) : List Diagnostic :=
  checkName d.name ++ checkRawType d.rawType ++ checkSelfReference d.name d.rawType ++
    checkCapabilities d.capabilities

/-- Accepts a declaration that nothing is wrong with; whatever is found is pushed first. -/
def validate (d : Declaration) : Except Report Unit :=
  (Diagnostics.empty.pushAll (findings d)).finish

theorem validate_eq_ok_iff_findings {d : Declaration} : validate d = .ok () ↔ findings d = [] := by
  rw [validate, Diagnostics.finish_eq_ok_iff, Diagnostics.found_pushAll]
  rfl

end TypedId.Validation
