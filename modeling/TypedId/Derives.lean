/-
Attributes that derive traits. They are told from the others by their path,
and their lists are the capabilities of a declaration that is written out.
-/
import TypedId.Options

namespace TypedId

/-- The capabilities that one derive attribute lists. -/
def Attribute.derived (a : Attribute) : Except Fault (List Capability) :=
  match a.body with
  | .bare => .error (.placed a.path.identSpan (.bareAttribute a.withArguments))
  | .value equals _ => .error (.placed equals (.valuedAttribute a.withArguments))
  | .list _ content place =>
    Reader.runIn ⟨place.closing, .invisible⟩ (Options.elements? Options.capability []) content

/-- The capabilities of all derive attributes, and the attributes that are left; the first derive
attribute that cannot be read is a fault. -/
def splitDerives : List Attribute → Except Fault (List Capability × List Attribute)
  | [] => .ok ([], [])
  | a :: rest =>
    if a.isDerive then do
      let capabilities ← a.derived
      let (more, left) ← splitDerives rest
      return (capabilities ++ more, left)
    else do
      let (capabilities, left) ← splitDerives rest
      return (capabilities, a :: left)

end TypedId
