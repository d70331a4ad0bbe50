/-
Fresh raw values. An integer comes from the counter of its kind, a UUID from a
random generator, and a fresh text is the text of a fresh UUID. What is left
to draw from is handed back with every value.
-/
import TypedId.Counters
import TypedId.Identifier

namespace TypedId

/-- What fresh raw values are drawn from. -/
structure Supply (γ : Type) where
  counters : Counters
  generator : γ

/-- A type of raw values of which there are fresh ones. -/
class Fresh (α : Type) where
  /-- A value, what is logged, and what is left. -/
  draw : {γ : Type} → [RandomGen γ] → Supply γ → α × Option Event × Supply γ

namespace Fresh

instance (k : IntegerKind) : Fresh (Integer k) where
  draw s :=
    let (n, counters) := s.counters.draw k
    (n, n.issueEvent?, { s with counters })

instance : Fresh Uuid where
  draw s :=
    let (u, generator) := Uuid.random s.generator
    (u, none, { s with generator })

instance : Fresh String where
  draw s :=
    let (u, generator) := Uuid.random s.generator
    (u.text, none, { s with generator })

end Fresh

/-- An identifier of a fresh raw value. -/
def Identifier.unique {α : Type} [Fresh α] (T : IdentifierType α) {γ : Type} [RandomGen γ]
    (s : Supply γ) : Identifier T × Option Event × Supply γ :=
  let (r, event, s) := Fresh.draw s
  (⟨r⟩, event, s)

end TypedId
