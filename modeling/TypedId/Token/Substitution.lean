/-
Fragments. A macro passes a fragment on by putting its tokens into an
invisible group where the fragment's name stood; all of them take the place
of that name. Tokens put in are not looked at again.
-/
import TypedId.Token

namespace TypedId.Token

mutual

/-- Puts `fragment name` for each identifier that names a fragment, at any depth. -/
def substitute (fragment : String → Option Tokens) : Token → Token
  | .group d ts s => .group d (substituteAll fragment ts) s
  | .ident x s =>
    match fragment x with
    | some ts => .group .invisible (Tokens.moveTo s ts) s
    | none => .ident x s
  | .punct c j s => .punct c j s
  | .literal x s => .literal x s

def substituteAll (fragment : String → Option Tokens) : List Token → List Token
  | [] => []
  | t :: ts => t.substitute fragment :: substituteAll fragment ts

end

mutual

/-- Whether an identifier with such a text occurs, at any depth. -/
def mentions (p : String → Bool) : Token → Bool
  | .group _ ts _ => mentionsAny p ts
  | .ident x _ => p x
  | _ => false

def mentionsAny (p : String → Bool) : List Token → Bool
  | [] => false
  | t :: ts => t.mentions p || mentionsAny p ts

end

end TypedId.Token
