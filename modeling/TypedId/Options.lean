/-
Options: a list of paths parted by commas, each with what belongs to it. The
same list form is used inside `derive(…)` and by derive attributes, where the
paths stand alone.
-/
import TypedId.CratePath

namespace TypedId

/-- Which options may be given. -/
inductive Allowed where
  | deriveAndCrate
  | crateOnly
deriving DecidableEq, Repr

/-- What an unsupported option is told to be. -/
def Allowed.describe : Allowed → String
  | .deriveAndCrate => "expected `derive(...)` or `crate = \"...\"`"
  | .crateOnly => "expected `crate = \"...\"`"

structure Options where
  capabilities : List Capability
  cratePath : Option Path
deriving Repr

namespace Options

open Reader

def none : Options := ⟨[], .none⟩

/-- A path in which every word counts as an identifier. -/
def path : Reader Path := do
  let absolute ← Grammar.separator?
  if ← peek .word then
    let first ← word
    loop segments { absolute, first := ⟨first, .none⟩, others := [] }
  else if ← atEnd then wanted "nested attribute"
  else if ← peek .literal then complain .metaLiteral
  else complain .metaToken
where
  segments (read : Path) : Reader (Round Path Path) := do
    if ← peek (.operator "::") then
      let _ ← Grammar.separator
      return .again (read.push ⟨← word, .none⟩)
    else return .done read

/-- At least one element, parted by commas up to the end of the scope. `element` reads what
follows a path and brings the state on. -/
def elements {σ : Type} (element : Path → σ → Reader σ) (state : σ) : Reader σ :=
  loop round state
where
  round (state : σ) : Reader (Round σ σ) := do
    let state ← element (← path) state
    if ← atEnd then return .done state
    let _ ← operator ","
    if ← atEnd then return .done state else return .again state

/-- Like `elements`, but the list may be empty. -/
def elements? {σ : Type} (element : Path → σ → Reader σ) (state : σ) : Reader σ := do
  if ← atEnd then return state else elements element state

/-- An element that is a capability. -/
def capability (p : Path) (read : List Capability) : Reader (List Capability) :=
  return read ++ [⟨p⟩]

/-- The crate path behind its word. -/
def givenPath : Reader Path := do
  let _ ← operator "="
  match CratePath.ofLiteral (← textLiteral) with
  | .ok given => return given
  | .error f => fun _ _ => .error f

/-- One option. -/
def option (allowed : Allowed) (p : Path) (options : Options) : Reader Options := do
  if p.isIdent "crate" then return { options with cratePath := some (← givenPath) }
  else if p.isIdent "derive" && allowed = .deriveAndCrate then
    let (_, capabilities) ← group .parenthesis (elements capability options.capabilities)
    return { options with capabilities }
  else failAt p.identSpan (.unsupportedOption allowed.describe)

/-- Reads the tokens of an option list. -/
def ofTokens (allowed : Allowed) (ts : Tokens) : Except Fault Options :=
  run (elements? (option allowed) none) ts

end Options

end TypedId
