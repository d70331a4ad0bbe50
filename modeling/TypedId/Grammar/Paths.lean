/-
Reading paths with generic arguments. Arguments are written back with the
lifetimes first, whatever their order was.
-/
import TypedId.Grammar.Attributes

namespace TypedId.Grammar

open Reader

/-- One of a list of arguments or parameters: whether it is a lifetime, its tokens, and the comma
behind it if there is one. -/
abbrev Listed := Bool × Tokens × Tokens

/-- The lifetimes of a list, then the rest, with a comma between the two parts. -/
def lifetimesFirst (items : List Listed) : Tokens :=
  let lifetimes := items.filter (·.1)
  let others := items.filter (!·.1)
  let parted := lifetimes.getLast?.any (·.2.2.isEmpty) && !others.isEmpty
  lifetimes.flatMap (fun i => i.2.1 ++ i.2.2) ++
    (if parted then [.punct ',' false .callSite] else []) ++
    others.flatMap fun i => i.2.1 ++ i.2.2

/-- Items parted by commas up to a closing `>`. -/
def angleList (item : Reader (Bool × Tokens)) : Reader (List Listed) :=
  loop (fun read => do
    if ← peek (.operator ">") then return .done read
    let (isLifetime, ts) ← item
    if ← peek (.operator ">") then return .done (read ++ [(isLifetime, ts, [])])
    let comma ← operator ","
    return .again (read ++ [(isLifetime, ts, comma)])) []

/-- A constant as an argument: a literal, a word, or a block. -/
def constArgument (g : Grammar) : Reader Tokens := do
  if ← peek .literal then literal
  else if ← peek .identifier then return [(← identifier).token]
  else if ← peek (.group .brace) then block g
  else unexpected

/-- Bounds parted by `+` up to one of the signs at `stop`. -/
def boundsUntil (g : Grammar) (stop : Reader Bool) : Reader Tokens :=
  pieces do
    if ← stop then return ([], false)
    let b ← g.bound false true
    if ← peek (.operator "+") then return (b.tokens ++ (← operator "+"), true)
    else return (b.tokens, false)

/-- Whether a lifetime follows that no sum goes on from. -/
def showsLifetime : Reader Bool := do
  return (← peek .lifetime) && !(← peek2 (.operator "+"))

def genericArgument (g : Grammar) : Reader (Bool × Tokens) := do
  if ← showsLifetime then return (true, ← lifetime)
  else if ← peekAny [.literal, .group .brace] then return (false, ← constArgument g)
  else
    let type ← g.type true true
    if takesBinding type then
      if ← peek (.operator "=") then
        let equals ← operator "="
        let value ←
          if ← peekAny [.literal, .group .brace] then constArgument g
          else RawType.tokens <$> g.type true true
        return (false, type.tokens ++ equals ++ value)
      else if ← peek (.operator ":") then
        let colon ← operator ":"
        let bounds ← boundsUntil g (peekAny [.operator ",", .operator ">"])
        return (false, type.tokens ++ colon ++ bounds)
      else return (false, type.tokens)
    else return (false, type.tokens)
where
  /-- A single segment can be the name of an associated item. -/
  takesBinding : RawType → Bool
    | .path [] ⟨none, ⟨_, .parenthesised _⟩, []⟩ => false
    | .path [] ⟨none, _, []⟩ => true
    | _ => false

/-- Arguments in angle brackets behind a `::` that was read already. -/
def anglesAfter (g : Grammar) (colons : Tokens) : Reader Arguments := do
  let opening ← operator "<"
  let arguments ← angleList (genericArgument g)
  let closing ← operator ">"
  return .angle (colons ++ opening ++ lifetimesFirst arguments ++ closing) arguments.isEmpty

def angles (g : Grammar) : Reader Arguments := do anglesAfter g (← operator? "::")

/-- A segment; in an expression its arguments need a `::`. -/
def segment (g : Grammar) (inExpression : Bool) : Reader Segment := do
  if ← peekAny [.keyword "super", .keyword "self", .keyword "crate", .keyword "try"] then
    return ⟨← word, .none⟩
  let ident ← if ← peek (.keyword "Self") then word else identifier
  if (!inExpression && (← peek (.operator "<")) && !(← peek (.operator "<="))) ||
      (← peekBehind (.operator "<")) then
    return ⟨ident, ← angles g⟩
  else return ⟨ident, .none⟩

/-- The segments behind `read`, up to a `::` that parentheses follow. -/
def moreSegments (g : Grammar) (inExpression : Bool) (read : Path) : Reader Path :=
  loop (fun read => do
    if (← peek (.operator "::")) && !(← peekBehind (.group .parenthesis)) then
      let _ ← separator
      return .again (read.push (← segment g inExpression))
    else return .done read) read

def path (g : Grammar) (inExpression : Bool) : Reader Path := do
  let absolute ← separator?
  let first ← segment g inExpression
  moreSegments g inExpression { absolute, first, others := [] }

/-- A path that a type in angle brackets may stand before. Gives the tokens of that part and the
path behind it. -/
def ownedPath (g : Grammar) (inExpression : Bool) : Reader (Tokens × Path) := do
  if ← peek (.operator "<") then
    let opening ← operator "<"
    let type ← g.type true true
    let trait ←
      if ← peek (.keyword "as") then
        let as ← keyword "as"
        pure (as ++ (← path g false).tokens)
      else pure []
    let closing ← operator ">"
    let colons ← operator "::"
    let first ← segment g inExpression
    let rest ← loop (fun (read : Path) => do
      if ← peek (.operator "::") then
        let _ ← separator
        return .again (read.push (← segment g inExpression))
      else return .done read) { absolute := none, first, others := [] }
    return (opening ++ type.tokens ++ trait ++ closing ++ colons, rest)
  else return ([], ← path g inExpression)

/-- The result type of a function, if one is written. -/
def result (g : Grammar) (plus : Bool) : Reader Tokens := do
  if ← peek (.operator "->") then
    let arrow ← operator "->"
    return arrow ++ (← g.type plus true).tokens
  else return []

/-- Inputs in parentheses and a result. -/
def parenthesised (g : Grammar) : Reader Arguments :=
  groupThen .parenthesis (commaTokens (RawType.tokens <$> g.type true true)) fun place inputs =>
    return .parenthesised (.group .parenthesis inputs place :: (← result g false))

/-- Whether parentheses follow that belong to the path just read. -/
def takesParentheses (p : Path) : Reader Bool := do
  return p.last.arguments.isEmpty &&
    ((← peek (.group .parenthesis)) || (← peekBehind (.group .parenthesis)))

end TypedId.Grammar
