/-
Reading bounds and generic parameters.
-/
import TypedId.Grammar.Paths

namespace TypedId.Grammar

open Reader

/-! ## Parameters -/

/-- Bounds of a lifetime: further lifetimes parted by `+`. -/
def lifetimeBounds (stop : Reader Bool) : Reader Tokens :=
  pieces do
    if ← stop then return ([], false)
    let l ← lifetime
    if ← peek (.operator "+") then return (l ++ (← operator "+"), true) else return (l, false)

/-- A colon is written back only before bounds. -/
def afterColon (colon bounds : Tokens) : Tokens :=
  if bounds.isEmpty then [] else colon ++ bounds

def lifetimeParameter (g : Grammar) : Reader Tokens := do
  let attributes ← outerTokens g
  let l ← lifetime
  if ← peek (.operator ":") then
    let colon ← operator ":"
    let bounds ← lifetimeBounds (peekAny [.operator ",", .operator ">"])
    return attributes ++ l ++ afterColon colon bounds
  else return attributes ++ l

def typeParameter (g : Grammar) : Reader Tokens := do
  let attributes ← outerTokens g
  let name ← identifier
  let colon ← operator? ":"
  let bounds ←
    if colon.isEmpty then pure []
    else boundsUntil g (peekAny [.operator ",", .operator ">", .operator "="])
  let equals ← operator? "="
  let default ← if equals.isEmpty then pure [] else RawType.tokens <$> g.type true true
  return attributes ++ [name.token] ++ afterColon colon bounds ++ equals ++ default

def constParameter (g : Grammar) : Reader Tokens := do
  let attributes ← outerTokens g
  let const ← keyword "const"
  let name ← identifier
  let colon ← operator ":"
  let type ← g.type true true
  let equals ← operator? "="
  let default ← if equals.isEmpty then pure [] else constArgument g
  return attributes ++ const ++ [name.token] ++ colon ++ type.tokens ++ equals ++ default

/-- A parameter bound by `for<…>`. -/
def boundParameter (g : Grammar) : Reader Tokens := do
  let attributes ← outerTokens g
  if ← peek .identifier then return attributes ++ (← typeParameter g)
  else if ← peek .lifetime then return attributes ++ (← lifetimeParameter g)
  else if ← peek (.keyword "const") then return attributes ++ (← constParameter g)
  else expected [.identifier, .lifetime, .keyword "const"]

/-- `for<…>`, if it is there. -/
def binder? (g : Grammar) : Reader Tokens := do
  if ← peek (.keyword "for") then
    let for_ ← keyword "for"
    let opening ← operator "<"
    let parameters ← angleList do return (false, ← boundParameter g)
    let closing ← operator ">"
    return for_ ++ opening ++ parameters.flatMap (fun i => i.2.1 ++ i.2.2) ++ closing
  else return []

def genericParameter (g : Grammar) : Reader (Bool × Tokens) := do
  let attributes ← outerTokens g
  if ← peek .lifetime then return (true, attributes ++ (← lifetimeParameter g))
  else if ← peek .identifier then return (false, attributes ++ (← typeParameter g))
  else if ← peek (.keyword "const") then return (false, attributes ++ (← constParameter g))
  else if ← peek (.keyword "_") then return (false, attributes ++ [(← word).token])
  else expected [.lifetime, .identifier, .keyword "const"]

/-- Generic parameters in angle brackets; empty brackets count as none. -/
def generics (g : Grammar) : Reader Generics := do
  if ← peek (.operator "<") then
    let opening ← operator "<"
    let parameters ← angleList (genericParameter g)
    let closing ← operator ">"
    return ⟨parameters.length,
      if parameters.isEmpty then [] else opening ++ lifetimesFirst parameters ++ closing⟩
  else return ⟨0, []⟩

/-! ## Where clauses -/

/-- What ends a predicate. -/
def predicateEnd : Reader Bool := do
  return (← atEnd) ||
    (← peekAny [.group .brace, .operator ",", .operator ";", .operator "="]) ||
    ((← peek (.operator ":")) && !(← peek (.operator "::")))

def predicate (g : Grammar) : Reader Tokens := do
  if (← peek .lifetime) && (← peek2 (.operator ":")) then
    let l ← lifetime
    let colon ← operator ":"
    let stop : Reader Bool := do
      return (← atEnd) ||
        (← peekAny [.group .brace, .operator ",", .operator ";", .operator ":", .operator "="])
    return l ++ colon ++ (← lifetimeBounds stop)
  else
    let binder ← binder? g
    let type ← g.type true true
    let colon ← operator ":"
    return binder ++ type.tokens ++ colon ++ (← boundsUntil g predicateEnd)

def whereClause? (g : Grammar) : Reader (Option WhereClause) := do
  if ← peek (.keyword "where") then
    let where_ ← keyword "where"
    let predicates ← pieces do
      if ← predicateEnd then return ([], false)
      let p ← predicate g
      if ← peek (.operator ",") then return (p ++ (← operator ","), true) else return (p, false)
    return some ⟨Tokens.span where_, if predicates.isEmpty then [] else where_ ++ predicates⟩
  else return none

/-- A where clause as it is written back. -/
def whereTokens (g : Grammar) : Reader Tokens :=
  return ((← whereClause? g).map (·.tokens)).getD []

/-! ## Bounds -/

/-- `use<…>`: captured lifetimes and parameters. -/
def capture : Reader Bound := do
  let use ← keyword "use"
  let opening ← operator "<"
  let parameters ← loop (fun (read : List Listed) => do
    if ← peekAny [.lifetime, .identifier, .keyword "Self"] then
      let isLifetime ← peek .lifetime
      let ts ← if isLifetime then lifetime else (fun w => [w.token]) <$> word
      if ← peek (.operator ",") then
        return .again (read ++ [(isLifetime, ts, ← operator ",")])
      else if ← peek (.operator ">") then return .done (read ++ [(isLifetime, ts, [])])
      else expected [.operator ",", .operator ">"]
    else if ← peek (.operator ">") then return .done read
    else expected [.lifetime, .identifier, .operator ">"]) []
  let closing ← operator ">"
  return ⟨use ++ opening ++ lifetimesFirst parameters ++ closing, .capture,
    Tokens.span use |>.join (Tokens.span closing)⟩

/-- The mark of a constness bound: its written form, its place, and whether it is there. -/
def constness (allowed : Bool) : Reader Bool := do
  if ← peek (.group .bracket) then
    let (place, _) ← group .bracket (keyword "const")
    if allowed then return true else failAt place (.constNotAllowed "[const]")
  else if ← peek (.keyword "const") then
    let const ← keyword "const"
    if allowed then return true else failAt (Tokens.span const) (.constNotAllowed "const")
  else return false

/-- A trait bound without parentheses around it; says too whether it is about constness. -/
def traitBound (g : Grammar) (const : Bool) : Reader (Tokens × Bool) := do
  let binder ← binder? g
  let isConst ← constness const
  let relaxed ← operator? "?"
  let binder ← if binder.isEmpty && !relaxed.isEmpty then binder? g else pure binder
  let p ← path g false
  let p ←
    if ← takesParentheses p then
      let _ ← operator? "::"
      pure (p.withArguments (← parenthesised g))
    else pure p
  if !binder.isEmpty && !relaxed.isEmpty then failAt (Tokens.span relaxed) .binderWithRelaxed
  else return (relaxed ++ binder ++ p.tokens, isConst)

/-- One bound. -/
def boundOnce (g : Grammar) (captures const : Bool) : Reader Bound := do
  if ← peek .lifetime then
    let l ← lifetime
    return ⟨l, .lifetime, (l.getLast?.map Token.span).getD .callSite⟩
  else if ← peek (.keyword "use") then
    let b ← capture
    if captures then return b else failAt b.place .captureNotAllowed
  else
    let ((ts, isConst), source) ← withSource do
      if ← peek (.group .parenthesis) then
        let (place, ts, isConst) ← group .parenthesis (traitBound g const)
        return ([.group .parenthesis ts place], isConst)
      else traitBound g const
    return if isConst then ⟨source, .verbatim, .callSite⟩ else ⟨ts, .trait, .callSite⟩

/-- What a further bound can begin with. -/
def boundSigns : List Sign :=
  [.word, .operator "::", .operator "?", .lifetime, .group .parenthesis]

/-- Bounds parted by `+`, with the marks between them. -/
def boundSum (g : Grammar) (plus captures const : Bool) : Reader (List (Bound × Tokens)) :=
  loop (fun read => do
    let b ← boundOnce g captures const
    if plus && (← peek (.operator "+")) then
      let sum ← operator "+"
      let more := if const then [.group .bracket, .keyword "const"] ++ boundSigns else boundSigns
      if ← peekAny more then return .again (read ++ [(b, sum)])
      else return .done (read ++ [(b, sum)])
    else return .done (read ++ [(b, [])])) []

/-- The bounds behind a first one: as many as `+` follows. -/
def moreBounds (g : Grammar) : Reader Tokens :=
  pieces do
    if ← peek (.operator "+") then
      let sum ← operator "+"
      return (sum ++ (← boundOnce g false false).tokens, true)
    else return ([], false)

def sumTokens (bounds : List (Bound × Tokens)) : Tokens :=
  bounds.flatMap fun b => b.1.tokens ++ b.2

/-- Refuses bounds without any trait; the complaint runs from `start` to the last bound. -/
def needTrait (bounds : List (Bound × Tokens)) (start : Span) (complaint : Complaint) :
    Reader Unit := do
  if bounds.any fun b => b.1.kind = .trait || b.1.kind = .verbatim then return ()
  else failAt (start.join ((bounds.getLast?.map (·.1.place)).getD start)) complaint

end TypedId.Grammar
