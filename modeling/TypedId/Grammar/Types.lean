/-
Reading types. A type begins with one of `typeSigns`; a path, and a single
bound in parentheses, can turn out to be the first of a sum of bounds.
-/
import TypedId.Grammar.Bounds

namespace TypedId.Grammar

open Reader

/-- What a type can begin with. -/
def typeSigns : List Sign :=
  [.keyword "for", .group .parenthesis, .keyword "fn", .keyword "unsafe", .keyword "extern",
   .identifier, .operator "::", .operator "<", .keyword "dyn", .group .bracket, .operator "*",
   .operator "&", .operator "!", .keyword "impl", .keyword "_", .lifetime]

/-- What a type can go on with behind `for<…>`. -/
def binderSigns : List Sign :=
  [.identifier, .keyword "fn", .keyword "unsafe", .keyword "extern", .keyword "super",
   .keyword "self", .keyword "Self", .keyword "crate"]

/-! ## Types that another macro put in -/

/-- An invisible group. A path in it goes on with what stands behind it; another type in it can
own a path. -/
def insertedType (g : Grammar) (generic : Bool) : Reader RawType := do
  let (place, inner) ← group .invisible (g.type true true)
  if ← peekBehind .word then
    match inner with
    | .path owner p => return .path owner (← moreSegments g false p)
    | _ =>
      let p ← path g false
      return .path ([.punct '<' false place] ++ inner.tokens ++ [.punct '>' false place]) p
  else if (generic && (← peek (.operator "<"))) || (← peekBehind (.operator "<")) then
    match inner with
    | .path owner p =>
      if p.last.arguments.isNone then
        let arguments ← angles g
        return .path owner (← moreSegments g false (p.withArguments arguments))
      else return .group inner place
    | _ => return .group inner place
  else return .group inner place

/-! ## Parentheses -/

/-- What the parentheses of a type hold. -/
inductive Enclosed where
  | nothing
  /-- A type that nothing is added to. -/
  | alone (type : RawType)
  /-- A bound that begins with a question mark. -/
  | relaxed (bound : Tokens)
  | tuple (elements : Tokens)
  | single (type : RawType)

/-- A sum of bounds that has a trait in it; complaints begin at `start`. -/
def objectBounds (g : Grammar) (start : Span) (plus : Bool) : Reader Tokens := do
  let bounds ← boundSum g plus false true
  needTrait bounds start .traitlessObject
  return sumTokens bounds

def enclosed (g : Grammar) : Reader Enclosed := do
  if ← atEnd then return .nothing
  else if ← peek .lifetime then return .alone (.other (← objectBounds g (← here) true))
  else if ← peek (.operator "?") then return .relaxed (← traitBound g false).1
  else
    let first ← g.type true true
    if ← peek (.operator ",") then
      let comma ← operator ","
      return .tuple (first.tokens ++ comma ++ (← commaTokens (RawType.tokens <$> g.type true true)))
    else return .single first

/-- The bound that a type in parentheses is, if `+` follows them. -/
def liftedBound : RawType → Option Tokens
  | .path [] p => some p.tokens
  | .bound _ ts => some ts
  | _ => none

def parenthesisType (g : Grammar) (plus : Bool) : Reader RawType :=
  groupThen .parenthesis (enclosed g) fun place inner => do
    match inner with
    | .nothing => return .unit place
    | .alone type => return .paren type place
    | .tuple ts => return .other [.group .parenthesis ts place]
    | .relaxed ts =>
      let more ← moreBounds g
      if more.isEmpty then return .bound (some place) ts
      else return .other (.group .parenthesis ts place :: more)
    | .single type =>
      match liftedBound type with
      | some ts =>
        if plus && (← peek (.operator "+")) then
          return .other (.group .parenthesis ts place :: (← moreBounds g))
        else return .paren type place
      | none => return .paren type place

/-! ## Functions -/

/-- The calling convention of a function. -/
def abi : Reader Tokens := do
  if ← peek (.keyword "extern") then
    let word ← keyword "extern"
    return word ++ (← optional .stringLiteral (literalOf .stringLiteral))
  else return []

/-- A name and a colon, before the type of an input. -/
def inputName : Reader Tokens := do
  let name ← word
  return name.token :: (← operator ":")

/-- Whether a single colon follows behind the next token. -/
def namesInput : Reader Bool := do
  return (← peek2 (.operator ":")) && !(← peek2 (.operator "::"))

/-- One input of a function type. The first may be a receiver. -/
def functionInput (g : Grammar) (first : Bool) : Reader Tokens := do
  let ((name, type), source) ← withSource do
    let mutSelf := first && (← peek (.keyword "mut")) && (← peek2 (.keyword "self"))
    if mutSelf then
      let _ ← keyword "mut"
    let plainName ← peekAny [.identifier, .keyword "_"]
    let receiver := !plainName && first && (← peek (.keyword "self")) && (← namesInput)
    let name ← if receiver || (plainName && (← namesInput)) then inputName else pure []
    if first && !receiver && (← peek (.keyword "mut")) && (← peek2 (.keyword "self")) then
      let _ ← keyword "mut"
      let _ ← keyword "self"
      return (name, none)
    else if mutSelf && name.isEmpty then
      let _ ← keyword "self"
      return (name, none)
    else
      let type ← g.type true true
      return (name, if mutSelf then none else some type)
  match type with
  | some type => return name ++ type.tokens
  | none => return source

/-- Whether the three dots of further inputs follow, perhaps with a name. -/
def showsVariadic : Reader Bool := do
  return (← peek (.operator "...")) ||
    ((← peekAny [.identifier, .keyword "_"]) && (← peek2 (.operator ":")) &&
      (← peek3 (.operator "...")))

def functionInputs (g : Grammar) : Reader Tokens :=
  loop (fun (read : Tokens) => do
    if ← atEnd then return .done read
    let attributes ← outerTokens g
    if ← showsVariadic then
      let name ← if ← peekAny [.identifier, .keyword "_"] then inputName else pure []
      let dots ← operator "..."
      return .done (read ++ attributes ++ name ++ dots ++ (← operator? ","))
    let input ← functionInput g read.isEmpty
    if ← atEnd then return .done (read ++ attributes ++ input)
    return .again (read ++ attributes ++ input ++ (← operator ","))) []

/-- A function type behind its `for<…>`. -/
def functionType (g : Grammar) (binder : Tokens) : Reader RawType := do
  let safety ← keyword? "unsafe"
  let convention ← abi
  let fn_ ← keyword "fn"
  groupThen .parenthesis (functionInputs g) fun place inputs => do
    let result ← result g false
    return .other (binder ++ safety ++ convention ++ fn_ ++
      [.group .parenthesis inputs place] ++ result)

/-! ## Paths and sums -/

/-- A path, a macro call, or a sum of bounds that begins with a path. -/
def pathType (g : Grammar) (plus : Bool) (binder : Tokens) : Reader RawType := do
  let (owner, p) ← ownedPath g false
  if !owner.isEmpty then return .path owner p
  else if (← peek (.operator "!")) && !(← peek (.operator "!=")) && p.isPlain then
    let bang ← operator "!"
    let (_, arguments) ← macroArguments
    return .other (p.tokens ++ bang ++ arguments)
  else if plus && (← peek (.operator "+")) then
    let more ← loop (fun (read : Tokens) => do
      if ← peek (.operator "+") then
        let sum ← operator "+"
        if ← peekAny boundSigns then
          return .again (read ++ sum ++ (← boundOnce g false false).tokens)
        else return .done (read ++ sum)
      else return .done read) []
    return .other (binder ++ p.tokens ++ more)
  else if binder.isEmpty then return .path owner p
  else return .bound none (binder ++ p.tokens)

/-! ## Types -/

/-- `dyn` and bounds; with a star it is kept as it stands. -/
def objectType (g : Grammar) (plus : Bool) : Reader RawType := do
  let ((starred, ts), source) ← withSource do
    let dyn ← keyword "dyn"
    let star ← operator? "*"
    let bounds ← objectBounds g (Tokens.span dyn) plus
    return (!star.isEmpty, dyn ++ bounds)
  return .other (if starred then source else ts)

/-- An array or a slice. -/
def bracketType (g : Grammar) : Reader RawType := do
  let ts ← groupTokens .bracket do
    let element ← g.type true true
    if ← peek (.operator ";") then
      let semicolon ← operator ";"
      return element.tokens ++ semicolon ++ (← g.expression true).tokens
    else return element.tokens
  return .other ts

def pointerType (g : Grammar) : Reader RawType := do
  let star ← operator "*"
  let access ←
    if ← peek (.keyword "const") then keyword "const"
    else if ← peek (.keyword "mut") then keyword "mut"
    else expected [.keyword "const", .keyword "mut"]
  return .other (star ++ access ++ (← g.type false true).tokens)

def referenceType (g : Grammar) : Reader RawType := do
  let mark ← operator "&"
  let region ← optional .lifetime lifetime
  let access ← keyword? "mut"
  return .other (mark ++ region ++ access ++ (← g.type false true).tokens)

/-- `impl` and bounds. -/
def opaqueType (g : Grammar) (plus : Bool) : Reader RawType := do
  let word ← keyword "impl"
  let bounds ← boundSum g plus true true
  needTrait bounds (Tokens.span word) .traitlessImpl
  return .other (word ++ sumTokens bounds)

/-- A type; see `Grammar.type`. -/
def typeOnce (g : Grammar) (plus generic : Bool) : Reader RawType := do
  if ← peek (.group .invisible) then insertedType g generic
  else
    let binder ← binder? g
    if !binder.isEmpty && !(← peekAny binderSigns) then expected binderSigns
    else if ← peek (.group .parenthesis) then parenthesisType g plus
    else if ← peekAny [.keyword "fn", .keyword "unsafe", .keyword "extern"] then
      functionType g binder
    else if ← peekAny [.identifier, .keyword "super", .keyword "self", .keyword "Self",
        .keyword "crate", .operator "::", .operator "<"] then pathType g plus binder
    else if ← peek (.keyword "dyn") then objectType g plus
    else if ← peek (.group .bracket) then bracketType g
    else if ← peek (.operator "*") then pointerType g
    else if ← peek (.operator "&") then referenceType g
    else if ← peek (.operator "!") then return .never (Tokens.span (← operator "!"))
    else if ← peek (.keyword "impl") then opaqueType g plus
    else if ← peek (.keyword "_") then return .infer (← word).span
    else if ← peek .lifetime then return .other (← objectBounds g (← here) true)
    else expected typeSigns

end TypedId.Grammar
