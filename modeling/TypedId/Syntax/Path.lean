/-
Paths. A path has at least one segment; a segment is an identifier with
generic arguments behind it, which nothing here looks into. Two paths of
plain identifiers are the same when `absolute` and the identifiers agree.
-/
import TypedId.Token

namespace TypedId

/-- What follows a segment's identifier. -/
inductive Arguments where
  | none
  /-- Angle brackets, with the `::` before them if it was written. -/
  | angle (tokens : Tokens) (isEmpty : Bool)
  /-- Parenthesised inputs and a result, as function traits take them. -/
  | parenthesised (tokens : Tokens)
deriving Repr, Inhabited

namespace Arguments

def tokens : Arguments → Tokens
  | .none => []
  | .angle ts _ => ts
  | .parenthesised ts => ts

/-- No arguments at all; empty brackets are arguments. -/
def isNone : Arguments → Bool
  | .none => true
  | _ => false

/-- No arguments, or empty brackets. -/
def isEmpty : Arguments → Bool
  | .none => true
  | .angle _ empty => empty
  | .parenthesised _ => false

end Arguments

structure Segment where
  ident : Ident
  arguments : Arguments
deriving Repr, Inhabited

def Segment.tokens (s : Segment) : Tokens := s.ident.token :: s.arguments.tokens

structure Path where
  /-- The place of a leading `::`. -/
  absolute : Option Span
  first : Segment
  others : List Segment
deriving Repr, Inhabited

namespace Path

/-- The path of one identifier. -/
def ofIdent (i : Ident) : Path := ⟨none, ⟨i, .none⟩, []⟩

def segments (p : Path) : List Segment := p.first :: p.others

def last (p : Path) : Segment := p.segments.getLast (by simp [segments])

def push (p : Path) (s : Segment) : Path := { p with others := p.others ++ [s] }

/-- Gives the last segment other arguments. -/
def withArguments (p : Path) (arguments : Arguments) : Path :=
  match p.others.reverse with
  | [] => { p with first := { p.first with arguments } }
  | s :: before => { p with others := before.reverse ++ [{ s with arguments }] }

/-- The double colon, at a place. -/
def separator (place : Span) : Tokens := Tokens.operator place [':', ':']

def tokens (p : Path) : Tokens :=
  (p.absolute.map separator).getD [] ++ p.first.tokens ++
    p.others.flatMap fun s => separator s.ident.span ++ s.tokens

/-- The identifier of a path that is nothing else. -/
def ident? (p : Path) : Option Ident :=
  if p.absolute.isNone && p.others.isEmpty && p.first.arguments.isNone then some p.first.ident
  else none

def isIdent (p : Path) (text : String) : Bool := p.ident?.any (·.text = text)

/-- No segment has arguments. -/
def isPlain (p : Path) : Bool := p.segments.all (·.arguments.isNone)

/-- The identifiers, joined by `::`; a leading `::` counts, arguments do not. -/
def qualifiedName (p : Path) : String :=
  (if p.absolute.isSome then "::" else "") ++ "::".intercalate (p.segments.map (·.ident.text))

/-- From the first identifier to the last. -/
def identSpan (p : Path) : Span := p.first.ident.span.join p.last.ident.span

@[simp] theorem segments_push (p : Path) (s : Segment) :
    (p.push s).segments = p.segments ++ [s] := by
  simp [push, segments]

@[simp] theorem last_push (p : Path) (s : Segment) : (p.push s).last = s :=
  List.getLast_concat (l := p.first :: p.others) (a := s)

@[simp] theorem last_ofIdent (i : Ident) : (ofIdent i).last = ⟨i, .none⟩ := rfl

end Path

end TypedId
