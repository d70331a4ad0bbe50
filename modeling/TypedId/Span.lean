/-
Places in source texts. A span is a stretch of one text, or the place of the
macro call itself, which has no position. Joining two spans gives the stretch
from the start of the first to the end of the last; spans of different texts
do not join, and the first one stands.
-/
namespace TypedId

/-- Lines count from one, columns from zero in characters. -/
structure Position where
  line : Nat
  column : Nat
deriving DecidableEq, Repr, Inhabited

namespace Position

/-- The position at the start of a text. -/
def start : Position := ⟨1, 0⟩

/-- Only a line feed ends a line. -/
def after (p : Position) (c : Char) : Position :=
  if c == '\n' then ⟨p.line + 1, 0⟩ else ⟨p.line, p.column + 1⟩

def afterAll (p : Position) (text : List Char) : Position :=
  text.foldl after p

/-- Reading order. -/
def before (p q : Position) : Bool :=
  p.line < q.line || (p.line == q.line && p.column ≤ q.column)

def min (p q : Position) : Position := if p.before q then p else q

def max (p q : Position) : Position := if p.before q then q else p

end Position

inductive Span where
  /-- The macro call, which has no position. -/
  | callSite
  /-- The characters of `source` from `start` up to `stop`, without the latter. -/
  | within (source : String) (start stop : Position)
deriving DecidableEq, Repr, Inhabited

namespace Span

/-- From the start of `a` to the end of `b`; `a` itself if they are not of one text. -/
def join : Span → Span → Span
  | .within s a b, .within s' a' b' =>
    if s = s' then .within s (a.min a') (b.max b') else .within s a b
  | a, _ => a

/-- The first character of a span: an opening delimiter. -/
def opening : Span → Span
  | .callSite => .callSite
  | .within s a b => .within s a (Position.min ⟨a.line, a.column + 1⟩ b)

/-- The last character of a span: a closing delimiter. -/
def closing : Span → Span
  | .callSite => .callSite
  | .within s a b => .within s (a.max ⟨b.line, b.column - 1⟩) b

theorem join_self (s : Span) : s.join s = s := by
  cases s <;> simp [join, Position.min, Position.max]

end Span

end TypedId
