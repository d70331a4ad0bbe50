/-
Fresh integers. Each kind of integer has a counter of its own, which starts at
one and starts again there after the greatest integer of the kind; issuing
that one is logged.
-/
import TypedId.Event
import TypedId.Integer

namespace TypedId

namespace Integer

variable {k : IntegerKind}

/-- What a counter issues after an integer. -/
def following (n : Integer k) : Integer k :=
  if h : n.val < k.max then ⟨n.val + 1, by have := n.min_le; omega, by omega⟩ else one

/-- What is logged when a counter issues an integer. -/
def issueEvent? (n : Integer k) : Option Event :=
  if n.val = k.max then
    some ⟨.warn, "sequential identifier counter exhausted; restarting at 1",
      [("raw_value_type", k.name)]⟩
  else none

/-- Adds what a counter issues next to what it has issued, as often as asked for; the latest comes
first. -/
def issue : Nat → List (Integer k) → Integer k → List (Integer k) × Integer k
  | 0, issued, next => (issued, next)
  | count + 1, issued, next => issue count (next :: issued) next.following

end Integer

/-- What the counter of each kind issues next. -/
@[ext] structure Counters where
  next : (k : IntegerKind) → Integer k

namespace Counters

/-- Counters that have issued nothing. -/
def initial : Counters := ⟨fun _ => .one⟩

def set (c : Counters) (k : IntegerKind) (n : Integer k) : Counters :=
  ⟨fun j => if h : k = j then h ▸ n else c.next j⟩

@[simp] theorem next_set_self (c : Counters) (k : IntegerKind) (n : Integer k) :
    (c.set k n).next k = n := by
  simp [set]

theorem next_set_of_ne (c : Counters) {j k : IntegerKind} (n : Integer k) (h : k ≠ j) :
    (c.set k n).next j = c.next j := by
  simp [set, h]

/-- The next integer of a kind. -/
def draw (c : Counters) (k : IntegerKind) : Integer k × Counters :=
  (c.next k, c.set k (c.next k).following)

/-- The next integers of a kind, in order. -/
def drawMany (c : Counters) (k : IntegerKind) (count : Nat) : List (Integer k) × Counters :=
  let (issued, next) := Integer.issue count [] (c.next k)
  (issued.reverse, c.set k next)

end Counters

end TypedId
