/-
Sets of characters given as ascending, closed ranges of code points.
-/
namespace TypedId.Text

/-- Closed ranges of code points. -/
abbrev Ranges := List (Nat × Nat)

/-- Whether a character lies in one of the ranges. -/
def Ranges.has (ranges : Ranges) (c : Char) : Bool :=
  ranges.any fun r => r.1 ≤ c.toNat && c.toNat ≤ r.2

theorem Ranges.has_append (a b : Ranges) (c : Char) : (a ++ b).has c = (a.has c || b.has c) := by
  simp [Ranges.has, List.any_append]

end TypedId.Text
