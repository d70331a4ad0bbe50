/-
Collecting diagnostics, so that one expansion can report everything that is
wrong with it. The collector keeps the reports it is given, one behind the
other, and merges them two at a time when it ends.
-/
import TypedId.Diagnostic

namespace TypedId

/-- The reports that were recorded, in order. -/
structure Diagnostics where
  recorded : List Report
deriving DecidableEq, Repr

namespace Diagnostics

def empty : Diagnostics := ⟨[]⟩

/-- Records a report as it is. -/
def add (ds : Diagnostics) (r : Report) : Diagnostics := ⟨ds.recorded ++ [r]⟩

def push (ds : Diagnostics) (d : Diagnostic) : Diagnostics := ds.add (.ofDiagnostic d)

/-- Pushes one after another. -/
def pushAll (ds : Diagnostics) (found : List Diagnostic) : Diagnostics := found.foldl push ds

/-- Passes on the value of a result, or records its report. -/
def check {α : Type} (ds : Diagnostics) : Except Report α → Option α × Diagnostics
  | .ok a => (some a, ds)
  | .error r => (none, ds.add r)

/-- Ends with all reports as one if anything was recorded. -/
def finish (ds : Diagnostics) : Except Report Unit :=
  match Report.merge? ds.recorded with
  | some r => .error r
  | none => .ok ()

/-- Ends with a report if anything was recorded, else with the value there should be. -/
def conclude {α : Type} (ds : Diagnostics) (value : Option α) : Except Report α :=
  match ds.finish with
  | .error r => .error r
  | .ok _ =>
    match value with
    | some a => .ok a
    | none => .error (.ofDiagnostic ⟨.incomplete, .callSite⟩)

/-- The diagnostics of all that was recorded. -/
def found (ds : Diagnostics) : List Diagnostic := ds.recorded.flatMap Report.toList

@[simp] theorem found_empty : empty.found = [] := rfl

@[simp] theorem found_add (ds : Diagnostics) (r : Report) :
    (ds.add r).found = ds.found ++ r.toList := by
  simp [found, add]

@[simp] theorem found_push (ds : Diagnostics) (d : Diagnostic) :
    (ds.push d).found = ds.found ++ [d] := found_add ds (.ofDiagnostic d)

theorem found_pushAll (ds : Diagnostics) (l : List Diagnostic) :
    (ds.pushAll l).found = ds.found ++ l := by
  induction l generalizing ds with
  | nil => simp [pushAll]
  | cons d l ih =>
    have again : ds.pushAll (d :: l) = (ds.push d).pushAll l := rfl
    rw [again, ih, found_push, List.append_assoc, List.singleton_append]

/-- No report is empty, so nothing was recorded if nothing was found. -/
theorem found_eq_nil_iff {ds : Diagnostics} : ds.found = [] ↔ ds.recorded = [] := by
  obtain ⟨recorded⟩ := ds
  cases recorded <;> simp [found, Report.toList]

theorem finish_eq_ok_iff {ds : Diagnostics} : ds.finish = .ok () ↔ ds.found = [] := by
  rw [found_eq_nil_iff, ← Report.merge?_eq_none_iff, finish]
  cases Report.merge? ds.recorded <;> simp

theorem finish_eq_error_iff {ds : Diagnostics} {r : Report} :
    ds.finish = .error r ↔ Report.merge? ds.recorded = some r := by
  rw [finish]
  cases Report.merge? ds.recorded <;> simp

theorem toList_of_finish {ds : Diagnostics} {r : Report} (h : ds.finish = .error r) :
    r.toList = ds.found :=
  Report.toList_of_merge? (finish_eq_error_iff.mp h)

end Diagnostics

end TypedId
