/-
Collecting diagnostics, step after step. A step reports something or nothing
(`Step.report?`), and its report goes behind all that were recorded before; by
induction on the steps, with any collector to start from, the steps together
record what each of them reports, in their order (`recorded_foldl`). The end
merges the reports two at a time, and merging neither loses a diagnostic nor
moves one (`Report.toList_of_merge?`), whatever reports were recorded.
`collects` puts this together for both ways to end.
-/
import TypedId.Proofs.MissingPieces

namespace TypedId

/-! ## Steps -/

namespace Diagnostics

/-- What is done with a collector: a diagnostic is recorded, or a result checked. -/
inductive Step : Type 1 where
  | push (d : Diagnostic)
  | check {α : Type} (result : Except Report α)

namespace Step

/-- What a step reports. -/
def report? : Step → Option Report
  | .push d => some (.ofDiagnostic d)
  | .check (.ok _) => none
  | .check (.error r) => some r

/-- The diagnostics that a step finds. -/
def found (step : Step) : List Diagnostic := (step.report?.map Report.toList).getD []

def apply (ds : Diagnostics) : Step → Diagnostics
  | .push d => ds.push d
  | .check result => (ds.check result).2

/-- The step checks a result that is a value. -/
def Passes (step : Step) : Prop := ∃ (α : Type) (a : α), step = .check (.ok a)

theorem report?_eq_none_iff {step : Step} : step.report? = none ↔ step.Passes := by
  cases step with
  | push d => simp [report?, Passes]
  | check result =>
    cases result with
    | error r =>
      refine ⟨nofun, ?_⟩
      rintro ⟨_, _, h⟩
      cases h
    | ok a => exact ⟨fun _ => ⟨_, a, rfl⟩, fun _ => rfl⟩

/-- A step only adds to what is recorded. -/
theorem recorded_apply (ds : Diagnostics) (step : Step) :
    (step.apply ds).recorded = ds.recorded ++ step.report?.toList := by
  cases step with
  | push d => rfl
  | check result =>
    cases result with
    | error r => rfl
    | ok a => exact (List.append_nil _).symm

end Step

/-- A collector behind these steps. -/
def collect (steps : List Step) : Diagnostics := steps.foldl Step.apply .empty

theorem recorded_foldl (ds : Diagnostics) (steps : List Step) :
    (steps.foldl Step.apply ds).recorded = ds.recorded ++ steps.filterMap Step.report? := by
  induction steps generalizing ds with
  | nil => simp
  | cons step steps ih =>
    rw [List.foldl_cons, ih, Step.recorded_apply, List.append_assoc, List.filterMap_cons]
    cases step.report? <;> rfl

theorem recorded_collect (steps : List Step) :
    (collect steps).recorded = steps.filterMap Step.report? :=
  recorded_foldl .empty steps

theorem found_collect (steps : List Step) :
    (collect steps).found = steps.flatMap Step.found := by
  rw [found, recorded_collect]
  induction steps with
  | nil => rfl
  | cons step steps ih =>
    rw [List.flatMap_cons, ← ih, Step.found, List.filterMap_cons]
    cases step.report? <;> rfl

/-! ## The end -/

theorem finish_collect_eq_ok_iff {steps : List Step} :
    (collect steps).finish = .ok () ↔ ∀ step ∈ steps, step.Passes := by
  rw [finish_eq_ok_iff, found_eq_nil_iff, recorded_collect, List.filterMap_eq_nil_iff]
  exact forall₂_congr fun _ _ => Step.report?_eq_none_iff

/-- A collector that ends with a report cannot hand back a value. -/
theorem conclude_eq {α : Type} (ds : Diagnostics) (value : Option α) :
    ds.conclude value = ds.finish >>= fun _ =>
      match value with
      | some a => .ok a
      | none => .error (.ofDiagnostic ⟨.incomplete, .callSite⟩) := by
  unfold conclude
  cases ds.finish <;> rfl

theorem check_fst_eq_some_iff {α : Type} {ds : Diagnostics} {result : Except Report α} {a : α} :
    (ds.check result).1 = some a ↔ result = .ok a := by
  cases result <;> simp [check]

/-- **Collecting.** A check hands back just the value of its result, and a value leaves the
collector as it was. Behind any steps, the collector ends well exactly if all of them checked a
value. Otherwise it ends with one report, whether there is a value or not: the reports of the
steps merged pairwise, which is all diagnostics that the steps found, in their order, and
`compile_error` is called once with the message of each. Where nothing was found, a value is
handed back; that there is none is then the only diagnostic. -/
theorem collects (steps : List Step) :
    (∀ (α : Type) (result : Except Report α) (a : α),
      ((collect steps).check result).1 = some a ↔ result = .ok a) ∧
    (∀ (α : Type) (a : α), collect (steps ++ [.check (.ok a)]) = collect steps) ∧
    ((collect steps).finish = .ok () ↔ ∀ step ∈ steps, step.Passes) ∧
    (∀ r, (collect steps).finish = .error r →
      r.toList = steps.flatMap Step.found ∧
      Report.merge? (steps.filterMap Step.report?) = some r ∧
      Tokens.CompileErrors ((steps.flatMap Step.found).map Diagnostic.message) r.tokens ∧
      ∀ (α : Type) (value : Option α), (collect steps).conclude value = .error r) ∧
    ((collect steps).finish = .ok () →
      (∀ (α : Type) (a : α), (collect steps).conclude (some a) = .ok a) ∧
      ∀ α : Type, ∃ d, (collect steps).conclude (none : Option α) = .error ⟨d, []⟩ ∧
        d.message = "incomplete identifier declaration" ∧ d.span = .callSite) := by
  refine ⟨fun _ _ _ => check_fst_eq_some_iff, fun α a => ?_, finish_collect_eq_ok_iff,
    fun r h => ?_, fun h => ⟨fun α a => ?_, fun α => ?_⟩⟩
  · rw [collect, List.foldl_append]
    rfl
  · have merged : Report.merge? (steps.filterMap Step.report?) = some r := by
      rw [← recorded_collect]
      exact finish_eq_error_iff.mp h
    have all : r.toList = steps.flatMap Step.found := by
      rw [← found_collect]
      exact toList_of_finish h
    refine ⟨all, merged, all ▸ r.compileErrors, fun α value => ?_⟩
    rw [conclude_eq, h]
    rfl
  · rw [conclude_eq, h]
    rfl
  · exact ⟨⟨.incomplete, .callSite⟩, by rw [conclude_eq, h]; rfl, rfl, rfl⟩

/-- One diagnostic, a value, and a report of two. -/
def nameAndType : List Step :=
  [.push ⟨.missingName, .callSite⟩, .check (.ok ()),
    .check (.error ⟨⟨.rawType none, .callSite⟩, [⟨.invalidName "fn", .callSite⟩]⟩ :
      Except Report RawType)]

theorem collects_nameAndType :
    (∃ r, (collect nameAndType).finish = .error r ∧
      r.toList.map (·.cause) = [.missingName, .rawType none, .invalidName "fn"] ∧
      Tokens.CompileErrors [Cause.missingName.message, (Cause.rawType none).message,
        "`fn` is not a valid Rust identifier"] r.tokens) ∧
    (collect [.check (.ok 7)]).finish = .ok () ∧
    (collect [.check (.ok 7)]).conclude (some "ImageId") = .ok "ImageId" := by
  obtain ⟨found, -, errors, -⟩ := (collects nameAndType).2.2.2.1 _ rfl
  refine ⟨⟨_, rfl, ?_, errors⟩, rfl, ((collects [.check (.ok 7)]).2.2.2.2 rfl).1 String "ImageId"⟩
  rw [found]
  rfl

end Diagnostics

end TypedId
