/-
What the parsers report. Every piece of an input that is missing or malformed
is reported in its place, whatever else is wrong, except that nothing behind a
fault in reading the input itself is looked at. `errors_parse` lists the errors
of both forms, and says by the tokens which pieces are missing; the error for a
declaration that is incomplete for no other reason is never among them.
-/
import TypedId.Proofs.Inputs
import TypedId.Proofs.Outcomes

namespace TypedId

open Reader

/-- The errors of a stage, in order. -/
def errors {α : Type} : Except Report α → List Diagnostic
  | .ok _ => []
  | .error r => r.toList

theorem errors_eq_nil_iff {α : Type} {result : Except Report α} :
    errors result = [] ↔ ∃ a, result = .ok a := by
  cases result with
  | ok a => simp [errors]
  | error r => simp [errors, Report.toList]

theorem Reports.errors_eq {α : Type} {ds : List Diagnostic} {result : Except Report α}
    (h : Reports ds result) : errors result = ds := by
  cases result with
  | ok a => exact h.symm
  | error r => exact h

/-! ## Derive attributes -/

/-- Why a derive attribute cannot be read. -/
def Attribute.malformed? (a : Attribute) : Option Fault :=
  match a.derived with
  | .ok _ => none
  | .error f => some f

/-- Splitting fails at the first derive attribute that cannot be read, and only there. -/
theorem faults_splitDerives (as : List Attribute) :
    faults (splitDerives as) =
      (((as.filter (·.isDerive)).findSome? Attribute.malformed?).map Diagnostic.ofFault).toList := by
  induction as with
  | nil => rfl
  | cons a as ih =>
    rw [splitDerives, List.filter_cons]
    cases ha : a.isDerive with
    | false =>
      simp only [Bool.false_eq_true, if_false, ← ih]
      cases splitDerives as <;> rfl
    | true =>
      simp only [if_true, List.findSome?_cons, Attribute.malformed?]
      cases a.derived with
      | error f => rfl
      | ok capabilities =>
        simp only [← ih]
        cases splitDerives as <;> rfl

/-! ## Arguments -/

namespace Attached

/-- What the arguments are made of: nothing, or a type and options. -/
inductive ArgumentsAt (ts : Tokens) : Arguments → Prop
  | missing (absent : ts = []) : ArgumentsAt ts ⟨none, []⟩
  | given {t : RawType} {us os : Tokens} (split : Split ts t us os) : ArgumentsAt ts ⟨some t, os⟩

theorem run_arguments_iff {ts : Tokens} {as : Arguments} :
    run arguments ts = .ok as ↔ ArgumentsAt ts as := by
  obtain ⟨_ | t, os⟩ := as
  · constructor
    · intro h
      obtain ⟨left, h, -⟩ := runIn_eq_ok_iff.mp h
      rw [arguments, atEnd_bind] at h
      cases ts with
      | nil =>
        cases h
        exact .missing rfl
      | cons t ts =>
        obtain ⟨rawType, c, -, h⟩ := bind_eq_ok_iff.mp h
        rw [atEnd_bind] at h
        split at h
        · cases h
        · obtain ⟨-, behind, -, h⟩ := bind_eq_ok_iff.mp h
          obtain ⟨os, rest, -, h⟩ := bind_eq_ok_iff.mp h
          cases h
    · rintro ⟨rfl⟩
      rfl
  · rw [arguments_eq_ok_iff]
    constructor
    · rintro ⟨us, split⟩
      exact .given split
    · intro h
      cases h with
      | given split => exact ⟨_, split⟩

/-- Only empty arguments are without a type. -/
theorem ArgumentsAt.rawType_eq_none_iff {ts : Tokens} {as : Arguments} (h : ArgumentsAt ts as) :
    as.rawType = none ↔ ts = [] := by
  cases h with
  | missing absent => exact ⟨fun _ => absent, fun _ => rfl⟩
  | given split =>
    refine ⟨nofun, ?_⟩
    rintro rfl
    obtain ⟨rawType, -⟩ := split
    exact absurd (.inl Tokens.blank_nil) (not_barren_of_anyType rawType.1)

/-- The errors of arguments and an item that could be read. -/
theorem errors_declaration {ts : Tokens} {as : Arguments} (h : run arguments ts = .ok as)
    (item : Item) :
    errors (declaration as item) =
      (if ts = [] then [⟨.rawType none, .callSite⟩] else []) ++
      faults (Options.ofTokens .crateOnly as.options) ++
      match fillable item with
      | .error d => [d]
      | .ok s =>
        (((s.attributes.filter (·.isDerive)).findSome? Attribute.malformed?).map
          Diagnostic.ofFault).toList := by
  have found := (declaration_reports as item).errors_eq
  rw [found, declarationFindings, targetFindings]
  have missing : (if as.rawType.isSome then [] else [⟨.rawType none, .callSite⟩] : List Diagnostic) =
      if ts = [] then [⟨.rawType none, .callSite⟩] else [] := by
    simp only [← (run_arguments_iff.mp h).rawType_eq_none_iff]
    cases as.rawType <;> rfl
  rw [missing]
  cases fillable item with
  | error d => rfl
  | ok s => simp only [faults_splitDerives]

end Attached

/-! ## No declaration without an error -/

/-- No diagnostic says just that there is no declaration. -/
def Told (ds : List Diagnostic) : Prop := ∀ d ∈ ds, d.cause ≠ .incomplete

theorem Told.append {ds es : List Diagnostic} (hd : Told ds) (he : Told es) : Told (ds ++ es) := by
  intro d h
  rcases List.mem_append.mp h with first | later
  · exact hd d first
  · exact he d later

theorem told_of_cause {d : Diagnostic} (h : d.cause ≠ .incomplete) : Told [d] := by
  intro e he
  rw [List.mem_singleton.mp he]
  exact h

theorem told_nil : Told [] := fun _ h => nomatch h

theorem told_ofFault (f : Fault) : Told [.ofFault f] := told_of_cause (nofun)

theorem told_faults {α : Type} (result : Except Fault α) : Told (faults result) := by
  cases result with
  | ok a => exact told_nil
  | error f => exact told_ofFault f

theorem Freestanding.told_findings (input : Tokens) : Told (findings input) := by
  rw [findings]
  cases run pieces input with
  | error f => exact told_ofFault f
  | ok p =>
    refine .append (.append ?_ ?_) (told_faults _)
    · cases p.rawType with
      | none => exact told_of_cause (by simp)
      | some t => exact told_nil
    · cases p.name with
      | none => exact told_of_cause (by simp)
      | some l => exact told_nil

theorem Attached.told_targetFindings (item : Item) : Told (targetFindings item) := by
  rw [targetFindings]
  cases h : fillable item with
  | ok s => exact told_faults _
  | error d =>
    refine told_of_cause ?_
    unfold fillable at h
    (repeat' split at h) <;> cases h <;> simp

theorem Attached.told_findings (args item : Tokens) : Told (findings args item) := by
  rw [findings]
  cases run arguments args with
  | error f => exact told_ofFault f
  | ok as =>
    cases run Grammar.anyItem item with
    | error f => exact told_ofFault f
    | ok i =>
      refine .append (.append ?_ (told_faults _)) (told_targetFindings i)
      cases as.rawType with
      | none => exact told_of_cause (by simp)
      | some t => exact told_nil

/-! ## The errors -/

/-- **What is missing is reported.** The errors of the freestanding form: the first fault in
reading the pieces, or else one error for each piece that is missing and the fault of the options,
read by themselves. The type is missing where nothing is left behind the visibility, or a text or
a comma stands there, and the name where no text follows (`Holds`). The errors of the attached
form: the first fault in reading the arguments, or else the item, or else an error for missing
arguments, the fault of the options, and what is wrong with the item, or else with its first
malformed derive attribute. There is a declaration if there are no errors, and only then; no error
says just that there is none. -/
theorem errors_parse :
    (∀ input, errors (Freestanding.parse input) =
      match run Freestanding.pieces input with
      | .error f => [.ofFault f]
      | .ok p =>
        (if p.rawType.isSome then [] else [⟨.rawType none, .callSite⟩]) ++
        (if p.name.isSome then [] else
          [⟨.missingName, (p.rawType.map RawType.span).getD .callSite⟩]) ++
        faults (Options.ofTokens .deriveAndCrate p.options)) ∧
    (∀ input p, run Freestanding.pieces input = .ok p ↔ Freestanding.Holds input p) ∧
    (∀ args item, errors (Attached.parse args item) =
      match run Attached.arguments args, run Grammar.anyItem item with
      | .error f, _ => [.ofFault f]
      | .ok _, .error f => [.ofFault f]
      | .ok as, .ok i =>
        (if args = [] then [⟨.rawType none, .callSite⟩] else []) ++
        faults (Options.ofTokens .crateOnly as.options) ++
        match Attached.fillable i with
        | .error d => [d]
        | .ok s =>
          (((s.attributes.filter (·.isDerive)).findSome? Attribute.malformed?).map
            Diagnostic.ofFault).toList) ∧
    (∀ args as, run Attached.arguments args = .ok as ↔ Attached.ArgumentsAt args as) ∧
    (∀ input, errors (Freestanding.parse input) = [] ↔ ∃ d, Freestanding.parse input = .ok d) ∧
    (∀ args item, errors (Attached.parse args item) = [] ↔
      ∃ d, Attached.parse args item = .ok d) ∧
    (∀ input, Told (errors (Freestanding.parse input))) ∧
    ∀ args item, Told (errors (Attached.parse args item)) := by
  refine ⟨fun input => ?_, fun _ _ => Freestanding.pieces_eq_ok_iff, fun args item => ?_,
    fun _ _ => Attached.run_arguments_iff, fun input => errors_eq_nil_iff,
    fun args item => errors_eq_nil_iff, fun input => ?_, fun args item => ?_⟩
  · exact (Freestanding.parse_reports input).errors_eq
  · rw [Attached.parse]
    cases ha : run Attached.arguments args with
    | error f => rfl
    | ok as =>
      cases run Grammar.anyItem item with
      | error f => rfl
      | ok i => exact Attached.errors_declaration ha i
  · rw [(Freestanding.parse_reports input).errors_eq]
    exact Freestanding.told_findings input
  · rw [(Attached.parse_reports args item).errors_eq]
    exact Attached.told_findings args item

/-- `"Id", id`: a text stands where the type would. -/
def untyped : Tokens :=
  [.literal "\"Id\"" .callSite, .punct ',' false .callSite, .ident "id" .callSite]

/-- `Uuid, id`: no text stands where the name would. -/
def unnamed : Tokens :=
  [.ident "Uuid" .callSite, .punct ',' false .callSite, .ident "id" .callSite]

/-- The one error for the option `id`. -/
def badOption : Diagnostic :=
  .ofFault (.placed .callSite (.unsupportedOption Allowed.deriveAndCrate.describe))

theorem errors_parse_untyped :
    (Freestanding.NoType untyped ∧ Freestanding.Holds untyped
      ⟨.inherited, none, some ⟨"Id", "", .callSite⟩, [.ident "id" .callSite]⟩ ∧
      errors (Freestanding.parse untyped) = [⟨.rawType none, .callSite⟩, badOption]) ∧
    (Freestanding.Holds unnamed
      ⟨.inherited, some (.path [] (.ofIdent ⟨"Uuid", .callSite⟩)), none, [.ident "id" .callSite]⟩ ∧
      errors (Freestanding.parse unnamed) = [⟨.missingName, .callSite⟩, badOption]) ∧
    errors (Freestanding.parse []) = [⟨.rawType none, .callSite⟩, ⟨.missingName, .callSite⟩] ∧
    errors (Attached.parse [] [.ident "enum" .callSite, .ident "Id" .callSite,
      .group .brace [] .callSite]) =
      [⟨.rawType none, .callSite⟩,
        ⟨.declaration "expected a struct declaration", .callSite⟩] := by
  obtain ⟨freestanding, holds, attached, -⟩ := errors_parse
  have text : Tokens.Text untyped ⟨"Id", "", .callSite⟩ (untyped.drop 1) :=
    ⟨"\"Id\"", rfl, by cbv⟩
  exact ⟨⟨.inr (.inl ⟨_, _, text⟩), (holds _ _).mp (by cbv), (freestanding untyped).trans rfl⟩,
    ⟨(holds _ _).mp (by cbv), (freestanding unnamed).trans rfl⟩, (freestanding []).trans rfl,
    (attached [] _).trans rfl⟩

end TypedId
