/-
How an expansion can end. What is wrong with an input is written down once
more as a plain list, `findings`, and `Reports` says that a stage finds just
that. From there `all_or_nothing`: an expansion gives the whole code of its
declaration, or one compile error for each finding of the stage that stopped
it; making the code stops none.
-/
import TypedId.Expansion
import TypedId.Proofs.Messages
import TypedId.Proofs.Names

namespace TypedId

/-! ## What a stage reports -/

/-- A stage that goes well has found nothing, and one that fails reports all it has found. -/
def Reports {α : Type} (ds : List Diagnostic) : Except Report α → Prop
  | .ok _ => ds = []
  | .error r => r.toList = ds

/-- The finding of a part that fails. -/
def faults {α : Type} : Except Fault α → List Diagnostic
  | .ok _ => []
  | .error f => [.ofFault f]

theorem reports_finish (ds : Diagnostics) : Reports ds.found ds.finish := by
  cases h : ds.finish with
  | ok => exact Diagnostics.finish_eq_ok_iff.mp h
  | error r => exact Diagnostics.toList_of_finish h

namespace Freestanding

/-- What is wrong with the pieces, in the order they are looked at. -/
def Pieces.findings (p : Pieces) : List Diagnostic :=
  (if p.rawType.isSome then [] else [⟨.rawType none, .callSite⟩]) ++
  (if p.name.isSome then [] else
    [⟨.missingName, (p.rawType.map RawType.span).getD .callSite⟩]) ++
  faults (Options.ofTokens .deriveAndCrate p.options)

/-- Whatever is missing among the pieces is reported, and only what is. -/
theorem Pieces.declaration_reports (p : Pieces) : Reports p.findings p.declaration := by
  obtain ⟨visibility, rawType, name, options⟩ := p
  simp only [declaration, findings]
  generalize Options.ofTokens .deriveAndCrate options = read
  cases rawType <;> cases name <;> cases read <;> rfl

/-- What is wrong with the input of the freestanding form. -/
def findings (input : Tokens) : List Diagnostic :=
  match Reader.run pieces input with
  | .error f => [.ofFault f]
  | .ok p => p.findings

theorem parse_reports (input : Tokens) : Reports (findings input) (parse input) := by
  rw [findings, parse]
  cases Reader.run pieces input with
  | error f => rfl
  | ok p => exact p.declaration_reports

end Freestanding

namespace Attached

/-- What is wrong with the item. Its attributes are looked at only if it can be filled in. -/
def targetFindings (item : Item) : List Diagnostic :=
  match fillable item with
  | .error d => [d]
  | .ok s => faults (splitDerives s.attributes)

/-- What is wrong with arguments and an item that could be read. -/
def declarationFindings (args : Arguments) (item : Item) : List Diagnostic :=
  (if args.rawType.isSome then [] else [⟨.rawType none, .callSite⟩]) ++
  faults (Options.ofTokens .crateOnly args.options) ++ targetFindings item

theorem declaration_reports (args : Arguments) (item : Item) :
    Reports (declarationFindings args item) (declaration args item) := by
  obtain ⟨rawType, options⟩ := args
  simp only [declaration, declarationFindings, targetFindings]
  generalize Options.ofTokens .crateOnly options = read
  cases fillable item with
  | error d => cases rawType <;> cases read <;> rfl
  | ok s =>
    simp only [Except.mapError, Diagnostics.check]
    generalize splitDerives s.attributes = split
    cases rawType <;> cases read <;> cases split <;> rfl

/-- What is wrong with the arguments and the item of the attached form. The item is not read if
the arguments cannot be. -/
def findings (args item : Tokens) : List Diagnostic :=
  match Reader.run arguments args with
  | .error f => [.ofFault f]
  | .ok args =>
    match Reader.run Grammar.anyItem item with
    | .error f => [.ofFault f]
    | .ok item => declarationFindings args item

theorem parse_reports (args item : Tokens) : Reports (findings args item) (parse args item) := by
  rw [findings, parse]
  cases Reader.run arguments args with
  | error f => rfl
  | ok args =>
    cases Reader.run Grammar.anyItem item with
    | error f => rfl
    | ok item => exact declaration_reports args item

end Attached

theorem Validation.validate_reports (d : Declaration) : Reports (findings d) (validate d) := by
  have reports := reports_finish (Diagnostics.empty.pushAll (findings d))
  rwa [Diagnostics.found_pushAll] at reports

/-! ## How an expansion ends -/

/-- Code is made for every declaration that was accepted. -/
theorem Emission.generate_of_validate {d : Declaration} (h : Validation.validate d = .ok ()) :
    ∃ i, d.name.toIdent = .ok i ∧ generate d = .ok (items i d) := by
  have none := Validation.findings_of_validate h
  simp only [Validation.findings, List.append_eq_nil_iff] at none
  obtain ⟨i, hi⟩ := Validation.toIdent_of_checkName none.1.1.1
  refine ⟨i, hi, ?_⟩
  rw [generate, hi]
  rfl

namespace Expansion

/-- The expansion writes this code, and nothing else. -/
structure Gives (e : Expansion) (code : Tokens) : Prop where
  result : e.result = .ok code
  tokens : e.tokens = code

/-- The expansion ends at a stage with these diagnostics, at least one. It writes one call of
`compile_error` for each, with its message and in their order, and nothing else. -/
structure Fails (e : Expansion) (stage : Stage) (ds : List Diagnostic) : Prop where
  ne_nil : ds ≠ []
  result : ∃ r, e.result = .error (stage, r) ∧ r.toList = ds
  tokens : Tokens.CompileErrors (ds.map Diagnostic.message) e.tokens

/-- How an expansion can end that starts from a parsed input with these findings. -/
inductive Outcome (found : List Diagnostic) (parsed : Except Report Declaration)
    (e : Expansion) : Prop
  | unread {r} (stopped : parsed = .error r) (fails : e.Fails .parse found)
  | refused {d r} (read : parsed = .ok d) (stopped : Validation.validate d = .error r)
      (fails : e.Fails .validate (Validation.findings d))
  | expanded {d code} (read : parsed = .ok d) (accepted : Validation.validate d = .ok ())
      (made : Emission.generate d = .ok code) (gives : e.Gives code)

theorem fails_of_reports {α : Type} {e : Expansion} {stage : Stage} {r : Report}
    {found : List Diagnostic} (h : e.result = .error (stage, r))
    (hr : Reports found (.error r : Except Report α)) : e.Fails stage found := by
  have all : r.toList = found := hr
  subst all
  refine ⟨List.cons_ne_nil _ _, ⟨r, h, rfl⟩, ?_⟩
  rw [tokens, h]
  exact r.compileErrors

theorem fails_of_validate {d : Declaration} {r : Report} (h : Validation.validate d = .error r) :
    (ofParsed (.ok d)).Fails .validate (Validation.findings d) := by
  have reports := Validation.validate_reports d
  rw [h] at reports
  refine fails_of_reports ?_ reports
  rw [ofParsed, ofDeclaration, h]
  rfl

theorem gives_of_validate {d : Declaration} {code : Tokens} (h : Validation.validate d = .ok ())
    (hg : Emission.generate d = .ok code) : (ofParsed (.ok d)).Gives code := by
  have result : (ofParsed (.ok d)).result = .ok code := by
    rw [ofParsed, ofDeclaration, h, hg]
    rfl
  refine ⟨result, ?_⟩
  rw [tokens, result]

theorem outcome_of_reports {found : List Diagnostic} {parsed : Except Report Declaration}
    (h : Reports found parsed) : Outcome found parsed (ofParsed parsed) := by
  cases parsed with
  | error r => exact .unread rfl (fails_of_reports rfl h)
  | ok d =>
    cases hv : Validation.validate d with
    | error r => exact .refused rfl hv (fails_of_validate hv)
    | ok u =>
      obtain ⟨i, -, hg⟩ := Emission.generate_of_validate hv
      exact .expanded rfl hv hg (gives_of_validate hv hg)

/-- **All or nothing.** Every expansion ends in one of three ways, in either form. -/
theorem all_or_nothing :
    (∀ input, Outcome (Freestanding.findings input) (Freestanding.parse input)
      (freestanding input)) ∧
    ∀ args item, Outcome (Attached.findings args item) (Attached.parse args item)
      (attached args item) := by
  refine ⟨fun input => ?_, fun args item => ?_⟩
  · exact outcome_of_reports (Freestanding.parse_reports input)
  · exact outcome_of_reports (Attached.parse_reports args item)

end Expansion

end TypedId
