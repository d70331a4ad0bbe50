/-
Names that are refused. Validation looks for a text of blanks first and tries
to make an identifier of any other; emission only tries. They agree because
blanks are no tokens, so no identifier can be made of them
(`toIdent_of_isAllBlank`). `names_refused_alike` says so of whole declarations:
none of the other checks speaks of the name.
-/
import Mathlib.Data.List.DropRight
import TypedId.Proofs.MissingPieces

namespace TypedId

/-! ## Blanks around a text -/

namespace Text

/-- The text without the blanks around it. -/
def trim (text : String) : String :=
  String.ofList ((text.toList.dropWhile isBlank).rdropWhile isBlank)

theorem trim_eq_empty_iff {text : String} : trim text = "" ↔ isAllBlank text = true := by
  rw [trim, ← String.toList_inj, String.toList_ofList, String.toList_empty,
    List.rdropWhile_eq_nil_iff, isAllBlank, List.all_eq_true]
  constructor
  · intro h c hc
    rw [← List.takeWhile_append_dropWhile (p := isBlank) (l := text.toList)] at hc
    rcases List.mem_append.mp hc with front | behind
    · exact List.mem_takeWhile_imp front
    · exact h c behind
  · intro h c hc
    exact h c ((List.dropWhile_sublist _).subset hc)

end Text

/-! ## Checking a name -/

namespace Validation

/-- A name is found wrong if no identifier can be made of it; blanks count as no name at all. -/
theorem checkName_of_error {n : Name} {f : Fault} (h : n.toIdent = .error f) :
    checkName n =
      [⟨if Text.trim n.text = "" then .missingName else .invalidName n.text, n.span⟩] := by
  simp only [checkName, h, Text.trim_eq_empty_iff]
  split <;> rfl

end Validation

/-- The diagnostic says that there is no name, or that it is no identifier. -/
def Diagnostic.AboutName (d : Diagnostic) : Prop :=
  d.cause = .missingName ∨ ∃ text, d.cause = .invalidName text

namespace Validation

theorem not_aboutName_checkRawType {t : RawType} {e : Diagnostic} (h : e ∈ checkRawType t) :
    ¬ e.AboutName := by
  rw [checkRawType] at h
  split at h
  · rw [List.mem_singleton.mp h]
    simp [Diagnostic.AboutName]
  · cases h

theorem not_aboutName_checkSelfReference {n : Name} {t : RawType} {e : Diagnostic}
    (h : e ∈ checkSelfReference n t) : ¬ e.AboutName := by
  rw [checkSelfReference] at h
  split at h
  · split at h
    · rw [List.mem_singleton.mp h]
      simp [Diagnostic.AboutName]
    · cases h
  · cases h

theorem not_aboutName_checkCapabilities {seen : List String} {cs : List Capability}
    {e : Diagnostic} (h : e ∈ checkCapabilitiesAfter seen cs) : ¬ e.AboutName := by
  induction cs generalizing seen with
  | nil => cases h
  | cons c cs ih =>
    rcases List.mem_append.mp h with first | later
    · obtain ⟨r, -, rfl⟩ := Option.map_eq_some_iff.mp (Option.mem_toList.mp first)
      simp [Diagnostic.AboutName]
    · exact ih later

/-- What is found besides the name. -/
def otherFindings (d : Declaration) : List Diagnostic :=
  checkRawType d.rawType ++ checkSelfReference d.name d.rawType ++ checkCapabilities d.capabilities

theorem not_aboutName_otherFindings {d : Declaration} {e : Diagnostic}
    (h : e ∈ otherFindings d) : ¬ e.AboutName := by
  rcases List.mem_append.mp h with types | capabilities
  · rcases List.mem_append.mp types with rawType | selfReference
    · exact not_aboutName_checkRawType rawType
    · exact not_aboutName_checkSelfReference selfReference
  · exact not_aboutName_checkCapabilities capabilities

/-- The name comes first in the report. -/
theorem errors_validate_eq (d : Declaration) :
    errors (validate d) = checkName d.name ++ otherFindings d := by
  rw [(validate_reports d).errors_eq, findings, otherFindings, List.append_assoc, List.append_assoc,
    List.append_assoc]

end Validation

/-! ## Emission -/

theorem Emission.generate_eq_error_iff {d : Declaration} {r : Report} :
    generate d = .error r ↔ ∃ f, d.name.toIdent = .error f ∧ r = .ofFault f := by
  rw [generate]
  cases d.name.toIdent with
  | ok i =>
    constructor
    · intro h
      cases h
    · rintro ⟨_, h, -⟩
      cases h
  | error f =>
    constructor
    · intro h
      cases h
      exact ⟨f, rfl, rfl⟩
    · rintro ⟨_, h, rfl⟩
      cases h
      rfl

/-- **Names are refused alike.** Code cannot be made for a declaration exactly if validation finds
fault with its name. The making then fails because no identifier can be made of the name, and says
so once, at the place of the name. Validation reports the name there, first and once: that it is
missing if nothing is left of it without the blanks around it, and otherwise, with its whole text,
that it is no identifier. -/
theorem names_refused_alike (d : Declaration) :
    ((∃ r, Emission.generate d = .error r) ↔
      ∃ e ∈ errors (Validation.validate d), e.AboutName) ∧
    ∀ r, Emission.generate d = .error r →
      (∃ f, d.name.toIdent = .error f ∧ f.span = d.name.span ∧ r.toList = [.ofFault f]) ∧
      ∃ first others, errors (Validation.validate d) = first :: others ∧
        first.span = d.name.span ∧
        first.cause =
          (if Text.trim d.name.text = "" then .missingName else .invalidName d.name.text) ∧
        (Text.trim d.name.text ≠ "" →
          first.message = "`" ++ d.name.text ++ "` is not a valid Rust identifier") ∧
        ∀ e ∈ others, ¬ e.AboutName := by
  have report := Validation.errors_validate_eq d
  refine ⟨⟨?_, ?_⟩, ?_⟩
  · rintro ⟨r, h⟩
    obtain ⟨f, hf, -⟩ := Emission.generate_eq_error_iff.mp h
    rw [Validation.checkName_of_error hf] at report
    rw [report]
    refine ⟨_, List.mem_cons_self, ?_⟩
    rw [Diagnostic.AboutName]
    split
    · exact .inl rfl
    · exact .inr ⟨_, rfl⟩
  · rintro ⟨e, he, aboutName⟩
    cases hi : d.name.toIdent with
    | ok i =>
      rw [report, Validation.checkName_of_ok hi, List.nil_append] at he
      exact absurd aboutName (Validation.not_aboutName_otherFindings he)
    | error f => exact ⟨_, Emission.generate_eq_error_iff.mpr ⟨f, hi, rfl⟩⟩
  · intro r h
    obtain ⟨f, hf, rfl⟩ := Emission.generate_eq_error_iff.mp h
    rw [Validation.checkName_of_error hf, List.singleton_append] at report
    refine ⟨⟨f, hf, Name.span_of_toIdent hf, rfl⟩, _, _, report, rfl, rfl, fun shown => ?_, ?_⟩
    · rw [if_neg shown]
      rfl
    · exact fun e => Validation.not_aboutName_otherFindings

/-- `u64` by a name. -/
def wordBy (name : String) : Declaration where
  name := ⟨name, .callSite⟩
  rawType := .path [] (.ofIdent ⟨"u64", .callSite⟩)
  capabilities := []
  visibility := .inherited
  attributes := []
  form := .freestanding
  cratePath := none

/-- An ideographic space is no name; a comment is one that is no identifier. -/
theorem names_refused_alike_comment :
    (∃ r, Emission.generate (wordBy "\u3000") = .error r ∧
      ∃ first others, errors (Validation.validate (wordBy "\u3000")) = first :: others ∧
        first.cause = .missingName) ∧
    ∃ r, Emission.generate (wordBy "// ImageId") = .error r ∧
      ∃ first others, errors (Validation.validate (wordBy "// ImageId")) = first :: others ∧
        first.cause = .invalidName "// ImageId" := by
  have space : Validation.findings (wordBy "\u3000") = [⟨.missingName, .callSite⟩] := by
    decide
  have comment : Validation.findings (wordBy "// ImageId") =
      [⟨.invalidName "// ImageId", .callSite⟩] := by
    decide +kernel
  have fails {name : String} {cause : Cause}
      (found : Validation.findings (wordBy name) = [⟨cause, .callSite⟩])
      (aboutName : (⟨cause, .callSite⟩ : Diagnostic).AboutName) :
      ∃ r, Emission.generate (wordBy name) = .error r ∧
        ∃ first others, errors (Validation.validate (wordBy name)) = first :: others ∧
          first.cause = cause := by
    have report : errors (Validation.validate (wordBy name)) = [⟨cause, .callSite⟩] :=
      (Validation.validate_reports (wordBy name)).errors_eq.trans found
    obtain ⟨r, hr⟩ := (names_refused_alike (wordBy name)).1.mpr
      ⟨_, report ▸ List.mem_singleton_self _, aboutName⟩
    obtain ⟨-, first, others, all, -⟩ := (names_refused_alike (wordBy name)).2 r hr
    have same := all.symm.trans report
    cases same
    exact ⟨r, hr, _, _, all, rfl⟩
  exact ⟨fails space (.inl rfl), fails comment (.inr ⟨_, rfl⟩)⟩

end TypedId
