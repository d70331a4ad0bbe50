/-
What validation reports. A declaration is checked in four parts, each from its
own fields, and all that is found is reported, part after part.
`reports_all_parts`: a change of a declaration changes what is found in the
parts that it touches, and nothing else of the report.
-/
import TypedId.Proofs.Conflicts
import TypedId.Proofs.MissingPieces

namespace TypedId.Validation

/-! ## The parts -/

/-- What is checked of a declaration. -/
inductive Part where
  | name
  | rawType
  | selfReference
  | capabilities
deriving DecidableEq

namespace Part

/-- The order of the report. -/
def all : List Part := [.name, .rawType, .selfReference, .capabilities]

/-- What is found in a part. -/
def found (d : Declaration) : Part → List Diagnostic
  | .name => checkName d.name
  | .rawType => checkRawType d.rawType
  | .selfReference => checkSelfReference d.name d.rawType
  | .capabilities => checkCapabilities d.capabilities

/-- Two declarations have all in common that a part is made of. -/
def Shared (d d' : Declaration) : Part → Prop
  | .name => d.name = d'.name
  | .rawType => d.rawType = d'.rawType
  | .selfReference => d.name = d'.name ∧ d.rawType = d'.rawType
  | .capabilities => d.capabilities = d'.capabilities

theorem mem_all (q : Part) : q ∈ all := by
  cases q <;> decide

theorem found_eq_of_shared {d d' : Declaration} {q : Part} (h : q.Shared d d') :
    q.found d = q.found d' := by
  cases q with
  | name => exact congrArg checkName h
  | rawType => exact congrArg checkRawType h
  | selfReference => exact congrArg₂ checkSelfReference h.1 h.2
  | capabilities => exact congrArg checkCapabilities h

end Part

/-- The report is what is found in the parts, one after another. -/
theorem errors_validate (d : Declaration) :
    errors (validate d) = Part.all.flatMap (Part.found d) := by
  rw [(validate_reports d).errors_eq, findings]
  simp [Part.all, Part.found, List.append_assoc]

/-! ## One part -/

theorem checkName_cases (n : Name) :
    checkName n = [] ∨ checkName n = [⟨.missingName, n.span⟩] ∨
      checkName n = [⟨.invalidName n.text, n.span⟩] := by
  rw [checkName]
  split
  · exact .inr (.inl rfl)
  · split
    · exact .inl rfl
    · exact .inr (.inr rfl)

theorem checkRawType_cases (t : RawType) :
    checkRawType t = [] ∨ ∃ detail, checkRawType t = [⟨.rawType (some detail), t.core.span⟩] := by
  rw [checkRawType]
  split
  · exact .inr ⟨_, rfl⟩
  · exact .inl rfl

theorem checkSelfReference_cases (n : Name) (t : RawType) :
    checkSelfReference n t = [] ∨ ∃ detail i, t.ident? = some i ∧
      checkSelfReference n t = [⟨.rawType (some detail), i.span⟩] := by
  rw [checkSelfReference]
  split
  · next i hi =>
    split
    · exact .inr ⟨_, i, hi, rfl⟩
    · exact .inl rfl
  · exact .inl rfl

/-- A type that is one word is resolved. -/
theorem unresolved?_of_ident? {t : RawType} {i : Ident} (h : t.ident? = some i) :
    unresolved? t.core = none := by
  cases t with
  | path owner p => rfl
  | infer | never | unit | paren | group | bound | other => cases h

/-- At most one of the two is found, since they are about different types. -/
theorem rawType_or_selfReference (n : Name) (t : RawType) :
    checkRawType t = [] ∨ checkSelfReference n t = [] := by
  cases h : t.ident? with
  | none => exact .inr (by rw [checkSelfReference, h])
  | some i => exact .inl (checkRawType_eq_nil_iff.mpr (unresolved?_of_ident? h))

/-! ## All parts -/

/-- Where only some parts are touched, the others are found as before. -/
theorem errors_touched {d d' : Declaration} {touched : List Part}
    (h : ∀ q ∉ touched, q.Shared d d') :
    errors (validate d') =
      Part.all.flatMap fun q => if q ∈ touched then q.found d' else q.found d := by
  rw [errors_validate]
  refine List.flatMap_congr fun q _ => ?_
  by_cases hq : q ∈ touched
  · rw [if_pos hq]
  · rw [if_neg hq, Part.found_eq_of_shared (h q hq)]

/-- Parts in which nothing is found any more go from the report, and the rest of it stays. -/
theorem errors_repaired {d d' : Declaration} {touched : List Part}
    (h : ∀ q ∉ touched, q.Shared d d') (repaired : ∀ q ∈ touched, q.found d' = []) :
    errors (validate d') = (Part.all.filter (· ∉ touched)).flatMap (Part.found d) := by
  rw [errors_touched h]
  induction Part.all with
  | nil => rfl
  | cons q qs ih =>
    rw [List.flatMap_cons, ih, List.filter_cons]
    by_cases hq : q ∈ touched
    · simp [hq, repaired q hq]
    · simp [hq]

/-- **Everything at once.** Validation reports the name, at its place, as missing or as none, the
raw type or that it is the identifier itself, and each capability in conflict, at its last word; it
accepts if there is nothing to report. The other fields of a declaration do not matter. A change
that leaves a part as it was leaves what is found in it, and a part that is put right goes from the
report alone. -/
theorem reports_all_parts :
    (∀ d, errors (validate d) = Part.all.flatMap (Part.found d)) ∧
    (∀ d, Part.found d .name = [] ∨ ∃ cause, Part.found d .name = [⟨cause, d.name.span⟩] ∧
      (cause = .missingName ∨ cause = .invalidName d.name.text)) ∧
    (∀ d, (Part.found d .rawType ++ Part.found d .selfReference).length ≤ 1 ∧
      ∀ e ∈ Part.found d .rawType ++ Part.found d .selfReference,
        ∃ detail, e.cause = .rawType (some detail)) ∧
    (∀ d, Part.found d .capabilities = (List.finRange d.capabilities.length).filterMap fun i =>
      (conflictAt d.capabilities i).map fun r =>
        ⟨.capability (conflictName d.capabilities[i] r) r,
          d.capabilities[i].path.last.ident.span⟩) ∧
    (∀ d, validate d = .ok () ↔ ∀ q, Part.found d q = []) ∧
    (∀ d visibility attributes form cratePath,
      validate { d with visibility, attributes, form, cratePath } = validate d) ∧
    (∀ (d d' : Declaration) (touched : List Part), (∀ q ∉ touched, q.Shared d d') →
      errors (validate d') =
        Part.all.flatMap fun q => if q ∈ touched then q.found d' else q.found d) ∧
    ∀ (d d' : Declaration) (touched : List Part), (∀ q ∉ touched, q.Shared d d') →
      (∀ q ∈ touched, q.found d' = []) →
      errors (validate d') = (Part.all.filter (· ∉ touched)).flatMap (Part.found d) := by
  refine ⟨errors_validate, fun d => ?_, fun d => ?_,
    fun d => checkCapabilities_eq d.capabilities, fun d => ?_, fun _ _ _ _ _ => rfl,
    fun _ _ _ => errors_touched, fun _ _ _ => errors_repaired⟩
  · rcases checkName_cases d.name with none | missing | invalid
    · exact .inl none
    · exact .inr ⟨_, missing, .inl rfl⟩
    · exact .inr ⟨_, invalid, .inr rfl⟩
  · rcases rawType_or_selfReference d.name d.rawType with none | none
    · rcases checkSelfReference_cases d.name d.rawType with h | ⟨detail, i, -, h⟩ <;>
        simp [Part.found, none, h]
    · rcases checkRawType_cases d.rawType with h | ⟨detail, h⟩ <;> simp [Part.found, none, h]
  · have accepted : validate d = .ok () ↔ errors (validate d) = [] := by
      rw [errors_eq_nil_iff]
      exact ⟨fun h => ⟨(), h⟩, fun ⟨_, h⟩ => h⟩
    rw [accepted, errors_validate, List.flatMap_eq_nil_iff]
    exact ⟨fun h q => h q q.mem_all, fun h q _ => h q⟩

/-- `_, "9 lives", derive(Default)`. -/
def nineLives : Declaration :=
  { imageId [⟨.ofIdent ⟨"Default", .callSite⟩⟩] with
    name := ⟨"9 lives", .callSite⟩
    rawType := .infer .callSite }

/-- `ImageId, "ImageId", derive(Default)`. -/
def wrapsItself : Declaration :=
  { imageId [⟨.ofIdent ⟨"Default", .callSite⟩⟩] with
    rawType := .path [] (.ofIdent ⟨"ImageId", .callSite⟩) }

/-- With another raw type, the name and the capability are still reported. -/
theorem reports_all_parts_nineLives :
    (errors (validate nineLives)).map (·.cause) =
      [.invalidName "9 lives", .rawType (some "`_` must be replaced by a concrete type"),
        .capability "Default" .zeroValue] ∧
    (errors (validate { nineLives with rawType := (imageId []).rawType })).map (·.cause) =
      [.invalidName "9 lives", .capability "Default" .zeroValue] ∧
    (errors (validate wrapsItself)).map (·.cause) =
      [.rawType (some
          "`ImageId` names the identifier being declared, which cannot wrap itself"),
        .capability "Default" .zeroValue] ∧
    (errors (validate { wrapsItself with rawType := (imageId []).rawType })).map (·.cause) =
      [.capability "Default" .zeroValue] := by
  obtain ⟨whole, -, -, -, -, -, -, repaired⟩ := reports_all_parts
  have put_right (d : Declaration) (resolved : Part.found { d with rawType := (imageId []).rawType }
      .selfReference = []) :
      errors (validate { d with rawType := (imageId []).rawType }) =
        Part.found d .name ++ Part.found d .capabilities := by
    refine (repaired d _ [.rawType, .selfReference] ?_ ?_).trans (by simp [Part.all])
    · intro q hq
      cases q with
      | name | capabilities => rfl
      | rawType | selfReference => simp at hq
    · exact List.forall_mem_cons.mpr ⟨rfl, List.forall_mem_singleton.mpr resolved⟩
  refine ⟨?_, ?_, ?_, ?_⟩
  · rw [whole]
    decide +kernel
  · rw [put_right nineLives (by decide)]
    decide +kernel
  · rw [whole]
    decide +kernel
  · rw [put_right wrapsItself (by decide)]
    decide +kernel

end TypedId.Validation
