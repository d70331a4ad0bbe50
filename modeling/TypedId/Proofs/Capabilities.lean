/-
What the capabilities of an accepted declaration are, and which traits are then
derived. A trait can be spelled in two ways, `Hash` and `r#Hash`, and the checks
compare what is written: `accepts_capabilities_iff` says what they let pass. In
the derived list no trait that is needed is missing, and its paths are all
different (`required_derived`).
-/
import Mathlib
import TypedId.Proofs.Acceptance

namespace TypedId

/-! ## Spellings -/

/-- The word that a text spells: what stands behind `r#` in a raw identifier. -/
def unraw (text : String) : String :=
  match text.toList with
  | 'r' :: '#' :: word => String.ofList word
  | _ => text

theorem unraw_raw (word : String) : unraw ("r#" ++ word) = word := by
  have chars : ("r#" ++ word).toList = 'r' :: '#' :: word.toList := by simp
  rw [unraw, chars]
  exact String.ofList_toList

/-- A word that is not raw itself is spelled in two ways. -/
theorem unraw_eq_iff {text word : String} (h : unraw word = word) :
    unraw text = word ↔ text = word ∨ text = "r#" ++ word := by
  constructor
  · intro ht
    rw [unraw] at ht
    split at ht
    · next cs hc =>
      refine .inr (String.toList_inj.mp ?_)
      rw [← ht, hc]
      simp
    · exact .inl ht
  · rintro (rfl | rfl)
    · exact h
    · exact unraw_raw word

theorem raw_ne {word : String} (h : unraw word = word) (text : String) : "r#" ++ text ≠ word := by
  rintro rfl
  rw [unraw_raw] at h
  have longer := congrArg String.length h
  simp at longer

namespace Path

/-- The trait that a path names: its last word, raw or not. -/
def traitName (p : Path) : String := unraw p.last.ident.text

@[simp] theorem qualifiedName_ofIdent (i : Ident) : (ofIdent i).qualifiedName = i.text := by
  simp [qualifiedName, ofIdent, segments]

theorem concat_eq_push (absolute : Option Span) (first : Segment) (before : List Segment)
    (s : Segment) : Path.mk absolute first (before.concat s) =
      (Path.mk absolute first before).push s := by
  simp [push]

theorem qualifiedName_push (p : Path) (s : Segment) :
    (p.push s).qualifiedName = p.qualifiedName ++ "::" ++ s.ident.text := by
  have some' : p.segments.map (·.ident.text) ≠ [] := by simp [segments]
  simp only [qualifiedName, segments_push, List.map_append, List.map_cons, List.map_nil]
  rw [String.intercalate_append_of_ne_nil some' (List.cons_ne_nil _ _), String.intercalate_singleton,
    String.append_assoc, String.append_assoc, String.append_assoc]
  rfl

/-- A double colon parts the last word from what is in front of it. -/
theorem qualifiedName_last (p : Path) : p.qualifiedName = p.last.ident.text ∨
    ∃ front, p.qualifiedName = front ++ "::" ++ p.last.ident.text := by
  obtain ⟨absolute, first, others⟩ := p
  rcases List.eq_nil_or_concat others with rfl | ⟨before, s, rfl⟩
  · cases absolute with
    | none => exact .inl (by simp [qualifiedName, segments, last])
    | some place => exact .inr ⟨"", by simp [qualifiedName, segments, last]⟩
  · rw [concat_eq_push, qualifiedName_push, last_push]
    exact .inr ⟨_, rfl⟩

/-- Whatever is in front of the last word ends in a colon. -/
theorem qualifiedName_eq (p : Path) : ∃ front : List Char,
    p.qualifiedName.toList = front ++ p.last.ident.text.toList ∧
      (front = [] ∨ ∃ more, front = more ++ [':']) := by
  rcases p.qualifiedName_last with written | ⟨front, written⟩
  · exact ⟨[], congrArg String.toList written, .inl rfl⟩
  · refine ⟨front.toList ++ [':', ':'], ?_, .inr ⟨front.toList ++ [':'], by simp⟩⟩
    rw [written, String.toList_append, String.toList_append]
    rfl

/-- A path that is written as one word is that word. -/
theorem last_of_qualifiedName {p : Path} (h : ':' ∉ p.qualifiedName.toList) :
    p.last.ident.text = p.qualifiedName := by
  obtain ⟨front, written, rfl | ⟨more, rfl⟩⟩ := p.qualifiedName_eq
  · exact String.toList_inj.mp written.symm
  · rw [written] at h
    simp at h

/-- The path with its last word written raw. -/
def rawLast (p : Path) : Path :=
  match p.others.reverse with
  | [] => { p with first := raw p.first }
  | s :: before => { p with others := before.reverse ++ [raw s] }
where
  raw (s : Segment) : Segment := { s with ident := ⟨"r#" ++ s.ident.text, s.ident.span⟩ }

theorem rawLast_push (p : Path) (s : Segment) : (p.push s).rawLast = p.push (rawLast.raw s) := by
  simp [push, rawLast]

theorem last_rawLast (p : Path) : p.rawLast.last.ident.text = "r#" ++ p.last.ident.text := by
  obtain ⟨absolute, first, others⟩ := p
  rcases List.eq_nil_or_concat others with rfl | ⟨before, s, rfl⟩
  · rfl
  · rw [concat_eq_push, rawLast_push, last_push, last_push]
    rfl

end Path

/-! ## What is accepted -/

namespace Validation

/-- The traits that no identifier may derive. -/
def forbiddenTraits : List String := ["Default", "Identifier"]

theorem conflict?_eq_none_iff {seen : List String} {c : Capability} :
    conflict? seen c = none ↔ c.name ∉ forbiddenTraits ∧ c.qualifiedName ∉ seen := by
  rw [conflict?]
  by_cases hd : c.name = "Default" <;> by_cases hi : c.name = "Identifier" <;>
    by_cases hs : c.qualifiedName ∈ seen <;> simp [hd, hi, hs, forbiddenTraits]

theorem checkCapabilitiesAfter_eq_nil_iff {seen : List String} {cs : List Capability} :
    checkCapabilitiesAfter seen cs = [] ↔
      (∀ c ∈ cs, c.name ∉ forbiddenTraits) ∧ (cs.map (·.qualifiedName)).Nodup ∧
        ∀ c ∈ cs, c.qualifiedName ∉ seen := by
  induction cs generalizing seen with
  | nil => simp [checkCapabilitiesAfter]
  | cons c cs ih =>
    have first : ((conflict? seen c).map fun r =>
        (⟨.capability (conflictName c r) r, c.span⟩ : Diagnostic)).toList = [] ↔
        conflict? seen c = none := by
      cases conflict? seen c <;> simp
    rw [checkCapabilitiesAfter, List.append_eq_nil_iff, first, conflict?_eq_none_iff, ih]
    simp only [List.forall_mem_cons, List.map_cons, List.nodup_cons, List.mem_append,
      List.mem_singleton, not_or, List.mem_map, not_exists, not_and]
    constructor
    · rintro ⟨⟨written, fresh⟩, others, apart, later⟩
      exact ⟨⟨written, others⟩, ⟨fun c' hc' => (later c' hc').2, apart⟩, fresh,
        fun c' hc' => (later c' hc').1⟩
    · rintro ⟨⟨written, others⟩, ⟨different, apart⟩, fresh, later⟩
      exact ⟨⟨written, fresh⟩, others, apart, fun c' hc' => ⟨later c' hc', different c' hc'⟩⟩

theorem checkCapabilities_eq_nil_iff {cs : List Capability} :
    checkCapabilities cs = [] ↔
      (∀ c ∈ cs, c.name ∉ forbiddenTraits) ∧ (cs.map (·.qualifiedName)).Nodup := by
  simp [checkCapabilities, checkCapabilitiesAfter_eq_nil_iff]

/-- Everything but the capabilities is in order. -/
def OthersInOrder (d : Declaration) : Prop :=
  checkName d.name = [] ∧ checkRawType d.rawType = [] ∧ checkSelfReference d.name d.rawType = []

theorem validate_eq_ok_iff {d : Declaration} :
    validate d = .ok () ↔ OthersInOrder d ∧ checkCapabilities d.capabilities = [] := by
  rw [validate_eq_ok_iff_findings, findings, List.append_eq_nil_iff,
    List.append_eq_nil_iff, List.append_eq_nil_iff, OthersInOrder]
  simp only [and_assoc]

/-- A conflict over the trait itself, not over its being asked for twice. -/
def Forbids (r : Option Conflict) : Prop := r = some .zeroValue ∨ r = some .generated

theorem forbids_conflict?_iff {seen : List String} {c : Capability} :
    Forbids (conflict? seen c) ↔ c.name ∈ forbiddenTraits := by
  rw [Forbids, conflict?]
  by_cases hd : c.name = "Default" <;> by_cases hi : c.name = "Identifier" <;>
    by_cases hs : c.qualifiedName ∈ seen <;> simp [hd, hi, hs, forbiddenTraits]

theorem unraw_forbidden : ∀ t ∈ forbiddenTraits, unraw t = t := by decide

/-- A forbidden trait passes only where it is spelled raw. -/
theorem name_notMem_iff {c : Capability} :
    c.name ∉ forbiddenTraits ↔
      (c.path.traitName ∈ forbiddenTraits → c.name = "r#" ++ c.path.traitName) := by
  constructor
  · intro written named
    rcases (unraw_eq_iff (unraw_forbidden _ named)).mp rfl with plain | raw
    · rw [← plain] at named
      exact absurd named written
    · exact raw
  · intro spelled written
    have plain : c.path.traitName = c.name := unraw_forbidden _ written
    rw [plain] at spelled
    exact raw_ne (unraw_forbidden _ written) _ (spelled written).symm

/-- **Which capabilities pass.** A trait that no identifier may derive is refused as long as it is
not spelled raw, and nothing else is refused on its account. -/
theorem accepts_capabilities_iff (d : Declaration) :
    (validate d = .ok () ↔
      OthersInOrder d ∧ (d.capabilities.map (·.qualifiedName)).Nodup ∧
      ∀ c ∈ d.capabilities, c.path.traitName ∈ forbiddenTraits →
        c.name = "r#" ++ c.path.traitName) ∧
    ∀ (c : Capability) (seen : List String),
      (Forbids (conflict? seen c) ↔ c.name ∈ forbiddenTraits) ∧
      ¬ Forbids (conflict? seen ⟨c.path.rawLast⟩) := by
  refine ⟨?_, fun c seen => ⟨forbids_conflict?_iff, ?_⟩⟩
  · rw [validate_eq_ok_iff, checkCapabilities_eq_nil_iff, and_comm (a := ∀ c ∈ d.capabilities, _)]
    simp only [name_notMem_iff]
  · rw [forbids_conflict?_iff]
    intro written
    refine raw_ne (unraw_forbidden _ written) c.name ?_
    exact (Path.last_rawLast c.path).symm

/-- A declaration of `ImageId` over `u64` with these capabilities. -/
def imageId (capabilities : List Capability) : Declaration where
  name := ⟨"ImageId", .callSite⟩
  rawType := .path [] (.ofIdent ⟨"u64", .callSite⟩)
  capabilities := capabilities
  visibility := .inherited
  attributes := []
  form := .freestanding
  cratePath := none

/-- `u64, "ImageId", derive(r#Default)` passes. -/
theorem accepts_raw_default :
    ∃ d, Freestanding.parse [
        .ident "u64" .callSite, .punct ',' false .callSite,
        .literal "\"ImageId\"" .callSite, .punct ',' false .callSite,
        .ident "derive" .callSite,
        .group .parenthesis [.ident "r#Default" .callSite] .callSite] = .ok d ∧
      validate d = .ok () ∧ ∃ c ∈ d.capabilities, c.path.traitName = "Default" := by
  refine ⟨imageId [⟨.ofIdent ⟨"r#Default", .callSite⟩⟩], by cbv, ?_, ?_⟩
  · exact validate_eq_ok_iff_findings.mpr (by decide +kernel)
  · exact ⟨_, List.mem_singleton_self _, by decide⟩

end Validation

/-! ## What is derived -/

namespace Emission

theorem unraw_required : ∀ t ∈ requiredDerives, unraw t = t := by decide

theorem required_oneWord : ∀ t ∈ requiredDerives, ':' ∉ t.toList := by decide

/-- The required traits that no capability is written as. -/
def lacking (cs : List Capability) : List String :=
  requiredDerives.filter fun r => !cs.any (·.name = r)

theorem deriveList_eq (cs : List Capability) :
    deriveList cs = cs.map (·.path) ++ (lacking cs).map fun r => .ofIdent ⟨r, .callSite⟩ := rfl

theorem mem_lacking_iff {cs : List Capability} {r : String} :
    r ∈ lacking cs ↔ r ∈ requiredDerives ∧ ∀ c ∈ cs, c.name ≠ r := by
  simp [lacking]

theorem lacking_nodup (cs : List Capability) : (lacking cs).Nodup := by
  have all : requiredDerives.Nodup := by decide
  exact all.sublist List.filter_sublist

theorem qualifiedName_deriveList (cs : List Capability) :
    (deriveList cs).map Path.qualifiedName = cs.map (·.qualifiedName) ++ lacking cs := by
  simp [deriveList_eq, Function.comp_def, Capability.qualifiedName]

/-- A trait that is added is not among those asked for, by whatever path. -/
theorem deriveList_nodup {cs : List Capability} (h : (cs.map (·.qualifiedName)).Nodup) :
    ((deriveList cs).map Path.qualifiedName).Nodup := by
  rw [qualifiedName_deriveList]
  refine List.nodup_append.mpr ⟨h, lacking_nodup cs, ?_⟩
  rintro r asked _ added rfl
  obtain ⟨c, hc, hq⟩ := List.mem_map.mp asked
  obtain ⟨required, unnamed⟩ := mem_lacking_iff.mp added
  have same : c.path.qualifiedName = r := hq
  have word : ':' ∉ c.path.qualifiedName.toList := by
    rw [same]
    exact required_oneWord r required
  exact unnamed c hc ((Path.last_of_qualifiedName word).trans same)

theorem traitName_ofIdent {r : String} (hr : r ∈ requiredDerives) (place : Span) :
    (Path.ofIdent ⟨r, place⟩).traitName = r :=
  unraw_required r hr

/-- What is required is written as the last word of some path of the list. -/
theorem exists_written (cs : List Capability) {r : String} (hr : r ∈ requiredDerives) :
    ∃ p ∈ deriveList cs, p.last.ident.text = r := by
  by_cases asked : ∃ c ∈ cs, c.name = r
  · obtain ⟨c, hc, named⟩ := asked
    exact ⟨c.path, List.mem_append_left _ (List.mem_map_of_mem hc), named⟩
  · have lacks : r ∈ lacking cs :=
      mem_lacking_iff.mpr ⟨hr, fun c hc written => asked ⟨c, hc, written⟩⟩
    refine ⟨.ofIdent ⟨r, .callSite⟩, List.mem_append_right _ ?_, rfl⟩
    exact List.mem_map_of_mem lacks

theorem exists_derived (cs : List Capability) {r : String} (hr : r ∈ requiredDerives) :
    ∃ p ∈ deriveList cs, p.traitName = r := by
  obtain ⟨p, hp, rfl⟩ := exists_written cs hr
  exact ⟨p, hp, unraw_required _ hr⟩

theorem count_added (cs : List Capability) (r : String) :
    ((lacking cs).map fun t => Path.ofIdent ⟨t, .callSite⟩).countP (·.traitName = r) =
      if r ∈ lacking cs then 1 else 0 := by
  have word : ∀ t ∈ lacking cs, (Path.ofIdent ⟨t, .callSite⟩).traitName = t := fun t ht =>
    traitName_ofIdent (mem_lacking_iff.mp ht).1 _
  calc ((lacking cs).map fun t => Path.ofIdent ⟨t, .callSite⟩).countP (·.traitName = r)
      = (lacking cs).count r := by
        rw [List.countP_map]
        refine List.countP_congr fun t ht => ?_
        simp [word t ht]
    _ = if r ∈ lacking cs then 1 else 0 := (lacking_nodup cs).count

/-- A trait is derived as often as it was asked for, and once if it was not written at all. -/
theorem count_derived (cs : List Capability) (r : String) :
    (deriveList cs).countP (·.traitName = r) =
      cs.countP (·.path.traitName = r) + if r ∈ lacking cs then 1 else 0 := by
  rw [deriveList_eq, List.countP_append, count_added, List.countP_map]
  rfl

theorem mem_lacking_iff_count {cs : List Capability} {r : String} (hr : r ∈ requiredDerives)
    (plain : ∀ c ∈ cs, c.name ≠ "r#" ++ r) :
    r ∈ lacking cs ↔ cs.countP (·.path.traitName = r) = 0 := by
  rw [mem_lacking_iff, List.countP_eq_zero]
  have spelled : ∀ c ∈ cs, c.path.traitName = r ↔ c.name = r := fun c hc =>
    (unraw_eq_iff (unraw_required r hr)).trans (or_iff_left (plain c hc))
  simp only [hr, true_and, decide_eq_true_eq]
  exact forall₂_congr fun c hc => (not_congr (spelled c hc)).symm

/-- **What is derived.** In the derived list of an accepted declaration no required trait is
missing, and no path stands twice. Unless a required trait was spelled raw, it is derived once, or
by each of the paths that it was asked for by. -/
theorem required_derived {d : Declaration} (h : Validation.validate d = .ok ()) {r : String}
    (hr : r ∈ requiredDerives) :
    (∃ p ∈ deriveList d.capabilities, p.traitName = r) ∧
    ((deriveList d.capabilities).map Path.qualifiedName).Nodup ∧
    ((∀ c ∈ d.capabilities, c.name ≠ "r#" ++ r) →
      (deriveList d.capabilities).countP (·.traitName = r) =
        max 1 (d.capabilities.countP (·.path.traitName = r))) := by
  obtain ⟨-, capabilities⟩ := Validation.validate_eq_ok_iff.mp h
  obtain ⟨-, different⟩ := Validation.checkCapabilities_eq_nil_iff.mp capabilities
  refine ⟨exists_derived _ hr, deriveList_nodup different, fun plain => ?_⟩
  rw [count_derived, if_congr (mem_lacking_iff_count hr plain) rfl rfl]
  split <;> omega

/-- `u64, "ImageId", derive(Hash, std::hash::Hash)`. -/
def twoHashes : Declaration :=
  Validation.imageId [⟨.ofIdent ⟨"Hash", .callSite⟩⟩,
    ⟨none, ⟨⟨"std", .callSite⟩, .none⟩,
      [⟨⟨"hash", .callSite⟩, .none⟩, ⟨⟨"Hash", .callSite⟩, .none⟩]⟩]

theorem validate_twoHashes : Validation.validate twoHashes = .ok () :=
  Validation.validate_eq_ok_iff_findings.mpr (by decide +kernel)

theorem required_derived_twoHashes :
    Validation.validate twoHashes = .ok () ∧ "Hash" ∈ requiredDerives ∧
    (∃ p ∈ deriveList twoHashes.capabilities, p.traitName = "Hash") ∧
    ((deriveList twoHashes.capabilities).map Path.qualifiedName).Nodup ∧
    ((∀ c ∈ twoHashes.capabilities, c.name ≠ "r#" ++ "Hash") →
      (deriveList twoHashes.capabilities).countP (·.traitName = "Hash") =
        max 1 (twoHashes.capabilities.countP (·.path.traitName = "Hash"))) := by
  have required : "Hash" ∈ requiredDerives := by decide
  exact ⟨validate_twoHashes, required, required_derived validate_twoHashes required⟩

/-- Both paths to the trait pass, and both are derived. -/
theorem derives_hash_twice :
    Freestanding.parse [
        .ident "u64" .callSite, .punct ',' false .callSite,
        .literal "\"ImageId\"" .callSite, .punct ',' false .callSite,
        .ident "derive" .callSite,
        .group .parenthesis [
          .ident "Hash" .callSite, .punct ',' false .callSite,
          .ident "std" .callSite, .punct ':' true .callSite, .punct ':' false .callSite,
          .ident "hash" .callSite, .punct ':' true .callSite, .punct ':' false .callSite,
          .ident "Hash" .callSite] .callSite] = .ok twoHashes ∧
      Validation.validate twoHashes = .ok () ∧
      (deriveList twoHashes.capabilities).countP (·.traitName = "Hash") = 2 := by
  refine ⟨by cbv, validate_twoHashes, by decide⟩

end Emission

end TypedId
