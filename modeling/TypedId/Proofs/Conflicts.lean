/-
Which capabilities are refused, and for what. The check goes through the list
with the names it has met; `checkCapabilities_eq` says what comes of it at each
place of the list. `conflicts_listed` draws the consequences: order matters
for which capabilities are refused, but neither for whether any is nor for how
many are. The count needs that a path written in full tells its last word,
which is what is behind the last colon (`behindColon_qualifiedName`).
-/
import Mathlib
import TypedId.Proofs.Capabilities

namespace TypedId

/-! ## The last word of a path -/

/-- What is behind the last colon of a text. -/
def behindColon (text : String) : List Char := (text.toList.reverse.takeWhile (· ≠ ':')).reverse

namespace Path

/-- A word is found again in the path written in full. -/
theorem behindColon_qualifiedName {p : Path} (h : ':' ∉ p.last.ident.text.toList) :
    behindColon p.qualifiedName = p.last.ident.text.toList := by
  obtain ⟨front, written, ends⟩ := p.qualifiedName_eq
  have word : ∀ c ∈ p.last.ident.text.toList.reverse, decide (c ≠ ':') = true := by
    intro c hc
    refine decide_eq_true ?_
    rintro rfl
    exact h (List.mem_reverse.mp hc)
  have stop : front.reverse.takeWhile (· ≠ ':') = [] := by
    rcases ends with rfl | ⟨more, rfl⟩
    · rfl
    · simp
  rw [behindColon, written, List.reverse_append, List.takeWhile_append_of_pos word, stop,
    List.append_nil, List.reverse_reverse]

end Path

theorem Capability.name_eq_of_qualifiedName {c c' : Capability} (h : ':' ∉ c.name.toList)
    (h' : ':' ∉ c'.name.toList) (same : c.qualifiedName = c'.qualifiedName) : c.name = c'.name := by
  refine String.toList_inj.mp ?_
  calc c.name.toList
      = behindColon c.qualifiedName := (Path.behindColon_qualifiedName h).symm
    _ = behindColon c'.qualifiedName := by rw [same]
    _ = c'.name.toList := Path.behindColon_qualifiedName h'

/-! ## What speaks against each capability -/

namespace Validation

/-- What speaks against the capability at this place of a list. Whether an earlier one was refused
itself makes no difference. -/
def conflictAt (cs : List Capability) (i : Fin cs.length) : Option Conflict :=
  if cs[i].name = "Default" then some .zeroValue
  else if cs[i].name = "Identifier" then some .generated
  else if ∃ j < i, cs[j].qualifiedName = cs[i].qualifiedName then some .duplicate
  else none

/-- The finding at a place of a list. -/
def conflictFinding? (cs : List Capability) (i : Fin cs.length) : Option Diagnostic :=
  (conflictAt cs i).map fun r => ⟨.capability (conflictName cs[i] r) r, cs[i].path.last.ident.span⟩

theorem conflict?_before (cs : List Capability) (i : Fin cs.length) :
    conflict? ((cs.take i).map (·.qualifiedName)) cs[i] = conflictAt cs i := by
  have met : ((cs.take i).map (·.qualifiedName)).contains cs[i].qualifiedName = true ↔
      ∃ j < i, cs[j].qualifiedName = cs[i].qualifiedName := by
    rw [List.contains_iff_mem, List.mem_map]
    constructor
    · rintro ⟨c, hc, same⟩
      obtain ⟨j, hj, rfl⟩ := List.mem_take_iff_getElem.mp hc
      exact ⟨⟨j, by omega⟩, by simp only [Fin.lt_def]; omega, same⟩
    · rintro ⟨j, hj, same⟩
      exact ⟨cs[j], List.mem_take_iff_getElem.mpr ⟨j, by simp only [Fin.lt_def] at hj; omega, rfl⟩,
        same⟩
  rw [conflict?, conflictAt]
  simp only [met]

/-- One step of the check for each place, with the names of all that is before it. -/
theorem checkCapabilitiesAfter_eq (seen : List String) (cs : List Capability) :
    checkCapabilitiesAfter seen cs = (List.finRange cs.length).filterMap fun i : Fin cs.length =>
      (conflict? (seen ++ (cs.take i).map (·.qualifiedName)) cs[i]).map fun r =>
        ⟨.capability (conflictName cs[i] r) r, cs[i].span⟩ := by
  induction cs generalizing seen with
  | nil => rfl
  | cons c cs ih =>
    have later (i : Fin cs.length) :
        seen ++ ((c :: cs).take (i + 1)).map (·.qualifiedName) =
          seen ++ [c.qualifiedName] ++ (cs.take i).map (·.qualifiedName) := by simp
    rw [checkCapabilitiesAfter, ih]
    simp only [List.length_cons, List.finRange_succ, List.filterMap_cons, List.filterMap_map,
      Function.comp_def, Fin.getElem_fin, Fin.val_zero, Fin.val_succ, List.take_zero, List.map_nil,
      List.append_nil, List.getElem_cons_zero, List.getElem_cons_succ, later]
    cases conflict? seen c <;> rfl

/-- **What is found in a list**, place by place. -/
theorem checkCapabilities_eq (cs : List Capability) :
    checkCapabilities cs = (List.finRange cs.length).filterMap (conflictFinding? cs) := by
  rw [checkCapabilities, checkCapabilitiesAfter_eq]
  refine List.filterMap_congr fun i _ => ?_
  rw [List.nil_append, conflict?_before]
  rfl

/-! ## How many are refused -/

/-- The names that are met for the first time and may be had. -/
def fresh (seen : List String) (cs : List Capability) : Finset String :=
  ((cs.filter (·.name ∉ forbiddenTraits)).map (·.qualifiedName)).toFinset \ seen.toFinset

/-- Capabilities of one full name have one name. -/
def NamesAgree (cs : List Capability) : Prop :=
  ∀ c ∈ cs, ∀ c' ∈ cs, c.qualifiedName = c'.qualifiedName → c.name = c'.name

theorem mem_fresh_iff {seen : List String} {cs : List Capability} {n : String} :
    n ∈ fresh seen cs ↔
      (∃ c ∈ cs, c.name ∉ forbiddenTraits ∧ c.qualifiedName = n) ∧ n ∉ seen := by
  simp [fresh, and_assoc]

theorem fresh_of_passes {seen : List String} {c : Capability} {cs : List Capability}
    (h : conflict? seen c = none) :
    fresh seen (c :: cs) = insert c.qualifiedName (fresh (seen ++ [c.qualifiedName]) cs) := by
  obtain ⟨allowed, new⟩ := conflict?_eq_none_iff.mp h
  ext n
  simp only [mem_fresh_iff, Finset.mem_insert, List.exists_mem_cons_iff, List.mem_append,
    List.mem_singleton, not_or]
  by_cases hn : n = c.qualifiedName
  · subst hn
    simp [allowed, new]
  · simp [hn, Ne.symm hn]

theorem fresh_of_refused {seen : List String} {c : Capability} {cs : List Capability}
    (agree : NamesAgree (c :: cs)) (h : conflict? seen c ≠ none) :
    fresh seen (c :: cs) = fresh (seen ++ [c.qualifiedName]) cs := by
  rw [ne_eq, conflict?_eq_none_iff, not_and_or, not_not, not_not] at h
  ext n
  simp only [mem_fresh_iff, List.exists_mem_cons_iff, List.mem_append, List.mem_singleton, not_or]
  constructor
  · rintro ⟨⟨allowed, rfl⟩ | ⟨c', hc', allowed, rfl⟩, new⟩
    · exact absurd h (not_or.mpr ⟨allowed, new⟩)
    · refine ⟨⟨c', hc', allowed, rfl⟩, new, fun same => ?_⟩
      rcases h with forbidden | met
      · rw [agree c (List.mem_cons_self ..) c' (List.mem_cons_of_mem _ hc') same.symm] at forbidden
        exact allowed forbidden
      · exact new (same ▸ met)
  · rintro ⟨others, new, -⟩
    exact ⟨.inr others, new⟩

/-- Each capability is either refused or the first of its name that may be had. -/
theorem length_checkCapabilitiesAfter {seen : List String} {cs : List Capability}
    (agree : NamesAgree cs) :
    (checkCapabilitiesAfter seen cs).length + (fresh seen cs).card = cs.length := by
  induction cs generalizing seen with
  | nil => simp [checkCapabilitiesAfter, fresh]
  | cons c cs ih =>
    have others : NamesAgree cs := fun a ha b hb =>
      agree a (List.mem_cons_of_mem _ ha) b (List.mem_cons_of_mem _ hb)
    have rest := @ih (seen ++ [c.qualifiedName]) others
    rw [checkCapabilitiesAfter, List.length_append, List.length_cons]
    cases h : conflict? seen c with
    | none =>
      have known : c.qualifiedName ∉ fresh (seen ++ [c.qualifiedName]) cs := by
        simp [mem_fresh_iff]
      rw [fresh_of_passes h, Finset.card_insert_of_notMem known]
      simp only [Option.map_none, Option.toList_none, List.length_nil]
      omega
    | some r =>
      rw [fresh_of_refused agree (by simp [h])]
      simp only [Option.map_some, Option.toList_some, List.length_singleton]
      omega

theorem length_checkCapabilities_perm {cs cs' : List Capability} (agree : NamesAgree cs)
    (h : cs.Perm cs') : (checkCapabilities cs).length = (checkCapabilities cs').length := by
  have agree' : NamesAgree cs' := fun a ha b hb => agree a (h.mem_iff.mpr ha) b (h.mem_iff.mpr hb)
  have same : fresh [] cs = fresh [] cs' := by
    ext n
    simp only [mem_fresh_iff, h.mem_iff]
  have first := @length_checkCapabilitiesAfter [] cs agree
  have second := @length_checkCapabilitiesAfter [] cs' agree'
  rw [checkCapabilities, checkCapabilities]
  rw [same, h.length_eq] at first
  omega

/-- A name that is an identifier has no colon in it. -/
theorem namesAgree_of_words {cs : List Capability} (h : ∀ c ∈ cs, ':' ∉ c.name.toList) :
    NamesAgree cs := fun c hc c' hc' same =>
  Capability.name_eq_of_qualifiedName (h c hc) (h c' hc') same

/-! ## Conflicts -/

theorem checkCapabilities_perm {cs cs' : List Capability} (h : cs.Perm cs') :
    checkCapabilities cs = [] ↔ checkCapabilities cs' = [] := by
  rw [checkCapabilities_eq_nil_iff, checkCapabilities_eq_nil_iff, (h.map _).nodup_iff]
  simp only [h.mem_iff]

/-- What is wrong with a list stays wrong with every list that it is part of. -/
theorem checkCapabilities_sublist {cs cs' : List Capability} (h : cs.Sublist cs')
    (accepted : checkCapabilities cs' = []) : checkCapabilities cs = [] := by
  obtain ⟨allowed, apart⟩ := checkCapabilities_eq_nil_iff.mp accepted
  refine checkCapabilities_eq_nil_iff.mpr ⟨fun c hc => allowed c (h.subset hc), ?_⟩
  exact apart.sublist (h.map _)

/-- **Conflicts.** There is at most one finding for each capability, in the order of the list: a
forbidden trait, or else a full name met before. So a list is accepted if no trait in it is
forbidden and all full names differ. The order counts neither for that nor for the number of
findings, since no name has a colon in it; and no capability that is put in makes a refused list
acceptable. -/
theorem conflicts_listed :
    (∀ cs, checkCapabilities cs = (List.finRange cs.length).filterMap fun i =>
      (conflictAt cs i).map fun r =>
        ⟨.capability (conflictName cs[i] r) r, cs[i].path.last.ident.span⟩) ∧
    (∀ cs, checkCapabilities cs = [] ↔
      (∀ c ∈ cs, c.name ≠ "Default" ∧ c.name ≠ "Identifier") ∧
        (cs.map (·.qualifiedName)).Nodup) ∧
    (∀ cs cs', cs.Perm cs' → (checkCapabilities cs = [] ↔ checkCapabilities cs' = [])) ∧
    (∀ cs cs', (∀ c ∈ cs, ':' ∉ c.name.toList) → cs.Perm cs' →
      (checkCapabilities cs).length = (checkCapabilities cs').length) ∧
    ∀ cs cs', cs.Sublist cs' → checkCapabilities cs ≠ [] → checkCapabilities cs' ≠ [] := by
  refine ⟨checkCapabilities_eq, fun cs => ?_, fun _ _ => checkCapabilities_perm, ?_, ?_⟩
  · rw [checkCapabilities_eq_nil_iff]
    simp [forbiddenTraits]
  · exact fun cs cs' words perm => length_checkCapabilities_perm (namesAgree_of_words words) perm
  · exact fun cs cs' part refused accepted => refused (checkCapabilities_sublist part accepted)

/-- `derive(Default, Hash, Hash)`. -/
def defaultHashHash : List Capability :=
  [⟨.ofIdent ⟨"Default", .callSite⟩⟩, ⟨.ofIdent ⟨"Hash", .callSite⟩⟩,
    ⟨.ofIdent ⟨"Hash", .callSite⟩⟩]

theorem conflicts_listed_hashes :
    (checkCapabilities defaultHashHash).length =
        (checkCapabilities defaultHashHash.reverse).length ∧
      checkCapabilities defaultHashHash ≠ [] := by
  have words : ∀ c ∈ defaultHashHash, ':' ∉ c.name.toList := by decide
  have perm : defaultHashHash.Perm defaultHashHash.reverse :=
    (List.reverse_perm defaultHashHash).symm
  have twice : checkCapabilities defaultHashHash.tail ≠ [] := by decide
  exact ⟨conflicts_listed.2.2.2.1 _ _ words perm,
    conflicts_listed.2.2.2.2 _ _ (List.tail_sublist _) twice⟩

end Validation

end TypedId
