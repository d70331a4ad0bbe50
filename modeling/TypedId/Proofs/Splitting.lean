/-
Splitting attributes. What comes of a list of attributes is what its derive
attributes list, one after another, and the other attributes as they stand
(`splitDerives_eq`); a derive attribute that cannot be read ends it, and the
first such counts. So lists of attributes can be split apart and put together
again (`splitDerives_append`), and neither the places of the derive attributes
among the others nor the number of them matters.
-/
import TypedId.Proofs.Inputs
import TypedId.Proofs.MissingPieces

namespace TypedId

/-- The two kinds of attributes do not get in the way of each other. -/
theorem splitDerives_eq (as : List Attribute) :
    splitDerives as = (as.filter (·.isDerive)).mapM Attribute.derived >>= fun lists =>
      .ok (lists.flatten, as.filter (!·.isDerive)) := by
  induction as with
  | nil => rfl
  | cons a as ih =>
    rw [splitDerives, ih, List.filter_cons, List.filter_cons]
    cases a.isDerive with
    | true =>
      simp only [if_true, Bool.not_true, Bool.false_eq_true, if_false, List.mapM_cons]
      cases a.derived with
      | error f => rfl
      | ok cs => cases (as.filter (·.isDerive)).mapM Attribute.derived <;> rfl
    | false =>
      simp only [Bool.false_eq_true, if_false, Bool.not_false, if_true]
      cases (as.filter (·.isDerive)).mapM Attribute.derived <;> rfl

theorem splitDerives_append (as bs : List Attribute) :
    splitDerives (as ++ bs) =
      match splitDerives as, splitDerives bs with
      | .ok (cs, left), .ok (ds, right) => .ok (cs ++ ds, left ++ right)
      | .ok _, .error f => .error f
      | .error f, _ => .error f := by
  simp only [splitDerives_eq, List.filter_append, List.mapM_append]
  cases (as.filter (·.isDerive)).mapM Attribute.derived with
  | error f => rfl
  | ok lists =>
    cases (bs.filter (·.isDerive)).mapM Attribute.derived with
    | error f => rfl
    | ok more => simp [bind, Except.bind, pure, Except.pure]

/-- Attributes with the same derive attributes in one order, and the same others in one order, come
to the same. -/
theorem splitDerives_congr {as bs : List Attribute}
    (derives : as.filter (·.isDerive) = bs.filter (·.isDerive))
    (others : as.filter (!·.isDerive) = bs.filter (!·.isDerive)) :
    splitDerives as = splitDerives bs := by
  rw [splitDerives_eq, splitDerives_eq, derives, others]

/-- What comes to the same by itself does so among other attributes. -/
theorem splitDerives_replace {mid mid' : List Attribute} (h : splitDerives mid = splitDerives mid')
    (as bs : List Attribute) :
    splitDerives (as ++ mid ++ bs) = splitDerives (as ++ mid' ++ bs) := by
  rw [splitDerives_append, splitDerives_append as mid, h, ← splitDerives_append as mid',
    ← splitDerives_append]

/-- Derive attributes give all that they list, and leave nothing. -/
theorem splitDerives_derives {as : List Attribute} {lists : List (List Path)}
    (derives : ∀ a ∈ as, a.isDerive = true) (each : List.Forall₂ Attribute.Lists as lists) :
    splitDerives as = .ok (lists.flatten.map Capability.mk, []) := by
  have none_left : as.filter (!·.isDerive) = [] :=
    List.filter_eq_nil_iff.mpr fun a ha => by simp [derives a ha]
  refine splitDerives_eq_ok_iff.mpr ⟨⟨lists, ?_, rfl⟩, none_left.symm⟩
  rwa [List.filter_eq_self.mpr derives]

theorem Attribute.malformed?_eq_none_iff {a : Attribute} :
    a.malformed? = none ↔ ∃ ps, a.Lists ps := by
  rw [Attribute.malformed?]
  cases h : a.derived with
  | ok cs =>
    obtain ⟨d, content, place, ps, body, paths, -⟩ := Attribute.derived_eq_ok_iff.mp h
    exact ⟨fun _ => ⟨ps, d, content, place, body, paths⟩, fun _ => rfl⟩
  | error f =>
    constructor
    · intro none
      cases none
    · rintro ⟨ps, d, content, place, body, paths⟩
      have read := Attribute.derived_eq_ok_iff.mpr ⟨d, content, place, ps, body, paths, rfl⟩
      rw [h] at read
      cases read

theorem exists_splitDerives_iff {as : List Attribute} :
    (∃ split, splitDerives as = .ok split) ↔
      ∀ a ∈ as, a.isDerive = true → ∃ ps, a.Lists ps := by
  have found := faults_splitDerives as
  have none_found : faults (splitDerives as) = [] ↔ ∃ split, splitDerives as = .ok split := by
    cases splitDerives as <;> simp [faults]
  rw [← none_found, found, Option.toList_eq_nil_iff, Option.map_eq_none_iff,
    List.findSome?_eq_none_iff]
  simp only [Attribute.malformed?_eq_none_iff, List.mem_filter, and_imp]

/-- **Splitting attributes.** Attributes are split if every derive attribute among them has a list
of paths. The paths of all lists come out in their order, and the other attributes in theirs. The
attributes of two lists come to what each list comes to, the first fault counting. So the list of a
derive attribute can be spread over several of them, and an attribute of another kind can be moved
past a derive attribute. -/
theorem splits_attributes :
    (∀ as, (∃ split, splitDerives as = .ok split) ↔
      ∀ a ∈ as, a.isDerive = true → ∃ ps, a.Lists ps) ∧
    (∀ as cs left, splitDerives as = .ok (cs, left) ↔
      (∃ lists, List.Forall₂ Attribute.Lists (as.filter (·.isDerive)) lists ∧
        cs = lists.flatten.map Capability.mk) ∧
      left = as.filter (!·.isDerive)) ∧
    (∀ as bs, splitDerives (as ++ bs) =
      match splitDerives as, splitDerives bs with
      | .ok (cs, left), .ok (ds, right) => .ok (cs ++ ds, left ++ right)
      | .ok _, .error f => .error f
      | .error f, _ => .error f) ∧
    (∀ as a mid bs ps lists, a.isDerive = true → a.Lists ps → (∀ b ∈ mid, b.isDerive = true) →
      List.Forall₂ Attribute.Lists mid lists → lists.flatten = ps →
      splitDerives (as ++ a :: bs) = splitDerives (as ++ mid ++ bs)) ∧
    ∀ as a b bs, a.isDerive = true → b.isDerive = false →
      splitDerives (as ++ a :: b :: bs) = splitDerives (as ++ b :: a :: bs) := by
  refine ⟨fun _ => exists_splitDerives_iff, fun _ _ _ => splitDerives_eq_ok_iff,
    splitDerives_append, ?_, ?_⟩
  · rintro as a mid bs _ lists derive whole derives each rfl
    have single : splitDerives [a] = .ok ([lists.flatten].flatten.map Capability.mk, []) :=
      splitDerives_derives (by simpa using derive) (.cons whole .nil)
    have alone : splitDerives [a] = splitDerives mid := by
      rw [single, splitDerives_derives derives each, List.flatten_singleton]
    rw [← splitDerives_replace alone as bs, List.append_assoc, List.singleton_append]
  · intro as a b bs derive other
    refine splitDerives_congr ?_ ?_ <;> simp [List.filter_append, derive, other]

/-- `#[derive(...)]` of these words. -/
def Attribute.derive (words : List String) : Attribute :=
  ⟨.callSite, none, .callSite, .ofIdent ⟨"derive", .callSite⟩,
    .list .parenthesis ((words.map fun w => Token.ident w .callSite).intersperse
      (.punct ',' false .callSite)) .callSite⟩

/-- `#[must_use]`. -/
def Attribute.mustUse : Attribute :=
  ⟨.callSite, none, .callSite, .ofIdent ⟨"must_use", .callSite⟩, .bare⟩

/-- `#[derive(Ord, Copy)]` is as good as `#[derive(Ord)] #[derive(Copy)]`, and as good before
`#[must_use]` as behind it. -/
theorem splits_attributes_ordCopy :
    splitDerives [.mustUse, .derive ["Ord", "Copy"]] =
        splitDerives [.mustUse, .derive ["Ord"], .derive ["Copy"]] ∧
      splitDerives [.derive ["Ord", "Copy"], .mustUse] =
        splitDerives [.mustUse, .derive ["Ord", "Copy"]] := by
  have lists {words : List String} {ps : List Path}
      (h : (Attribute.derive words).derived = .ok (ps.map Capability.mk)) :
      (Attribute.derive words).Lists ps := by
    obtain ⟨d, content, place, ps', body, paths, same⟩ := Attribute.derived_eq_ok_iff.mp h
    rw [List.map_inj_right (fun _ _ => Capability.mk.inj)] at same
    exact ⟨d, content, place, body, same ▸ paths⟩
  have both : (Attribute.derive ["Ord", "Copy"]).Lists
      [.ofIdent ⟨"Ord", .callSite⟩, .ofIdent ⟨"Copy", .callSite⟩] := lists rfl
  have first : (Attribute.derive ["Ord"]).Lists [.ofIdent ⟨"Ord", .callSite⟩] := lists rfl
  have second : (Attribute.derive ["Copy"]).Lists [.ofIdent ⟨"Copy", .callSite⟩] := lists rfl
  obtain ⟨-, -, -, spread, moved⟩ := splits_attributes
  exact ⟨spread [.mustUse] _ [.derive ["Ord"], .derive ["Copy"]] [] _ _ rfl both (by decide)
    (.cons first (.cons second .nil)) rfl, moved [] _ _ [] rfl rfl⟩

end TypedId
