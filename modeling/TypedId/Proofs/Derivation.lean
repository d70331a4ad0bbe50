/-
The derived list as a union. `deriveList_union`: it begins with all that was
asked for and goes on with the required traits that no path of it ends in. What
goes on there is settled by the set of last words alone (`lacking_congr`), and
only gets less where more is asked for (`lacking_sublist`); asked for what it
gives, the list gains nothing (`deriveList_derived`).
-/
import TypedId.Proofs.Capabilities

namespace TypedId

/-! ## Paths as they are written -/

/-- The word that tokens end in. -/
def Tokens.endWord? (ts : Tokens) : Option String :=
  match ts.getLast? with
  | some (.ident text _) => some text
  | _ => none

namespace Path

theorem exists_tokens_eq (p : Path) : ∃ front, p.tokens = front ++ p.last.tokens := by
  obtain ⟨absolute, first, others⟩ := p
  rcases List.eq_nil_or_concat others with rfl | ⟨before, s, rfl⟩
  · exact ⟨_, List.append_nil _⟩
  · refine ⟨(Path.mk absolute first before).tokens ++ separator s.ident.span, ?_⟩
    rw [concat_eq_push, last_push]
    simp [tokens, push]

/-- A plain path ends in its last word. -/
theorem endWord?_tokens {p : Path} (h : p.isPlain = true) :
    p.tokens.endWord? = some p.last.ident.text := by
  have bare : p.last.arguments.isNone = true := List.all_eq_true.mp h _ (List.getLast_mem _)
  obtain ⟨front, written⟩ := p.exists_tokens_eq
  have ends : p.tokens.getLast? = some p.last.ident.token := by
    rw [written, Segment.tokens]
    cases arguments : p.last.arguments with
    | none => exact List.getLast?_concat
    | angle | parenthesised =>
      rw [arguments] at bare
      cases bare
  rw [Tokens.endWord?, ends]
  rfl

end Path

namespace Emission

/-! ## What is added -/

/-- What the derived list has behind all that was asked for. -/
def appended (cs : List Capability) : List Path := (deriveList cs).drop cs.length

theorem appended_eq (cs : List Capability) :
    appended cs = (lacking cs).map fun r => .ofIdent ⟨r, .callSite⟩ := by
  rw [appended, deriveList_eq]
  exact List.drop_left' (List.length_map _)

/-- Where more names are asked for, less is lacking. -/
theorem lacking_sublist {cs cs' : List Capability}
    (h : cs.map (·.name) ⊆ cs'.map (·.name)) : (lacking cs').Sublist (lacking cs) := by
  refine List.monotone_filter_right _ fun r => ?_
  simp only [Bool.not_eq_true', List.any_eq_false, decide_eq_true_eq]
  intro unnamed c hc named
  obtain ⟨c', hc', same⟩ := List.mem_map.mp (h (List.mem_map_of_mem hc))
  exact unnamed c' hc' (same.trans named)

/-- Nothing about the names counts but which they are. -/
theorem lacking_congr {cs cs' : List Capability}
    (h : ∀ n, n ∈ cs.map (·.name) ↔ n ∈ cs'.map (·.name)) : lacking cs = lacking cs' :=
  (lacking_sublist fun n => (h n).mpr).antisymm (lacking_sublist fun n => (h n).mp)

/-! ## Asked for again -/

/-- Nothing is lacking where everything was derived. -/
theorem lacking_derived (cs : List Capability) :
    lacking ((deriveList cs).map Capability.mk) = [] := by
  refine List.eq_nil_iff_forall_not_mem.mpr fun r lacks => ?_
  obtain ⟨required, unnamed⟩ := mem_lacking_iff.mp lacks
  obtain ⟨p, hp, written⟩ := exists_written cs required
  exact unnamed ⟨p⟩ (List.mem_map_of_mem hp) written

/-- The derived list gains nothing from being asked for. -/
theorem deriveList_derived (cs : List Capability) :
    deriveList ((deriveList cs).map Capability.mk) = deriveList cs := by
  rw [deriveList_eq, lacking_derived, List.map_nil, List.append_nil, List.map_map]
  exact List.map_id _

theorem isPlain_deriveList {cs : List Capability} (h : ∀ c ∈ cs, c.path.isPlain = true) :
    ∀ p ∈ deriveList cs, p.isPlain = true := by
  intro p hp
  rcases List.mem_append.mp hp with asked | added
  · obtain ⟨c, hc, rfl⟩ := List.mem_map.mp asked
    exact h c hc
  · obtain ⟨r, -, rfl⟩ := List.mem_map.mp added
    rfl

/-- Plain paths that are written alike have the same names. -/
theorem names_of_written {cs cs' : List Capability} (plain : ∀ c ∈ cs, c.path.isPlain = true)
    (plain' : ∀ c ∈ cs', c.path.isPlain = true)
    (same : cs'.map (·.path.tokens) = cs.map (·.path.tokens)) :
    cs'.map (·.name) = cs.map (·.name) := by
  have word {cs : List Capability} (plain : ∀ c ∈ cs, c.path.isPlain = true) :
      (cs.map (·.path.tokens)).map Tokens.endWord? = (cs.map (·.name)).map some := by
    rw [List.map_map, List.map_map]
    exact List.map_congr_left fun c hc => Path.endWord?_tokens (plain c hc)
  refine List.map_injective_iff.mpr (Option.some_injective _) ?_
  rw [← word plain', same, word plain]

/-- The same of what is written: no list of plain paths that is written as the derived list gains
anything. -/
theorem deriveList_written {cs cs' : List Capability} (plain : ∀ c ∈ cs, c.path.isPlain = true)
    (plain' : ∀ c ∈ cs', c.path.isPlain = true)
    (same : cs'.map (·.path.tokens) = (deriveList cs).map Path.tokens) :
    (deriveList cs').map Path.tokens = (deriveList cs).map Path.tokens := by
  have names : cs'.map (·.name) = ((deriveList cs).map Capability.mk).map (·.name) := by
    refine names_of_written (List.forall_mem_map.mpr (isPlain_deriveList plain)) plain' ?_
    rw [same, List.map_map]
    rfl
  have none : lacking cs' = [] :=
    (lacking_congr fun n => by rw [names]).trans (lacking_derived cs)
  rw [deriveList_eq cs', none, List.map_nil, List.append_nil, List.map_map]
  exact same

/-! ## The union -/

/-- **A union that keeps the order.** All that was asked for stands first, as it was written, and
then those required traits that no path of it ends in, in their own order; so each of them is the
last word of some path. What is appended hangs on the names alone, however often and in whatever
order they stand, and gets less with more of them. The derived list, asked for itself, is derived
as it is. -/
theorem deriveList_union :
    (∀ cs, (deriveList cs).map Path.tokens = cs.map (·.path.tokens) ++
      (["Clone", "Debug", "PartialEq", "Eq", "Hash"].filter fun r => ∀ c ∈ cs, c.name ≠ r).map
        fun r => [.ident r .callSite]) ∧
    (∀ cs, ∀ r ∈ requiredDerives, ∃ p ∈ deriveList cs, p.last.ident.text = r) ∧
    (∀ cs, deriveList cs = cs.map (·.path) ++ appended cs) ∧
    (∀ cs cs' : List Capability, (∀ n, n ∈ cs.map (·.name) ↔ n ∈ cs'.map (·.name)) →
      appended cs = appended cs') ∧
    (∀ cs cs' : List Capability, (∀ c, c ∈ cs ↔ c ∈ cs') → appended cs = appended cs') ∧
    (∀ cs cs', cs ⊆ cs' → (appended cs').Sublist (appended cs)) ∧
    (∀ cs, deriveList ((deriveList cs).map Capability.mk) = deriveList cs) ∧
    ∀ cs cs' : List Capability, (∀ c ∈ cs, c.path.isPlain = true) →
      (∀ c ∈ cs', c.path.isPlain = true) →
      cs'.map (·.path.tokens) = (deriveList cs).map Path.tokens →
      (deriveList cs').map Path.tokens = (deriveList cs).map Path.tokens := by
  have ofNames {cs cs' : List Capability}
      (h : ∀ n, n ∈ cs.map (·.name) ↔ n ∈ cs'.map (·.name)) : appended cs = appended cs' := by
    rw [appended_eq, appended_eq, lacking_congr h]
  refine ⟨fun cs => ?_, fun cs r hr => exists_written cs hr, fun cs => ?_, fun _ _ => ofNames,
    fun cs cs' h => ofNames fun n => ?_, fun cs cs' h => ?_, deriveList_derived,
    fun _ _ => deriveList_written⟩
  · have unnamed : lacking cs = requiredDerives.filter fun r => ∀ c ∈ cs, c.name ≠ r :=
      List.filter_congr fun r _ => Bool.eq_iff_iff.mpr (by simp)
    rw [deriveList_eq, List.map_append, List.map_map, List.map_map, unnamed]
    rfl
  · rw [appended_eq, deriveList_eq]
  · simp only [List.mem_map, h]
  · rw [appended_eq, appended_eq]
    exact (lacking_sublist (List.map_subset _ h)).map _

/-- `derive(serde::Serialize, Hash, std::clone::Clone)`. -/
def serializeHashClone : List Capability :=
  [⟨⟨none, ⟨⟨"serde", .callSite⟩, .none⟩, [⟨⟨"Serialize", .callSite⟩, .none⟩]⟩⟩,
    ⟨.ofIdent ⟨"Hash", .callSite⟩⟩,
    ⟨⟨none, ⟨⟨"std", .callSite⟩, .none⟩,
      [⟨⟨"clone", .callSite⟩, .none⟩, ⟨⟨"Clone", .callSite⟩, .none⟩]⟩⟩]

theorem deriveList_union_serializeHashClone :
    (deriveList serializeHashClone).map Path.tokens =
        serializeHashClone.map (·.path.tokens) ++
          ["Debug", "PartialEq", "Eq"].map (fun r => [.ident r .callSite]) ∧
      appended serializeHashClone = appended serializeHashClone.reverse ∧
      (appended serializeHashClone).Sublist (appended serializeHashClone.tail) := by
  obtain ⟨written, -, -, -, members, more, -⟩ := deriveList_union
  refine ⟨(written serializeHashClone).trans (congrArg _ ?_), ?_, ?_⟩
  · exact congrArg _ (by decide)
  · exact members _ _ fun c => List.mem_reverse.symm
  · exact more _ _ (List.tail_subset _)

end Emission

end TypedId
