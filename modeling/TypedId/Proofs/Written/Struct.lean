/-
Structs read back: `item_written`. A struct is read with its visibility and
its name as they were written, and with what its attributes and its body are
read as. What the readers of either form give can always be written so
(`Declaration.Plain`).
-/
import TypedId.Proofs.Gives
import TypedId.Proofs.Requests.Forms
import TypedId.Proofs.Written.Attributes

namespace TypedId

open Reader

/-! ## Structs -/

namespace Grammar

theorem shows_hash_visibility (v : Visibility) (text : String) (place : Span) (rest : Tokens) :
    (Sign.operator "#").shows (v.tokens ++ .ident text place :: rest) = false := by
  cases v with
  | inherited => exact shows_hash_of_ident (i := ⟨text, place⟩) rfl
  | everywhere pub => exact shows_hash_of_ident (i := ⟨"pub", pub⟩) rfl
  | restricted pub => exact shows_hash_of_ident (i := ⟨"pub", pub⟩) rfl

theorem weight_le_of_mem {as : List Attribute} {a : Attribute} (h : a ∈ as) :
    a.tokens.weight ≤ Tokens.weight (as.flatMap Attribute.tokens) := by
  obtain ⟨before, after, rfl⟩ := List.append_of_mem h
  rw [List.flatMap_append, List.flatMap_cons, Tokens.weight_append, Tokens.weight_append]
  omega

theorem itemForm_written {v : Visibility} (plain : v.Plain) (s : Scope) (place : Span)
    (rest : Tokens) :
    itemForm s ⟨v.tokens ++ .ident "struct" place :: rest, none⟩ =
      .ok (.struct, ⟨.ident "struct" place :: rest, none⟩) := by
  have noFunction : showsFunction false s ⟨.ident "struct" place :: rest, none⟩ =
      .ok (false, ⟨.ident "struct" place :: rest, none⟩) := rfl
  rw [itemForm, bind_apply, visibility_written plain s (by decide) place rest]
  simp only [bind_apply, noFunction]
  rfl

/-- A struct is read up to its body, whatever that is. -/
theorem structItem_written {g : Grammar} (as : List Attribute) {v : Visibility} (plain : v.Plain)
    {i : Ident} (name : isKeyword i.text = false) (place : Span) {body rest : Tokens}
    {fields : List Field} {s : Scope} (angle : (Sign.operator "<").shows body = false)
    (read : structBody g s ⟨body, none⟩ = .ok ((none, fields, rest), ⟨[], none⟩)) :
    ∃ ts, structItem g as s ⟨v.tokens ++ .ident "struct" place :: i.token :: body, none⟩ =
      .ok (.struct ⟨as, v, i, ⟨0, []⟩, none, fields⟩ ts, ⟨[], none⟩) := by
  have struct : keyword "struct" s ⟨.ident "struct" place :: i.token :: body, none⟩ =
      .ok ([.ident "struct" place], ⟨i.token :: body, none⟩) := rfl
  have named : identifier s ⟨i.token :: body, none⟩ = .ok (i, ⟨body, none⟩) := by
    have front : Tokens.word? (i.token :: body) = some (i, body) := rfl
    rw [identifier]
    simp only [front, name, Bool.false_eq_true, if_false]
  have parameters : generics g s ⟨body, none⟩ = .ok (⟨0, []⟩, ⟨body, none⟩) := by
    rw [generics, peek_bind, angle]
    rfl
  rw [structItem, bind_apply, visibility_written plain s (by decide)]
  simp only [bind_apply, struct, named, parameters, read]
  exact ⟨_, rfl⟩

/-- **Structs read back** with what their attributes are read as. -/
theorem item_written {as bs : List Attribute} (outer : ∀ a ∈ as, a.Outer)
    (again : List.Forall₂ Attribute.ReadsAs as bs) {v : Visibility} (plain : v.Plain) {i : Ident}
    (name : isKeyword i.text = false) (place : Span) (body : Tokens)
    {fields : List Field} (angle : (Sign.operator "<").shows body = false)
    (read : ∀ n, Tokens.weight body ≤ n → ∃ written,
      structBody (deep (n + 1)) .top ⟨body, none⟩ = .ok ((none, fields, written), ⟨[], none⟩)) :
    ∃ ts, run anyItem (as.flatMap Attribute.tokens ++
        (v.tokens ++ .ident "struct" place :: i.token :: body)) =
      .ok (.struct ⟨bs, v, i, ⟨0, []⟩, none, fields⟩ ts) := by
  generalize hw : Tokens.weight (as.flatMap Attribute.tokens ++
    (v.tokens ++ .ident "struct" place :: i.token :: body)) = n
  have enough : Tokens.weight (as.flatMap Attribute.tokens) + Tokens.weight body ≤ n := by
    rw [← hw]
    simp only [Tokens.weight_append, Tokens.weight_cons]
    omega
  have front := outerAttributes_again outer again
    (n := n + 1) (fun a ha => by have := weight_le_of_mem ha; omega)
    (shows_hash_visibility v "struct" place (i.token :: body)) .top
  obtain ⟨_, inner⟩ := read n (by omega)
  obtain ⟨ts, behind⟩ := structItem_written bs plain name place angle inner
  refine ⟨ts, runIn_eq_ok_iff.mpr ⟨[], ?_, rfl⟩⟩
  rw [anyItem, whole, Cursor.weight, hw, itemOnce, bind_apply, front]
  simp only [itemBehind, bind_apply, ahead, itemForm_written plain]
  exact behind

end Grammar

/-! ## What declarations are made of -/

/-- Every segment is a word alone. -/
def Path.IsWords (p : Path) : Prop := ∃ absolute first others, p = .ofWords absolute first others

/-- The declaration could have been read: its visibility, its attributes, which derive nothing, and
its capabilities are such as readers give. -/
structure Declaration.Plain (d : Declaration) : Prop where
  visibility : d.visibility.Plain
  attributes : ∀ a ∈ d.attributes, a.Outer ∧ a.isDerive = false
  capabilities : ∀ c ∈ d.capabilities, c.path.IsWords

theorem isWords_of_pathAt {ts rest : Tokens} {p : Path} (h : ts.PathAt p rest) : p.IsWords := by
  cases h
  exact ⟨_, _, _, rfl⟩

theorem isWords_of_paths {ts : Tokens} {ps : List Path} (h : ts.Paths ps) :
    ∀ p ∈ ps, p.IsWords := by
  induction h with
  | nil => exact nofun
  | last path => exact List.forall_mem_singleton.mpr (isWords_of_pathAt path)
  | cons path comma more ih => exact List.forall_mem_cons.mpr ⟨isWords_of_pathAt path, ih⟩

namespace Options

theorem isWords_of_path {s : Scope} {c c' : Cursor} {p : Path} (h : Options.path s c = .ok (p, c')) :
    p.IsWords := by
  obtain ⟨rest, path, -, -⟩ := path_eq_ok_iff.mp h
  exact isWords_of_pathAt path

theorem capabilities_isWords {allowed : Allowed} {ts : Tokens} {options : Options}
    (h : ofTokens allowed ts = .ok options) : ∀ c ∈ options.capabilities, c.path.IsWords :=
  capabilities_of_ofTokens (T := fun _ => True) (fun _ _ _ _ _ => isWords_of_path) trivial h

end Options

theorem Freestanding.plain_of_parse {input : Tokens} {d : Declaration}
    (h : Freestanding.parse input = .ok d) : d.Plain := by
  obtain ⟨p, options, split, ho, rfl⟩ := parse_eq_ok_iff.mp h
  obtain ⟨visibility, -⟩ := split
  refine ⟨Grammar.plain_of_visibility visibility.1, ?_, Options.capabilities_isWords ho⟩
  exact fun a ha => absurd ha List.not_mem_nil

namespace Grammar

theorem outer_of_outerAttributes {g : Grammar} {s : Scope} {as : List Attribute} {c c' : Cursor}
    (h : outerAttributes g s c = .ok (as, c')) : ∀ a ∈ as, a.Outer :=
  Gives.whileM (T := fun _ => True) (.peek _) (outerAttribute_forward g)
    (fun _ _ _ _ _ => outer_of_outerAttribute) _ _ _ _ trivial h

/-- Only one form of declarations gives a struct. -/
theorem structItem_of_itemBehind {g : Grammar} {as : List Attribute} {s : Scope} {c c' : Cursor}
    {decl : StructItem} {ts : Tokens} (h : itemBehind g as s c = .ok (.struct decl ts, c')) :
    structItem g as s c = .ok (.struct decl ts, c') := by
  have other : ∀ (p : Reader Tokens) (written : Tokens) (c : Cursor),
      (do return Item.other (written ++ (← p)) : Reader Item) s c ≠ .ok (.struct decl ts, c') := by
    intro p written c h
    obtain ⟨_, c₁, -, h⟩ := bind_eq_ok_iff.mp h
    cases h
  obtain ⟨form, c₁, hf, h⟩ := bind_eq_ok_iff.mp h
  have same : c₁ = c := by
    rw [ahead] at hf
    split at hf
    · cases hf
      rfl
    · cases hf
  subst same
  cases form with
  | struct => exact h
  | _ => exact absurd h (other _ _ _)

theorem not_isKeyword_of_identifier {s : Scope} {i : Ident} {c c' : Cursor}
    (h : identifier s c = .ok (i, c')) : isKeyword i.text = false := by
  rw [identifier] at h
  split at h
  · split at h
    · cases h
    · next unreserved =>
      cases h
      exact Bool.not_eq_true _ ▸ unreserved
  · cases h

theorem plain_of_anyItem {item ts : Tokens} {decl : StructItem}
    (h : run anyItem item = .ok (.struct decl ts)) :
    decl.visibility.Plain ∧ (∀ a ∈ decl.attributes, a.Outer) ∧
      isKeyword decl.name.text = false := by
  obtain ⟨rest, h, -⟩ := runIn_eq_ok_iff.mp h
  obtain ⟨as, c₁, has, h⟩ := bind_eq_ok_iff.mp h
  have outer := outer_of_outerAttributes has
  obtain ⟨v, c₂, hv, h⟩ := bind_eq_ok_iff.mp (structItem_of_itemBehind h)
  obtain ⟨_, c₃, -, h⟩ := bind_eq_ok_iff.mp h
  obtain ⟨name, c₄, hn, h⟩ := bind_eq_ok_iff.mp h
  obtain ⟨_, c₅, -, h⟩ := bind_eq_ok_iff.mp h
  obtain ⟨_, c₆, -, h⟩ := bind_eq_ok_iff.mp h
  cases h
  exact ⟨plain_of_visibility hv, outer, not_isKeyword_of_identifier hn⟩

end Grammar

/-- What each attribute's list has in all its paths, the paths of all lists have. -/
theorem forall_mem_lists {P : Path → Prop} {as : List Attribute} {lists : List (List Path)}
    (h : List.Forall₂ Attribute.Lists as lists)
    (each : ∀ a ∈ as, ∀ ps, a.Lists ps → ∀ p ∈ ps, P p) : ∀ p ∈ lists.flatten, P p := by
  induction h with
  | nil => exact fun p hp => absurd hp List.not_mem_nil
  | cons first more ih =>
    rw [List.forall_mem_cons] at each
    rw [List.flatten_cons]
    exact List.forall_mem_append.mpr ⟨each.1 _ first, ih each.2⟩

theorem isWords_of_lists {a : Attribute} {ps : List Path} (h : a.Lists ps) :
    ∀ p ∈ ps, p.IsWords := by
  obtain ⟨d, content, place, -, paths⟩ := h
  exact isWords_of_paths paths

theorem Attached.plain_of_parse {args item : Tokens} {d : Declaration}
    (h : Attached.parse args item = .ok d) : d.Plain := by
  obtain ⟨t, us, os, options, s, rest, lists, -, -, hi, -, each, rfl⟩ := parse_eq_ok_iff.mp h
  obtain ⟨visibility, outer, -⟩ := Grammar.plain_of_anyItem hi
  refine ⟨visibility, fun a ha => ?_, fun c hc => ?_⟩
  · obtain ⟨mem, other⟩ := List.mem_filter.mp ha
    exact ⟨outer a mem, by simpa using other⟩
  · obtain ⟨p, hp, rfl⟩ := List.mem_map.mp hc
    exact forall_mem_lists each (fun _ _ _ => isWords_of_lists) p hp

end TypedId
