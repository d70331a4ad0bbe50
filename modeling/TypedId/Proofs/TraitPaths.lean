/-
A trait path is told by its full name. That name joins the words of the path by
double colons, one in front being told by an empty word (`qualifiedName_eq_join`),
and words hold no colon, so they can be read off it (`qualifiedName_eq_iff`).
The readers of declarations give no other paths than those of words
(`Declaration.IsRead.ofIdents`). So a trait is found to be asked for twice if it is the
very same path that was there before (`qualifiedName_identifies`).
-/
import Mathlib.Data.List.Basic
import TypedId.Proofs.Conflicts
import TypedId.Proofs.Inputs
import TypedId.Proofs.Spelling
import TypedId.Proofs.Written.Struct

namespace TypedId

/-! ## Words and colons -/

theorem IsIdent.noColon {text : String} (h : IsIdent text) : ':' ∉ text.toList :=
  Lexer.not_mem_ident h (by decide) (by decide)

theorem IsIdent.ne_empty {text : String} (h : IsIdent text) : text ≠ "" := by
  rintro rfl
  obtain ⟨c, cs, hc, -⟩ := Lexer.ident?_chars h
  cases hc

/-- What is in front of the first colon is told by the whole. -/
theorem append_colon_inj {w v x y : List Char} (hw : ':' ∉ w) (hv : ':' ∉ v)
    (h : w ++ ':' :: x = v ++ ':' :: y) : w = v ∧ x = y := by
  have front : ∀ {w : List Char} (x), ':' ∉ w → (w ++ ':' :: x).takeWhile (· ≠ ':') = w := by
    intro w x hw
    rw [List.takeWhile_append_of_pos fun c hc => decide_eq_true (by rintro rfl; exact hw hc)]
    simp
  have same : w = v := by rw [← front x hw, h, front y hv]
  subst same
  exact ⟨rfl, (List.cons.inj (List.append_cancel_left h)).2⟩

theorem toList_join_cons (w v : String) (ws : List String) :
    ("::".intercalate (w :: v :: ws)).toList =
      w.toList ++ ':' :: ':' :: ("::".intercalate (v :: ws)).toList := by
  rw [String.intercalate_cons_cons, String.toList_append, String.toList_append, List.append_assoc]
  rfl

theorem colon_mem_join {w v : String} {ws : List String} :
    ':' ∈ ("::".intercalate (w :: v :: ws)).toList := by
  rw [toList_join_cons]
  simp

/-- Texts joined by double colons can be read off the whole if there is no colon in them. -/
theorem join_inj {w v : String} {ws vs : List String} (hw : ∀ x ∈ w :: ws, ':' ∉ x.toList)
    (hv : ∀ x ∈ v :: vs, ':' ∉ x.toList)
    (h : "::".intercalate (w :: ws) = "::".intercalate (v :: vs)) : w :: ws = v :: vs := by
  rw [List.forall_mem_cons] at hw hv
  induction ws generalizing w v vs with
  | nil =>
    cases vs with
    | nil => simpa using h
    | cons v' vs =>
      have colon := @colon_mem_join v v' vs
      rw [← h, String.intercalate_singleton] at colon
      exact absurd colon hw.1
  | cons w' ws ih =>
    cases vs with
    | nil =>
      have colon := @colon_mem_join w w' ws
      rw [h, String.intercalate_singleton] at colon
      exact absurd colon hv.1
    | cons v' vs =>
      have written := congrArg String.toList h
      rw [toList_join_cons, toList_join_cons] at written
      obtain ⟨first, rest⟩ := append_colon_inj hw.1 hv.1 written
      have others := ih (List.forall_mem_cons.mp hw.2) (List.forall_mem_cons.mp hv.2)
        (String.toList_inj.mp (List.cons.inj rest).2)
      rw [String.toList_inj.mp first, others]

/-! ## The full name of a path -/

namespace Path

/-- The path is made of identifiers, and nothing stands behind them. -/
def OfIdents (p : Path) : Prop := p.isPlain = true ∧ ∀ x ∈ p.segments, IsIdent x.ident.text

instance (p : Path) : Decidable p.OfIdents := inferInstanceAs (Decidable (_ ∧ _))

/-- The paths are written alike, wherever they stand. -/
def Alike (p q : Path) : Prop :=
  p.absolute.isSome = q.absolute.isSome ∧
    p.segments.map (·.ident.text) = q.segments.map (·.ident.text)

instance (p q : Path) : Decidable (p.Alike q) := inferInstanceAs (Decidable (_ ∧ _))

/-- What stands between the double colons: nothing in front of the first if the path begins with
one. -/
def words (p : Path) : List String :=
  if p.absolute.isSome then "" :: p.segments.map (·.ident.text)
  else p.segments.map (·.ident.text)

variable {p q : Path}

theorem qualifiedName_eq_join (p : Path) : p.qualifiedName = "::".intercalate p.words := by
  rw [qualifiedName, words]
  cases p.absolute <;> simp [segments]

theorem OfIdents.noColon (h : p.OfIdents) : ∀ w ∈ p.words, ':' ∉ w.toList := by
  have plain : ∀ w ∈ p.segments.map (·.ident.text), ':' ∉ w.toList :=
    List.forall_mem_map.mpr fun x hx => (h.2 x hx).noColon
  rw [words]
  split
  · exact List.forall_mem_cons.mpr ⟨List.not_mem_nil, plain⟩
  · exact plain

theorem words_eq_iff (hp : p.OfIdents) (hq : q.OfIdents) : p.words = q.words ↔ p.Alike q := by
  have word : ∀ {p : Path}, p.OfIdents → p.first.ident.text ≠ "" := fun h =>
    (h.2 _ (List.mem_cons_self ..)).ne_empty
  rw [words, words, Alike]
  cases p.absolute <;> cases q.absolute <;> simp [segments, word hp, (word hq).symm]

theorem words_ne_nil (p : Path) : p.words ≠ [] := by
  rw [words]
  split <;> simp [segments]

/-- A path of identifiers is told by its full name. -/
theorem qualifiedName_eq_iff (hp : p.OfIdents) (hq : q.OfIdents) :
    p.qualifiedName = q.qualifiedName ↔ p.Alike q := by
  rw [← words_eq_iff hp hq, qualifiedName_eq_join, qualifiedName_eq_join]
  refine ⟨fun same => ?_, fun same => by rw [same]⟩
  have noColons := And.intro hp.noColon hq.noColon
  cases hps : p.words with
  | nil => exact absurd hps p.words_ne_nil
  | cons w ws =>
    cases hqs : q.words with
    | nil => exact absurd hqs q.words_ne_nil
    | cons v vs =>
      rw [hps, hqs] at same noColons
      exact join_inj noColons.1 noColons.2 same

theorem OfIdents.push (h : p.OfIdents) {i : Ident} (word : IsIdent i.text) :
    (p.push ⟨i, .none⟩).OfIdents := by
  rw [OfIdents, isPlain, segments_push]
  refine ⟨?_, List.forall_mem_append.mpr ⟨h.2, List.forall_mem_singleton.mpr word⟩⟩
  rw [List.all_append, Bool.and_eq_true]
  exact ⟨h.1, rfl⟩

theorem OfIdents.last (h : p.OfIdents) : IsIdent p.last.ident.text :=
  h.2 _ (List.getLast_mem _)

end Path

/-! ## Readers of trait paths -/

open Reader

namespace Options

theorem segments_gives {read : Path} (before : read.OfIdents) :
    (path.segments read).Gives Tokens.Spelled (Round.Holds Path.OfIdents Path.OfIdents) := by
  refine .after (.peek _) fun shown => .ite ?_ (.pure before)
  exact .after Grammar.separator_forward fun _ => .bind_pure .word fun i word =>
    before.push word

theorem path_gives : path.Gives Tokens.Spelled Path.OfIdents := by
  refine .after Grammar.separator?_forward fun absolute => .after (.peek _) fun shown => .ite ?_ ?_
  · refine .bind .word .word fun first word => ?_
    refine .loop segments_forward (fun _ => segments_gives) ⟨rfl, ?_⟩
    exact List.forall_mem_singleton.mpr word
  · refine .after (.look _) fun done => .ite (.complain _) ?_
    exact .after (.peek _) fun literal => .ite (.complain _) (.complain _)

end Options

namespace Attribute

/-- What is in the list of an attribute is spelled out. -/
def Spelled (a : Attribute) : Prop :=
  ∀ d content place, a.body = .list d content place → Tokens.Spelled content

theorem Lists.ofIdents {a : Attribute} {ps : List Path} (spelled : a.Spelled) (h : a.Lists ps) :
    ∀ p ∈ ps, p.OfIdents := by
  obtain ⟨d, content, place, body, paths⟩ := h
  have derived : a.derived = .ok (ps.map Capability.mk) :=
    derived_eq_ok_iff.mpr ⟨d, content, place, ps, body, paths, rfl⟩
  rw [Attribute.derived, body] at derived
  have listed := (Options.capabilities_gives Options.path_gives).of_runIn
    (spelled d content place body) derived
  exact fun p hp => listed ⟨p⟩ (List.mem_map_of_mem hp)

end Attribute

namespace Grammar

theorem attributeBody_gives (g : Grammar) : (attributeBody g).Gives Tokens.Spelled fun body =>
    ∀ d content place, body = .list d content place → Tokens.Spelled content := by
  rintro s c _ c' spelled h d content place rfl
  exact Gives.anyGroup _ _ _ _ spelled (anyGroup_of_attributeBody h)

theorem plainPath_forward : Forward plainPath := by
  have segments (read : Path) : Forward (plainPath.segments read) := by
    unfold plainPath.segments wanted
    grind
  unfold plainPath
  grind

theorem outerAttribute_gives (g : Grammar) : (outerAttribute g).Gives Tokens.Spelled Attribute.Spelled := by
  have content : (attributeContent g).Gives Tokens.Spelled fun r =>
      ∀ d content place, r.2 = .list d content place → Tokens.Spelled content := by
    refine .after (.peek _) fun shown => .ite (.after (.map _ .word) fun path => ?_)
      (.after plainPath_forward fun path => ?_)
    all_goals exact .bind_pure (attributeBody_gives g) fun _ spelled => spelled
  exact .after (.operator _) fun hash => .bind_pure (.group _ content) fun _ spelled => spelled

theorem spelled_of_anyItem {item ts : Tokens} {decl : StructItem} (spelled : item.Spelled)
    (h : run anyItem item = .ok (.struct decl ts)) : ∀ a ∈ decl.attributes, a.Spelled := by
  obtain ⟨rest, h, -⟩ := runIn_eq_ok_iff.mp h
  obtain ⟨as, c₁, has, h⟩ := bind_eq_ok_iff.mp h
  have listed := Gives.whileM (.peek _) (outerAttribute_forward _) (outerAttribute_gives _) _ _ _ _
    spelled has
  obtain ⟨v, c₂, -, h⟩ := bind_eq_ok_iff.mp (structItem_of_itemBehind h)
  obtain ⟨_, c₃, -, h⟩ := bind_eq_ok_iff.mp h
  obtain ⟨name, c₄, -, h⟩ := bind_eq_ok_iff.mp h
  obtain ⟨_, c₅, -, h⟩ := bind_eq_ok_iff.mp h
  obtain ⟨_, c₆, -, h⟩ := bind_eq_ok_iff.mp h
  cases h
  exact listed

end Grammar

/-! ## What declarations ask for -/

theorem Freestanding.ofIdents_of_parse {ts : Tokens} {d : Declaration} (spelled : ts.Spelled)
    (h : Freestanding.parse ts = .ok d) : ∀ c ∈ d.capabilities, c.path.OfIdents := by
  obtain ⟨p, options, split, ho, rfl⟩ := parse_eq_ok_iff.mp h
  obtain ⟨joint, place, written, more, shown, behind⟩ := split.flat
  refine Options.capabilities_of_ofTokens Options.path_gives ?_ ho
  rw [← Tokens.spelled_flat, shown] at spelled
  rcases behind with ⟨-, none⟩ | ⟨joint, place, rfl⟩
  · rw [none]
    exact Tokens.spelled_nil
  · simp only [Tokens.spelled_append, Tokens.spelled_cons] at spelled
    exact (Tokens.spelled_flat _).mp spelled.2.2.2.2

theorem Attached.ofIdents_of_parse {args item : Tokens} {d : Declaration} (spelled : item.Spelled)
    (h : Attached.parse args item = .ok d) : ∀ c ∈ d.capabilities, c.path.OfIdents := by
  obtain ⟨t, us, os, options, s, rest, lists, -, -, hi, -, each, rfl⟩ := parse_eq_ok_iff.mp h
  have attributes := Grammar.spelled_of_anyItem spelled hi
  refine List.forall_mem_map.mpr (forall_mem_lists each fun a ha ps listed => ?_)
  exact listed.ofIdents (attributes a (List.mem_filter.mp ha).1)

/-- The declaration is read, in either form, from tokens that are spelled out. -/
def Declaration.IsRead (d : Declaration) : Prop :=
  (∃ ts, Tokens.Spelled ts ∧ Freestanding.parse ts = .ok d) ∨
    ∃ args item, Tokens.Spelled item ∧ Attached.parse args item = .ok d

theorem Declaration.IsRead.ofIdents {d : Declaration} (h : d.IsRead) :
    ∀ c ∈ d.capabilities, c.path.OfIdents := by
  rcases h with ⟨ts, spelled, h⟩ | ⟨args, item, spelled, h⟩
  · exact Freestanding.ofIdents_of_parse spelled h
  · exact Attached.ofIdents_of_parse spelled h

namespace Validation

/-- A trait that may be had is refused if its very path was there before. -/
theorem conflictFinding?_isSome_iff {cs : List Capability} (words : ∀ c ∈ cs, c.path.OfIdents)
    {i : Fin cs.length} (hd : (cs.get i).name ≠ "Default") (hi : (cs.get i).name ≠ "Identifier") :
    (conflictFinding? cs i).isSome ↔ ∃ j < i, (cs.get j).path.Alike (cs.get i).path := by
  have same (j : Fin cs.length) : (cs.get j).qualifiedName = (cs.get i).qualifiedName ↔
      (cs.get j).path.Alike (cs.get i).path :=
    Path.qualifiedName_eq_iff (words _ (List.get_mem ..)) (words _ (List.get_mem ..))
  simp only [List.get_eq_getElem] at hd hi same ⊢
  rw [conflictFinding?, Option.isSome_map, conflictAt]
  simp only [Fin.getElem_fin, if_neg hd, if_neg hi, same]
  split <;> simp_all

end Validation

open Validation

/-- **Full names tell trait paths apart.** Capabilities whose paths are made of identifiers have one
full name if both paths begin with a double colon, or neither does, and their words are the same.
There are no other paths in declarations that are read: lexing gives tokens that are spelled out,
and they stay so if fragments are put in. So a capability that is neither `Default` nor `Identifier`
is refused just if the same path is before it in the list. The name of a capability is what is
behind the last double colon of its full name. -/
theorem qualifiedName_identifies :
    (∀ c c' : Capability, c.path.OfIdents → c'.path.OfIdents →
      (c.qualifiedName = c'.qualifiedName ↔ c.path.Alike c'.path)) ∧
    (∀ source text ts, Lexer.lex source text = some ts → Tokens.Spelled ts) ∧
    (∀ fragment ts, (∀ name us, fragment name = some us → Tokens.Spelled us) →
      Tokens.Spelled ts → Tokens.Spelled (Token.substituteAll fragment ts)) ∧
    (∀ d : Declaration, d.IsRead → (∀ c ∈ d.capabilities, c.path.OfIdents) ∧
      checkCapabilities d.capabilities =
        (List.finRange d.capabilities.length).filterMap (conflictFinding? d.capabilities) ∧
      ∀ i, (d.capabilities.get i).name ≠ "Default" → (d.capabilities.get i).name ≠ "Identifier" →
        ((conflictFinding? d.capabilities i).isSome ↔
          ∃ j < i, (d.capabilities.get j).path.Alike (d.capabilities.get i).path)) ∧
    ∀ c : Capability, c.path.OfIdents →
      c.name = String.ofList (behindColon c.qualifiedName) ∧ ':' ∉ c.name.toList ∧
      (c.qualifiedName = c.name ∨ ∃ front, c.qualifiedName = front ++ "::" ++ c.name) := by
  refine ⟨fun _ _ => Path.qualifiedName_eq_iff, fun _ _ _ => spelled_of_lex,
    fun _ _ fragments spelled => spelled.substitute fragments, fun d read => ?_, fun c words => ?_⟩
  · exact ⟨read.ofIdents, checkCapabilities_eq _, fun _ => conflictFinding?_isSome_iff read.ofIdents⟩
  · have word := words.last.noColon
    refine ⟨?_, word, c.path.qualifiedName_last⟩
    rw [Capability.qualifiedName, Path.behindColon_qualifiedName word, String.ofList_toList]
    rfl

/-- `serde::Serialize`, or `::serde::Serialize`. -/
def serializePath (absolute : Option Span) : Path :=
  .ofWords absolute ⟨"serde", .callSite⟩ [⟨"Serialize", .callSite⟩]

/-- What `u64, "ImageId", derive(serde::Serialize, ::serde::Serialize, serde::Serialize)` declares. -/
def serializeThrice : Declaration :=
  imageId [⟨serializePath none⟩, ⟨serializePath (some .callSite)⟩, ⟨serializePath none⟩]

def serializeThriceTokens : Tokens :=
  [.ident "u64" .callSite, .punct ',' false .callSite,
    .literal "\"ImageId\"" .callSite, .punct ',' false .callSite,
    .ident "derive" .callSite,
    .group .parenthesis ((serializePath none).tokens ++ [.punct ',' false .callSite] ++
      (serializePath (some .callSite)).tokens ++ [.punct ',' false .callSite] ++
      (serializePath none).tokens) .callSite]

/-- A fragment that stands for the raw type. -/
def rawFragment (name : String) : Option Tokens :=
  if name = "raw" then some [.ident "u64" .callSite] else none

/-- The second path is another one, the third is the first again. -/
theorem qualifiedName_identifies_serialize :
    serializeThrice.IsRead ∧
    (serializePath none).qualifiedName ≠ (serializePath (some .callSite)).qualifiedName ∧
    (conflictFinding? serializeThrice.capabilities (1 : Fin 3)).isSome = false ∧
    (conflictFinding? serializeThrice.capabilities (2 : Fin 3)).isSome = true ∧
    "Serialize" = String.ofList (behindColon (serializePath none).qualifiedName) ∧
    (∃ ts, Lexer.lex "input" "raw" = some ts ∧
      Tokens.Spelled (Token.substituteAll rawFragment ts)) := by
  obtain ⟨told, lexed, substituted, listed, named⟩ := qualifiedName_identifies
  have spelled : serializeThriceTokens.Spelled := by decide +kernel
  have read : serializeThrice.IsRead := .inl ⟨serializeThriceTokens, spelled, by cbv⟩
  obtain ⟨words, -, found⟩ := listed serializeThrice read
  refine ⟨read, ?_, ?_, ?_, ?_, ?_⟩
  · have apart := told ⟨serializePath none⟩ ⟨serializePath (some .callSite)⟩ (by decide)
      (by decide)
    exact fun same => absurd (apart.mp same) (by decide)
  · rw [← Bool.not_eq_true, found (1 : Fin 3) (by decide) (by decide)]
    decide
  · rw [found (2 : Fin 3) (by decide) (by decide)]
    exact ⟨(0 : Fin 3), by decide, by decide⟩
  · exact (named ⟨serializePath none⟩ (by decide)).1
  · obtain ⟨ts, hts⟩ : ∃ ts, Lexer.lex "input" "raw" = some ts :=
      Option.isSome_iff_exists.mp (by decide +kernel)
    refine ⟨ts, hts, substituted _ _ (fun name us hus => ?_) (lexed _ _ _ hts)⟩
    rw [rawFragment] at hus
    split at hus
    · cases hus
      decide +kernel
    · cases hus

end TypedId
