/-
Reading back what was written. Paths of words, and visibilities, are written
so that they are read as what they were: `plainPath_written` and
`visibility_written`. Where a path or a visibility came from does not matter,
only that it was read.
-/
import TypedId.Proofs.Requests

namespace TypedId

open Reader

theorem Reader.peekAny_bind {β : Type} (signs : List Sign) (f : Bool → Reader β) (s : Scope)
    (c : Cursor) : (peekAny signs >>= f) s c = f (signs.any (·.shows c.rest)) s c := rfl

/-! ## Paths of words -/

namespace Path

/-- The path of these words, as it is written. -/
def writtenWords (absolute : Option Span) (first : Ident) (others : List Ident) : PlainPath where
  absolute := absolute.map fun place => ⟨place, false, place⟩
  first := first
  others := others.map fun i => (⟨i.span, false, i.span⟩, i)

theorem tokens_ofWords (absolute : Option Span) (first : Ident) (others : List Ident) :
    (ofWords absolute first others).tokens = (writtenWords absolute first others).tokens := by
  have segments : ((others.map fun i => Segment.mk i .none).flatMap fun s =>
        separator s.ident.span ++ s.tokens) =
      (others.map fun i => ((⟨i.span, false, i.span⟩ : Colons), i)).flatMap fun q =>
        q.1.tokens ++ [q.2.token] := by
    rw [List.flatMap_map, List.flatMap_map]
    rfl
  rw [tokens, ofWords, segments]
  cases absolute <;> simp [writtenWords, PlainPath.tokens] <;> rfl

end Path

namespace Tokens

/-- What shows of a path of words where it is written. -/
theorem lead_written (absolute : Option Span) (first : Ident) (others : List Ident)
    (rest : Tokens) :
    ∃ us mid, Lead ((Path.ofWords absolute first others).tokens ++ rest) absolute us ∧
      us.enter = first.token :: mid ∧ Words mid others rest := by
  have words := words_shown (Path.writtenWords absolute first others).others rest
  have listed : (Path.writtenWords absolute first others).others.map (·.2) = others := by
    simp [Path.writtenWords, Function.comp_def]
  rw [listed] at words
  rw [Path.tokens_ofWords, PlainPath.tokens, List.append_assoc, List.cons_append]
  cases absolute with
  | none => exact ⟨_, _, rfl, rfl, words⟩
  | some place =>
    refine ⟨_, _, ⟨place, _, false, place, rfl, rfl, ?_⟩, rfl, words⟩
    exact (Span.join_self place).symm

theorem pathAt_written (absolute : Option Span) (first : Ident) (others : List Ident)
    (rest : Tokens) :
    PathAt ((Path.ofWords absolute first others).tokens ++ rest)
      (.ofWords absolute first others) rest := by
  obtain ⟨us, mid, lead, word, words⟩ := lead_written absolute first others rest
  exact .mk lead word words

end Tokens

/-! ## Plain paths -/

/-- The words that can be segments of a plain path. -/
def isSegmentWord (text : String) : Bool :=
  !isKeyword text || ["super", "self", "Self", "crate"].contains text

/-- A path of such words. -/
inductive Path.Plain : Path → Prop
  | mk {absolute : Option Span} {first : Ident} {others : List Ident}
      (head : isSegmentWord first.text = true)
      (tail : ∀ i ∈ others, isSegmentWord i.text = true) : Plain (.ofWords absolute first others)

theorem Path.Plain.push {p : Path} (h : p.Plain) {i : Ident} (hi : isSegmentWord i.text = true) :
    (p.push ⟨i, .none⟩).Plain := by
  obtain ⟨head, tail⟩ := h
  next absolute first others =>
  have pushed : (Path.ofWords absolute first others).push ⟨i, .none⟩ =
      .ofWords absolute first (others ++ [i]) := by
    simp [Path.push, Path.ofWords]
  rw [pushed]
  refine .mk head fun j hj => ?_
  rcases List.mem_append.mp hj with before | last
  · exact tail j before
  · rw [List.mem_singleton.mp last]
    exact hi

theorem Path.plain_ofIdent {i : Ident} (h : isSegmentWord i.text = true) :
    (Path.ofIdent i).Plain :=
  show (Path.ofWords none i []).Plain from .mk h nofun

namespace Grammar

variable {s : Scope} {ts : Tokens} {stray : Option Fault}

theorem shows_segment (ts : Tokens) :
    segmentSigns.any (·.shows ts) = (Tokens.word? ts).any fun w => isSegmentWord w.1.text := by
  cases h : Tokens.word? ts <;>
    simp [segmentSigns, Sign.shows, isSegmentWord, h, eq_comm]

theorem shows_segment_of_enter {rest : Tokens} {i : Ident} (h : ts.enter = i.token :: rest) :
    segmentSigns.any (·.shows ts) = isSegmentWord i.text := by
  rw [shows_segment, Tokens.word?_of_enter h]
  rfl

theorem plainSegments_again_iff {read state : Path} {c : Cursor} :
    plainPath.segments read s ⟨ts, stray⟩ = .ok (.again state, c) ↔
      ∃ place mid i rest, ts.DoubleColon place mid ∧ mid.enter = i.token :: rest ∧
        isSegmentWord i.text = true ∧ state = read.push ⟨i, .none⟩ ∧ c = ⟨rest, stray⟩ := by
  rw [plainPath.segments, peek_bind]
  cases hs : (Sign.operator "::").shows ts with
  | false =>
    have none := Tokens.shows_doubleColon_eq_false_iff.mp hs
    simp [none]
  | true =>
    rw [if_pos rfl, bind_eq_ok_iff]
    simp only [separator_eq_ok_iff, peekAny_bind]
    constructor
    · rintro ⟨place, _, ⟨mid, colons, rfl⟩, h⟩
      split at h
      · next known =>
        obtain ⟨i, c', hw, he⟩ := bind_eq_ok_iff.mp h
        obtain ⟨rest, word, rfl⟩ := word_eq_ok_iff.mp hw
        cases he
        rw [shows_segment_of_enter word] at known
        exact ⟨place, mid, i, rest, colons, word, known, rfl, rfl⟩
      · cases h
    · rintro ⟨place, mid, i, rest, colons, word, known, rfl, rfl⟩
      refine ⟨place, _, ⟨mid, colons, rfl⟩, ?_⟩
      rw [if_pos ((shows_segment_of_enter word).trans known)]
      exact bind_eq_ok_iff.mpr ⟨i, _, word_eq_ok_iff.mpr ⟨rest, word, rfl⟩, rfl⟩

theorem plainSegments_done_iff {read p : Path} {c : Cursor} :
    plainPath.segments read s ⟨ts, stray⟩ = .ok (.done p, c) ↔
      (Sign.operator "::").shows ts = false ∧ p = read ∧ c = ⟨ts, stray⟩ := by
  rw [plainPath.segments, peek_bind]
  cases hs : (Sign.operator "::").shows ts with
  | false => simp [eq_comm]
  | true =>
    simp only [if_true, Bool.true_eq_false, false_and, iff_false]
    intro h
    obtain ⟨place, c₁, -, h⟩ := bind_eq_ok_iff.mp h
    rw [peekAny_bind] at h
    split at h
    · obtain ⟨i, c₂, -, h⟩ := bind_eq_ok_iff.mp h
      cases h
    · cases h

theorem plainSegments_lowers : Lowers plainPath.segments := by
  intro s state c state' c' h
  obtain ⟨place, mid, i, rest, colons, word, -, -, rfl⟩ := plainSegments_again_iff.mp h
  exact Nat.lt_trans (Tokens.weight_lt_of_enter word) colons.weight_lt

theorem loop_plainSegments {rest : Tokens} {is : List Ident} (h : Tokens.Words ts is rest)
    (known : ∀ i ∈ is, isSegmentWord i.text = true) (stop : (Sign.operator "::").shows rest = false)
    (read : Path) :
    loop plainPath.segments read s ⟨ts, stray⟩ =
      .ok ({ read with others := read.others ++ is.map fun i => ⟨i, .none⟩ }, ⟨rest, stray⟩) := by
  induction h generalizing read with
  | nil =>
    refine (loop_eq_ok_iff plainSegments_lowers).mpr (.inl ?_)
    exact plainSegments_done_iff.mpr ⟨stop, by simp, rfl⟩
  | cons colons word more ih =>
    rw [List.forall_mem_cons] at known
    refine (loop_eq_ok_iff plainSegments_lowers).mpr (.inr ⟨_, _,
      plainSegments_again_iff.mpr ⟨_, _, _, _, colons, word, known.1, rfl, rfl⟩, ?_⟩)
    simpa [Path.push] using ih known.2 stop (read.push _)

/-- Only such paths are read. -/
theorem plain_of_plainPath {p : Path} {c c' : Cursor} (h : plainPath s c = .ok (p, c')) :
    p.Plain := by
  rw [plainPath] at h
  obtain ⟨absolute, ⟨us, _⟩, -, h⟩ := bind_eq_ok_iff.mp h
  rw [peekAny_bind] at h
  split at h
  · next known =>
    obtain ⟨first, c₁, hw, h⟩ := bind_eq_ok_iff.mp h
    obtain ⟨rest, word, rfl⟩ := word_eq_ok_iff.mp hw
    rw [shows_segment_of_enter word] at known
    have start : (Path.ofWords absolute first []).Plain := .mk known nofun
    refine loop_keeps (P := Path.Plain) ?_ ?_ start h
    · rintro state s ⟨ts, stray⟩ state' c' plain again
      obtain ⟨-, -, i, -, -, -, hi, rfl, -⟩ := plainSegments_again_iff.mp again
      exact plain.push hi
    · rintro state s ⟨ts, stray⟩ p c' plain done
      obtain ⟨-, rfl, -⟩ := plainSegments_done_iff.mp done
      exact plain
  · obtain ⟨i, c₁, -, h⟩ := bind_eq_ok_iff.mp h
    cases h

/-- **Plain paths read back.** -/
theorem plainPath_written {p : Path} (h : p.Plain) (s : Scope) {rest : Tokens}
    (stray : Option Fault) (stop : (Sign.operator "::").shows rest = false) :
    plainPath s ⟨p.tokens ++ rest, stray⟩ = .ok (p, ⟨rest, stray⟩) := by
  obtain ⟨head, tail⟩ := h
  next absolute first others =>
  obtain ⟨us, mid, lead, word, words⟩ := Tokens.lead_written absolute first others rest
  have plain : absolute = none → (Sign.operator "::").shows
      ((Path.ofWords absolute first others).tokens ++ rest) = false := by
    rintro rfl
    exact Tokens.not_shows_doubleColon (lead ▸ word) (by simp [Ident.token])
  rw [plainPath]
  refine bind_eq_ok_iff.mpr ⟨absolute, _, separator?_eq_ok_iff.mpr ⟨us, lead, plain, rfl⟩, ?_⟩
  rw [peekAny_bind, if_pos ((shows_segment_of_enter word).trans head)]
  refine bind_eq_ok_iff.mpr ⟨first, _, word_eq_ok_iff.mpr ⟨mid, word, rfl⟩, ?_⟩
  exact loop_plainSegments words tail stop _

end Grammar

/-! ## Visibilities -/

/-- The visibilities that can be read. -/
inductive Visibility.Plain : Visibility → Prop
  | inherited : Plain .inherited
  | everywhere (pub : Span) : Plain (.everywhere pub)
  | word {pub parens : Span} {w : Ident} (known : w.text ∈ ["crate", "self", "super"]) :
      Plain (.restricted pub parens none (.ofIdent w))
  | path {pub parens within : Span} {p : Path} (plain : p.Plain) :
      Plain (.restricted pub parens (some within) p)

namespace Grammar

variable {s : Scope} {stray : Option Fault}

theorem plain_of_restriction {pub : Span} {v : Visibility} {c c' : Cursor}
    (h : restriction pub s c = .ok (v, c')) : v.Plain := by
  cases front : Tokens.group? .parenthesis c.rest with
  | none =>
    rw [restriction_of_none pub front] at h
    cases h
    exact .everywhere pub
  | some g =>
    obtain ⟨content, place, rest⟩ := g
    rw [restriction, bind_apply, look, front] at h
    simp only at h
    split at h
    · next known =>
      split at h
      · obtain ⟨⟨parens, w⟩, c₁, hg, h⟩ := bind_eq_ok_iff.mp h
        cases h
        obtain ⟨content', rest', c₂, front', hw, -⟩ := group_of_ok hg
        rw [front] at front'
        cases front'
        obtain ⟨after, word, rfl⟩ := word_eq_ok_iff.mp hw
        have shown := Tokens.word?_of_enter word
        refine .word ?_
        simpa [Sign.shows, shown] using known
      · cases h
        exact .everywhere pub
    · split at h
      · obtain ⟨⟨parens, within, p⟩, c₁, hg, h⟩ := bind_eq_ok_iff.mp h
        cases h
        obtain ⟨_, _, c₂, _, inner, _⟩ := group_of_ok hg
        obtain ⟨_, c₃, _, inner⟩ := bind_eq_ok_iff.mp inner
        obtain ⟨p', c₄, hp, inner⟩ := bind_eq_ok_iff.mp inner
        cases inner
        exact .path (plain_of_plainPath hp)
      · cases h
        exact .everywhere pub

theorem plain_of_visibility {v : Visibility} {c c' : Cursor}
    (h : visibility s c = .ok (v, c')) : v.Plain := by
  by_cases he : showsEmpty c.rest = true
  · rw [visibility_of_empty he] at h
    cases h
    exact .inherited
  · rw [Bool.not_eq_true] at he
    rw [visibility_of_shown he, shownVisibility, peek_bind] at h
    split at h
    · obtain ⟨pub, c₁, -, h⟩ := bind_eq_ok_iff.mp h
      exact plain_of_restriction h
    · cases h
      exact .inherited

theorem restriction_word (pub parens : Span) {w : Ident} (known : w.text ∈ ["crate", "self", "super"])
    (s : Scope) (rest : Tokens) :
    restriction pub s ⟨.group .parenthesis [w.token] parens :: rest, none⟩ =
      .ok (.restricted pub parens none (.ofIdent w), ⟨rest, none⟩) := by
  have front : Tokens.word? [w.token] = some (w, []) := Tokens.word?_of_enter rfl
  have shown : [Sign.keyword "crate", .keyword "self", .keyword "super"].any
      (·.shows [w.token]) = true := by
    simpa [Sign.shows, front] using known
  have alone : (Tokens.word? [w.token]).any (·.2.isEmpty) = true := by rw [front]; rfl
  have inner : Reader.word ⟨parens.closing, .parenthesis⟩ ⟨[w.token], none⟩ =
      .ok (w, ⟨[], none⟩) := word_eq_ok_iff.mpr ⟨[], rfl, rfl⟩
  have parted : Tokens.group? .parenthesis (.group .parenthesis [w.token] parens :: rest) =
      some ([w.token], parens, rest) := rfl
  rw [restriction, bind_apply, look, parted]
  simp only [shown, alone, if_true, bind_apply, group_read inner s rest]
  rfl

theorem restriction_path (pub parens within : Span) {p : Path} (h : p.Plain) (s : Scope)
    (rest : Tokens) :
    restriction pub s ⟨.group .parenthesis (.ident "in" within :: p.tokens) parens :: rest, none⟩ =
      .ok (.restricted pub parens (some within) p, ⟨rest, none⟩) := by
  have front : Tokens.word? (.ident "in" within :: p.tokens) = some (⟨"in", within⟩, p.tokens) :=
    Tokens.word?_of_enter rfl
  have path := plainPath_written h ⟨parens.closing, .parenthesis⟩ none
    (show (Sign.operator "::").shows [] = false from rfl)
  rw [List.append_nil] at path
  have inner : (do
      let within ← keyword "in"
      return (Tokens.span within, ← plainPath) : Reader (Span × Path))
      ⟨parens.closing, .parenthesis⟩ ⟨.ident "in" within :: p.tokens, none⟩ =
        .ok ((within, p), ⟨[], none⟩) := by
    simp only [bind_apply, keyword_apply (show Tokens.enter (.ident "in" within :: p.tokens) =
      .ident "in" within :: p.tokens from rfl), path, Tokens.span_singleton]
    rfl
  have parted : Tokens.group? .parenthesis
      (.group .parenthesis (.ident "in" within :: p.tokens) parens :: rest) =
      some (.ident "in" within :: p.tokens, parens, rest) := rfl
  have other : [Sign.keyword "crate", .keyword "self", .keyword "super"].any
      (·.shows (.ident "in" within :: p.tokens)) = false := by
    simp [Sign.shows, front]
  have shown : (Sign.keyword "in").shows (.ident "in" within :: p.tokens) = true := by
    simp [Sign.shows, front]
  rw [restriction, bind_apply, look, parted]
  simp only [other, shown, Bool.false_eq_true, if_false, if_true, bind_apply]
  rw [group_read inner s rest]
  rfl

/-- **Visibilities read back**, in front of a word. -/
theorem visibility_written {v : Visibility} (h : v.Plain) (s : Scope) {text : String}
    (hp : text ≠ "pub") (place : Span) (rest : Tokens) :
    visibility s ⟨v.tokens ++ .ident text place :: rest, none⟩ =
      .ok (v, ⟨.ident text place :: rest, none⟩) := by
  cases h with
  | inherited =>
    have other : (Sign.keyword "pub").shows (.ident text place :: rest) = false := by
      have front : Tokens.word? (.ident text place :: rest) = some (⟨text, place⟩, rest) :=
        Tokens.word?_of_enter rfl
      simp [Sign.shows, front, hp]
    rw [Visibility.tokens, List.nil_append, visibility_of_shown rfl, shownVisibility_of_none other]
  | everywhere pub =>
    refine (visibility_of_shown rfl s).trans ((shownVisibility_of_pub rfl).trans ?_)
    exact restriction_of_none pub rfl
  | word known =>
    refine (visibility_of_shown rfl s).trans ((shownVisibility_of_pub rfl).trans ?_)
    exact restriction_word _ _ known s _
  | path plain =>
    refine (visibility_of_shown rfl s).trans ((shownVisibility_of_pub rfl).trans ?_)
    exact restriction_path _ _ _ plain s _

end Grammar

end TypedId
