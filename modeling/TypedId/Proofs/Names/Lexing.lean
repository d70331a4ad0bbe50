/-
Identifiers and their texts. `lex_of_isIdent`: a text that is an identifier as
it stands is lexed as one token of that text. `isLexed_of_lex`: whatever the
text, an identifier that lexing finds in it is an identifier as it stands.
`lex_of_isAllBlank`: there is none in a text of blanks.
-/
import Mathlib.Data.List.TakeWhile
import Mathlib.Tactic.SplitIfs
import TypedId.Token.Lexer
import TypedId.Token.Sign

namespace TypedId

open Text

/-- The text is an identifier as it stands, raw or not. -/
def IsIdent (text : String) : Prop := Lexer.ident? text.toList = some (text.toList, [])

instance (text : String) : Decidable (IsIdent text) :=
  inferInstanceAs (Decidable (_ = _))

/-! ## The characters of identifiers -/

namespace Text

/-- No code point lies in both. -/
def Ranges.apart (a b : Ranges) : Bool :=
  a.all fun r => b.all fun q => Nat.blt r.2 q.1 || Nat.blt q.2 r.1

theorem Ranges.not_has_of_apart {a b : Ranges} (h : a.apart b = true) {c : Char}
    (hc : a.has c = true) : b.has c = false := by
  simp only [has, List.any_eq_true, Bool.and_eq_true, decide_eq_true_eq] at hc
  obtain ⟨r, hr, hlo, hhi⟩ := hc
  rw [has, List.any_eq_false]
  intro q hq
  have parted := List.all_eq_true.mp (List.all_eq_true.mp h r hr) q hq
  simp only [Bool.or_eq_true, Nat.blt_eq] at parted
  simp only [Bool.and_eq_true, decide_eq_true_eq]
  omega

/-- The characters that blanks, marks, quotes and delimiters are made of in ASCII. -/
def plainMarks : List Char := "\"'\\\r\n#/()[]\x7b\x7d~!@$%^&*-=+|;:,<.>? ".toList

def asciiRanges : Ranges := [(0x0, 0x7f)]

theorem plainMarks_ascii :
    (plainMarks.all fun c => asciiRanges.has c && !(c == '_' || c.isAlpha || c.isDigit)) = true := by
  decide

theorem ascii_apart_tables : asciiRanges.apart (startRanges ++ continueRanges) = true := by
  decide +kernel

/-- The tables of identifier characters leave ASCII out, so the marks are looked up in none. -/
theorem not_isIdentContinue {c : Char} (h : c ∈ plainMarks) : isIdentContinue c = false := by
  have mark := List.all_eq_true.mp plainMarks_ascii c h
  simp only [Bool.and_eq_true, Bool.not_eq_true', Bool.or_eq_false_iff] at mark
  obtain ⟨ascii, ⟨underscore, alpha⟩, digit⟩ := mark
  have tables := Ranges.not_has_of_apart ascii_apart_tables ascii
  rw [Ranges.has_append, Bool.or_eq_false_iff] at tables
  rw [isIdentContinue, isIdentStart, underscore, alpha, digit, tables.1, tables.2]
  rfl

theorem not_isIdentStart {c : Char} (h : c ∈ plainMarks) : isIdentStart c = false := by
  have := not_isIdentContinue h
  simp only [isIdentContinue, Bool.or_eq_false_iff] at this
  exact this.1.1

/-- All characters that can open an identifier, ASCII included. -/
def openingRanges : Ranges := [(0x41, 0x5a), (0x5f, 0x5f), (0x61, 0x7a)] ++ startRanges

theorem has_of_isIdentStart {c : Char} (h : isIdentStart c = true) :
    openingRanges.has c = true := by
  simp only [isIdentStart, Bool.or_eq_true, beq_iff_eq] at h
  rw [openingRanges, Ranges.has_append, Bool.or_eq_true]
  rcases h with (rfl | h) | h
  · exact .inl (by decide)
  · refine .inl ?_
    simp only [Ranges.has, List.any_cons, List.any_nil, Bool.or_eq_true, Bool.and_eq_true,
      decide_eq_true_eq, Char.toNat, Bool.or_false]
    rcases Bool.or_eq_true_iff.mp h with upper | lower
    · obtain ⟨lo, hi⟩ := of_decide_eq_true upper
      exact .inl ⟨UInt32.le_iff_toNat_le.mp lo, UInt32.le_iff_toNat_le.mp hi⟩
    · obtain ⟨lo, hi⟩ := Bool.and_eq_true_iff.mp lower
      exact .inr (.inr ⟨UInt32.le_iff_toNat_le.mp (of_decide_eq_true lo),
        UInt32.le_iff_toNat_le.mp (of_decide_eq_true hi)⟩)
  · exact .inr h

/-- Neither blanks nor digits open an identifier. -/
theorem opening_apart :
    openingRanges.apart (blankRanges ++ ([(0x200e, 0x200f)] ++ [(0x30, 0x39)])) = true := by
  decide +kernel

theorem not_isTokenBlank {c : Char} (h : isIdentStart c = true) : isTokenBlank c = false := by
  have none := Ranges.not_has_of_apart opening_apart (has_of_isIdentStart h)
  simp only [Ranges.has_append, Bool.or_eq_false_iff] at none
  simp only [isTokenBlank, isBlank, Bool.or_eq_false_iff, beq_eq_false_iff_ne]
  refine ⟨⟨none.1, ?_⟩, ?_⟩
  · rintro rfl
    exact absurd none.2.1 (by decide)
  · rintro rfl
    exact absurd none.2.1 (by decide)

theorem not_isDigit {c : Char} (h : isIdentStart c = true) : c.isDigit = false := by
  have none := Ranges.not_has_of_apart opening_apart (has_of_isIdentStart h)
  simp only [Ranges.has_append, Bool.or_eq_false_iff] at none
  rw [← Bool.not_eq_true]
  intro digit
  simp only [Char.isDigit, Bool.and_eq_true, decide_eq_true_eq, ge_iff_le,
    UInt32.le_iff_toNat_le] at digit
  have inside : Ranges.has [(0x30, 0x39)] c = true := by
    simp only [Ranges.has, List.any_cons, List.any_nil, Bool.and_eq_true, decide_eq_true_eq,
      Char.toNat, Bool.or_false]
    exact digit
  rw [none.2.2] at inside
  cases inside

end Text

/-! ## Reading an identifier -/

namespace Lexer

/-- A word is a word by itself. -/
theorem word?_whole {text w rest : List Char} (h : word? text = some (w, rest)) :
    text = w ++ rest ∧ word? w = some (w, []) := by
  match text with
  | [] => cases h
  | c :: cs =>
    rw [word?] at h
    by_cases hs : isIdentStart c = true
    · rw [if_pos hs] at h
      cases h
      have all : ∀ d ∈ cs.takeWhile isIdentContinue, isIdentContinue d = true := fun d hd =>
        List.mem_takeWhile_imp hd
      refine ⟨by simp [List.takeWhile_append_dropWhile], ?_⟩
      rw [word?, if_pos hs, List.takeWhile_eq_self_iff.mpr all, List.dropWhile_eq_nil_iff.mpr all]
    · rw [if_neg hs] at h
      cases h

theorem word?_chars {w : List Char} (h : word? w = some (w, [])) :
    ∃ c cs, w = c :: cs ∧ isIdentStart c = true ∧ ∀ d ∈ w, isIdentContinue d = true := by
  match w with
  | [] => cases h
  | c :: cs =>
    rw [word?] at h
    by_cases hs : isIdentStart c = true
    · rw [if_pos hs, Option.some.injEq, Prod.mk.injEq, List.dropWhile_eq_nil_iff] at h
      refine ⟨c, cs, rfl, hs, ?_⟩
      rw [List.forall_mem_cons]
      exact ⟨isIdentContinue_of_isIdentStart hs, h.2⟩
    · rw [if_neg hs] at h
      cases h

theorem begins_raw_iff {text : List Char} :
    begins "r#" text = true ↔ ∃ rest, text = 'r' :: '#' :: rest := by
  have hr : "r#".toList = ['r', '#'] := rfl
  rw [begins, hr]
  constructor
  · intro h
    obtain ⟨rest, hrest⟩ := List.isPrefixOf_iff_prefix.mp h
    exact ⟨rest, hrest.symm⟩
  · rintro ⟨rest, rfl⟩
    exact List.isPrefixOf_iff_prefix.mpr ⟨rest, rfl⟩

/-- An identifier is a word, or the mark of a raw one and a word that may be raw. -/
theorem ident?_eq_some_iff {text w rest : List Char} :
    ident? text = some (w, rest) ↔
      (begins "r#" text = false ∧ word? text = some (w, rest)) ∨
      ∃ w' text', text = 'r' :: '#' :: text' ∧ word? text' = some (w', rest) ∧
        neverRaw.contains (String.ofList w') = false ∧ w = 'r' :: '#' :: w' := by
  by_cases hb : begins "r#" text = true
  · obtain ⟨text', rfl⟩ := begins_raw_iff.mp hb
    rw [ident?, if_pos hb, List.drop_succ_cons, List.drop_succ_cons, List.drop_zero]
    constructor
    · intro h
      cases hw : word? text' with
      | none => rw [hw] at h; cases h
      | some r =>
        obtain ⟨w', rest'⟩ := r
        rw [hw, Option.bind_eq_bind, Option.bind_some] at h
        by_cases hn : neverRaw.contains (String.ofList w') = true
        · simp only [hn, if_true] at h
          cases h
        · rw [Bool.not_eq_true] at hn
          simp only [hn, Bool.false_eq_true, if_false] at h
          cases h
          exact .inr ⟨w', text', rfl, hw, hn, rfl⟩
    · rintro (⟨hn, -⟩ | ⟨w', text'', htext, hw, hn, rfl⟩)
      · rw [hb] at hn
        cases hn
      · cases htext
        rw [hw, Option.bind_eq_bind, Option.bind_some]
        simp only [hn, Bool.false_eq_true, if_false]
  · rw [ident?, if_neg hb]
    rw [Bool.not_eq_true] at hb
    constructor
    · exact fun h => .inl ⟨hb, h⟩
    · rintro (⟨-, h⟩ | ⟨w', text', rfl, -⟩)
      · exact h
      · exact absurd (begins_raw_iff.mpr ⟨text', rfl⟩) (by rw [hb]; exact Bool.false_ne_true)

theorem ident?_whole {text w rest : List Char} (h : ident? text = some (w, rest)) :
    text = w ++ rest ∧ ident? w = some (w, []) := by
  rcases ident?_eq_some_iff.mp h with ⟨hb, hw⟩ | ⟨w', text', rfl, hw, hn, rfl⟩
  · obtain ⟨rfl, alone⟩ := word?_whole hw
    refine ⟨rfl, ident?_eq_some_iff.mpr (.inl ⟨?_, alone⟩)⟩
    rw [← Bool.not_eq_true, begins_raw_iff] at hb ⊢
    rintro ⟨w', rfl⟩
    exact hb ⟨w' ++ rest, rfl⟩
  · obtain ⟨rfl, alone⟩ := word?_whole hw
    exact ⟨rfl, ident?_eq_some_iff.mpr (.inr ⟨w', w', rfl, alone, hn, rfl⟩)⟩

/-! ## Lexing an identifier -/

theorem begins_of_head {start : String} {c : Char} (cs : List Char)
    (h : start.toList.head?.any (· != c) = true) : begins start (c :: cs) = false := by
  rw [Option.any_eq_true] at h
  obtain ⟨d, hd, hne⟩ := h
  obtain ⟨ds, hs⟩ := List.head?_eq_some_iff.mp hd
  rw [begins, hs, List.isPrefixOf, beq_eq_false_iff_ne.mpr (bne_iff_ne.mp hne), Bool.false_and]

theorem mem_of_begins {start : String} {text : List Char} (h : begins start text = true)
    {c : Char} (hc : c ∈ start.toList) : c ∈ text :=
  (List.isPrefixOf_iff_prefix.mp h).subset hc

/-- The characters of an identifier: `#` stands at most behind the `r` in front. -/
theorem ident?_chars {text : List Char} (h : ident? text = some (text, [])) :
    ∃ c cs, text = c :: cs ∧ isIdentStart c = true ∧
      ((∀ d ∈ text, isIdentContinue d = true) ∨
        c = 'r' ∧ ∃ w, cs = '#' :: w ∧ ∀ d ∈ w, isIdentContinue d = true) := by
  rcases ident?_eq_some_iff.mp h with ⟨-, hw⟩ | ⟨w', text', rfl, hw, -, hsame⟩
  · obtain ⟨c, cs, hc, hs, all⟩ := word?_chars hw
    exact ⟨c, cs, hc, hs, .inl all⟩
  · cases hsame
    obtain ⟨-, -, -, -, all⟩ := word?_chars hw
    exact ⟨'r', _, rfl, by decide, .inr ⟨rfl, _, rfl, all⟩⟩

/-- Of the ASCII marks only `#` stands in an identifier. -/
theorem not_mem_ident {text : List Char} (h : ident? text = some (text, [])) {c : Char}
    (hc : c ∈ plainMarks) (hne : c ≠ '#') : c ∉ text := by
  obtain ⟨d, cs, rfl, hs, all | ⟨rfl, w, rfl, all⟩⟩ := ident?_chars h
  · intro hm
    have := all c hm
    rw [not_isIdentContinue hc] at this
    cases this
  · intro hm
    rw [List.mem_cons, List.mem_cons] at hm
    rcases hm with rfl | rfl | hm
    · rw [not_isIdentStart hc] at hs
      cases hs
    · exact hne rfl
    · have := all c hm
      rw [not_isIdentContinue hc] at this
      cases this

theorem rawText?_none (alphabet : Token.Escape.Alphabet) {text : List Char} (h : '"' ∉ text) :
    rawText? alphabet text = none := by
  rw [rawText?]
  match hd : text.dropWhile (· == '#') with
  | [] => rfl
  | c :: rest =>
    have hc : c ≠ '"' := by
      rintro rfl
      exact h ((List.dropWhile_suffix _).subset (by rw [hd]; exact List.mem_cons_self ..))
    split
    · next heq => exact absurd (List.cons.inj heq).1 hc
    · rfl

/-- Without quotes only numbers are literals. -/
theorem literal?_of_noQuote {text : List Char} (hq : '"' ∉ text) (ha : '\x27' ∉ text) :
    literal? text = (float? text <|> integer? text) := by
  have string : string? text = none := by
    unfold string?
    split
    · next rest => exact absurd (List.mem_cons_self ..) hq
    · next rest => exact rawText?_none .text fun hm => hq (List.mem_cons_of_mem _ hm)
    · rfl
  have bytes : byteString? text = none := by
    unfold byteString?
    split
    · next rest => exact absurd (by simp) hq
    · next rest => exact rawText?_none .bytes fun hm => hq (by simp [hm])
    · rfl
  have nulFree : nulFreeString? text = none := by
    unfold nulFreeString?
    split
    · next rest => exact absurd (by simp) hq
    · next rest => exact rawText?_none .nulFree fun hm => hq (by simp [hm])
    · rfl
  have byte : byte? text = none := by
    unfold byte?
    split
    · next rest => exact absurd (by simp) ha
    · rfl
  have character : character? text = none := by
    unfold character?
    split
    · next rest => exact absurd (by simp) ha
    · rfl
  rw [literal?, string, bytes, nulFree, byte, character]
  rfl

theorem float?_ident {c : Char} (cs : List Char) (h : isIdentStart c = true) :
    float? (c :: cs) = none := by
  rw [float?, not_isDigit h]
  rfl

theorem ten_le_hexDigit? {c : Char} (h : isIdentStart c = true) {d : Nat}
    (hd : hexDigit? c = some d) : ¬ d < 10 := by
  have hn : ¬ (decide ('0' ≤ c) && decide (c ≤ '9')) = true := by
    intro hr
    rw [Bool.and_eq_true, decide_eq_true_eq, decide_eq_true_eq] at hr
    have digit : c.isDigit = true := by
      rw [Char.isDigit, Bool.and_eq_true, decide_eq_true_eq, decide_eq_true_eq]
      exact hr
    rw [not_isDigit h] at digit
    cases digit
  rw [hexDigit?, if_neg hn] at hd
  split at hd
  · cases hd; omega
  · split at hd
    · cases hd; omega
    · cases hd

theorem integer?_ident {c : Char} (cs : List Char) (h : isIdentStart c = true) :
    integer? (c :: cs) = none := by
  have hz : c ≠ '0' := by
    rintro rfl
    exact absurd (not_isDigit h) (by decide)
  have hb : ∀ start : String, start.toList.head? = some '0' → begins start (c :: cs) = false := by
    intro start hs
    exact begins_of_head cs (by rw [hs]; simpa using hz.symm)
  have digits : digits? 10 true (c :: cs) = none := by
    rw [digits?]
    by_cases hu : c = '_'
    · rw [hu]; rfl
    · rw [if_neg (by simpa using hu)]
      cases hd : hexDigit? c with
      | none => rfl
      | some d =>
        simp only [ten_le_hexDigit? h hd, if_false, not_isDigit h, Bool.false_eq_true, if_true]
  rw [integer?, hb "0x" rfl, hb "0o" rfl, hb "0b" rfl]
  simp only [Bool.false_eq_true, if_false, digits]
  rfl

theorem literal?_ident {text : List Char} (h : ident? text = some (text, [])) :
    literal? text = none := by
  rw [literal?_of_noQuote (not_mem_ident h (by decide) (by decide))
    (not_mem_ident h (by decide) (by decide))]
  obtain ⟨c, cs, rfl, hs, -⟩ := ident?_chars h
  rw [float?_ident cs hs, integer?_ident cs hs]
  rfl

theorem punct?_ident {c : Char} (cs : List Char) (h : isIdentStart c = true) :
    punct? (c :: cs) = none := by
  have noMark : mark? (c :: cs) = none := by
    unfold mark?
    split
    · rfl
    · rfl
    · next c' rest _ _ heq =>
      cases heq
      have apart : isMark c = false := by
        rw [← Bool.not_eq_true]
        intro hm
        rw [isMark, List.contains_iff_mem] at hm
        have marks : "~!@#$%^&*-=+|;:,<.>/?'".toList.all plainMarks.contains = true := by
          decide
        have plain := List.contains_iff_mem.mp (List.all_eq_true.mp marks c hm)
        rw [not_isIdentStart plain] at h
        cases h
      rw [if_neg (by rw [apart]; exact Bool.false_ne_true)]
    · next heq => cases heq
  rw [punct?, noMark]
  rfl

theorem literalStarts_hash : ∀ start ∈ literalStarts, '"' ∉ start.toList →
    '\x27' ∉ start.toList → start = "r##" ∨ start = "br#" ∨ start = "cr#" := by
  decide

theorem literalStarts_ident {text : List Char} (h : ident? text = some (text, [])) :
    literalStarts.any (begins · text) = false := by
  rw [List.any_eq_false]
  intro start hm hb
  have raw := literalStarts_hash start hm
    (fun hq => not_mem_ident h (by decide) (by decide) (mem_of_begins hb hq))
    (fun ha => not_mem_ident h (by decide) (by decide) (mem_of_begins hb ha))
  obtain ⟨c, cs, rfl, hs, all | ⟨rfl, w, rfl, all⟩⟩ := ident?_chars h
  · have hash : '#' ∈ c :: cs := mem_of_begins hb (by rcases raw with rfl | rfl | rfl <;> decide)
    have := all '#' hash
    rw [not_isIdentContinue (by decide)] at this
    cases this
  · rcases raw with rfl | rfl | rfl
    · have prefixed : ['r', '#', '#'] <+: 'r' :: '#' :: w := List.isPrefixOf_iff_prefix.mp hb
      obtain ⟨rest, hrest⟩ := prefixed
      cases hrest
      have := all '#' (List.mem_cons_self ..)
      rw [not_isIdentContinue (by decide)] at this
      cases this
    · rw [begins_of_head _ rfl] at hb
      cases hb
    · rw [begins_of_head _ rfl] at hb
      cases hb

theorem not_slash {c : Char} (h : isIdentStart c = true) : ('/' != c) = true := by
  rw [bne_iff_ne]
  rintro rfl
  rw [not_isIdentStart (by decide)] at h
  cases h

theorem plainComment?_of_head {c : Char} (cs : List Char) (h : ('/' != c) = true) :
    plainComment? (c :: cs) = none := by
  have slash : ∀ start : String, start.toList.head? = some '/' → begins start (c :: cs) = false :=
    fun start hs => begins_of_head cs (by rw [hs]; exact h)
  rw [plainComment?, slash "//" rfl, slash "/**/" rfl, slash "/*" rfl]
  rfl

theorem docComment?_of_head {c : Char} (cs : List Char) (h : ('/' != c) = true) :
    docComment? (c :: cs) = none := by
  have slash : ∀ start : String, start.toList.head? = some '/' → begins start (c :: cs) = false :=
    fun start hs => begins_of_head cs (by rw [hs]; exact h)
  rw [docComment?, slash "//!" rfl, slash "/*!" rfl, slash "///" rfl, slash "/**" rfl]
  rfl

theorem skipBlank_ident {c : Char} (cs : List Char) (h : isIdentStart c = true) :
    skipBlank (c :: cs) = c :: cs := by
  rw [skipBlank, plainComment?_of_head cs (not_slash h)]
  simp only [not_isTokenBlank h, Bool.false_eq_true, if_false]

theorem lexeme?_ident {text : List Char} (h : ident? text = some (text, []))
    (place : List Char → Span) (taken : List Char → String) :
    lexeme? place taken text = some (.leaf [.ident (String.ofList text) (place [])], []) := by
  have leaf : lexeme?.leaf place taken text =
      some (.leaf [.ident (String.ofList text) (place [])], []) := by
    have literal := literal?_ident h
    have starts := literalStarts_ident h
    obtain ⟨c, cs, rfl, hs, -⟩ := ident?_chars h
    rw [lexeme?.leaf, literal, punct?_ident cs hs, starts, h]
    rfl
  obtain ⟨c, cs, rfl, hs, -⟩ := ident?_chars h
  have apart : ∀ d ∈ plainMarks, (c == d) = false := by
    intro d hd
    rw [beq_eq_false_iff_ne]
    rintro rfl
    rw [not_isIdentStart hd] at hs
    cases hs
  rw [lexeme?, docComment?_of_head cs (not_slash hs)]
  simp only [apart '(' (by decide), apart '[' (by decide), apart '\x7b' (by decide),
    apart ')' (by decide), apart ']' (by decide), apart '\x7d' (by decide), Bool.false_and,
    Bool.false_eq_true, if_false]
  exact leaf

theorem skipBlank_of_blank {text : List Char} (h : text.all isBlank = true) :
    skipBlank text = [] := by
  induction text with
  | nil =>
    rw [skipBlank]
    rfl
  | cons c cs ih =>
    rw [List.all_cons, Bool.and_eq_true] at h
    have noSlash : ('/' != c) = true := by
      rw [bne_iff_ne]
      rintro rfl
      exact absurd h.1 (by decide)
    rw [skipBlank, plainComment?_of_head cs noSlash]
    simp only [isTokenBlank_of_isBlank h.1, if_true, ih h.2]

theorem lexemes?_of_blank {text : List Char} (h : text.all isBlank = true) (source : String)
    (pos : Position) : lexemes? source pos text = some [] := by
  rw [lexemes?, skipBlank_of_blank h]
  rfl

/-- An identifier that stands alone is one token. -/
theorem lexemes?_ident {text : List Char} (h : ident? text = some (text, [])) (source : String)
    (pos : Position) :
    ∃ place, lexemes? source pos text = some [.leaf [.ident (String.ofList text) place]] := by
  have lexeme := lexeme?_ident h
  have behind (pos : Position) : lexemes? source pos [] = some [] := lexemes?_of_blank rfl source pos
  obtain ⟨c, cs, rfl, hs, -⟩ := ident?_chars h
  rw [lexemes?, skipBlank_ident cs hs]
  simp only [lexeme, List.isEmpty_cons, Bool.false_eq_true, if_false, Option.bind_eq_bind,
    Option.bind_some, List.length_nil, List.length_cons, Nat.zero_lt_succ, if_true, behind]
  exact ⟨_, rfl⟩

end Lexer

/-- **Identifiers are single tokens.** A text that is an identifier as it stands is lexed as one
token of that text. -/
theorem lex_of_isIdent {text : String} (h : IsIdent text) (source : String) :
    ∃ place, Lexer.lex source text = some [.ident text place] := by
  have lexemes := Lexer.lexemes?_ident h source .start
  obtain ⟨c, cs, hc, hs, -⟩ := Lexer.ident?_chars h
  have noMark : c ≠ '\ufeff' := by
    rintro rfl
    exact absurd hs (by decide +kernel)
  obtain ⟨place, hp⟩ := lexemes
  refine ⟨place, ?_⟩
  rw [Lexer.lex]
  split
  · next heq => exact absurd (List.cons.inj (hc.symm.trans heq)).1 noMark
  · rw [hp, Option.bind_eq_bind, Option.bind_some]
    simp [Lexer.nest?]

/-- Blanks alone are no tokens. -/
theorem lex_of_isAllBlank {text : String} (h : isAllBlank text = true) (source : String) :
    Lexer.lex source text = some [] := by
  have none (pos : Position) : Lexer.lexemes? source pos text.toList = some [] :=
    Lexer.lexemes?_of_blank h source pos
  rw [Lexer.lex]
  split
  · next rest heq =>
    rw [isAllBlank, heq, List.all_cons, Bool.and_eq_true] at h
    exact absurd h.1 (by decide)
  · rw [none]
    rfl

/-! ## What lexing gives -/

/-- A property that tokens get in lexing: leaves have it, where identifiers are such as they stand,
and groups with written delimiters have it if all in them does. -/
structure Token.Lexical (P : Token → Prop) : Prop where
  ident : ∀ text place, IsIdent text → P (.ident text place)
  punct : ∀ c joint place, P (.punct c joint place)
  literal : ∀ text place, P (.literal text place)
  group : ∀ d content place, d ≠ .invisible → (∀ t ∈ content, P t) → P (.group d content place)

namespace Lexer

variable {P : Token → Prop}

def Lexeme.All (P : Token → Prop) : Lexeme → Prop
  | .opening d _ => d ≠ .invisible
  | .closing _ _ => True
  | .leaf tokens => ∀ t ∈ tokens, P t

def Frame.All (P : Token → Prop) (f : Frame) : Prop := f.delimiter ≠ .invisible ∧ ∀ t ∈ f.before, P t

theorem docAttribute_all (h : Token.Lexical P) (place : Span) (inner : Bool) (content : String) :
    (Lexeme.leaf (docAttribute place inner content)).All P := by
  have doc : IsIdent "doc" := by decide
  have group := h.group .bracket [.ident "doc" place, .punct '=' false place,
    .literal (stringLiteral content) place] place (by decide)
    (by simp [h.ident _ _ doc, h.punct, h.literal])
  cases inner <;> simp [Lexeme.All, docAttribute, h.punct, group]

theorem leaf_all (h : Token.Lexical P) {place : List Char → Span} {taken : List Char → String}
    {text : List Char} {l : Lexeme} {rest : List Char}
    (hl : lexeme?.leaf place taken text = some (l, rest)) : l.All P := by
  rw [lexeme?.leaf] at hl
  split at hl
  · cases hl
    simp [Lexeme.All, h.literal]
  · split at hl
    · cases hl
      simp [Lexeme.All, h.punct]
    · split at hl
      · cases hl
      · split at hl
        · next w rest' hw =>
          cases hl
          refine List.forall_mem_singleton.mpr (h.ident _ _ ?_)
          rw [IsIdent, String.toList_ofList]
          exact (ident?_whole hw).2
        · split at hl
          · cases hl
            simp [Lexeme.All, h.literal]
          · cases hl

theorem lexeme?_all (h : Token.Lexical P) {place : List Char → Span} {taken : List Char → String}
    {text : List Char} {l : Lexeme} {rest : List Char}
    (hl : lexeme? place taken text = some (l, rest)) : l.All P := by
  unfold lexeme? at hl
  split at hl
  · cases hl
    exact docAttribute_all h _ _ _
  · split at hl
    · cases hl
    · split_ifs at hl
      all_goals first
        | exact leaf_all h hl
        | (cases hl; simp [Lexeme.All])

theorem lexemes?_all (hP : Token.Lexical P) {source : String} {pos : Position} {text : List Char}
    {ls : List Lexeme} (h : lexemes? source pos text = some ls) : ∀ l ∈ ls, l.All P := by
  fun_induction lexemes? source pos text generalizing ls with
  | case1 =>
    cases h
    simp
  | case2 pos text front hne here taken =>
    rename_i ih
    obtain ⟨⟨l, rest⟩, hl, h⟩ := Option.bind_eq_some_iff.mp h
    dsimp only at h
    by_cases shorter : rest.length < text.length
    · rw [if_pos shorter] at h
      obtain ⟨others, ho, h⟩ := Option.bind_eq_some_iff.mp h
      cases h
      rw [List.forall_mem_cons]
      exact ⟨lexeme?_all hP hl, ih rest shorter ho⟩
    · rw [if_neg shorter] at h
      cases h

theorem nest?_all (hP : Token.Lexical P) {frames : List Frame} {current : Tokens}
    {ls : List Lexeme} {ts : Tokens} (h : nest? frames current ls = some ts)
    (hl : ∀ l ∈ ls, l.All P) (hf : ∀ f ∈ frames, f.All P) (hc : ∀ t ∈ current, P t) :
    ∀ t ∈ ts, P t := by
  fun_induction nest? frames current ls with
  | case1 current =>
    cases h
    intro t ht
    exact hc t (List.mem_reverse.mp ht)
  | case2 => cases h
  | case3 frames current tokens rest ih =>
    rw [List.forall_mem_cons] at hl
    refine ih h hl.2 hf ?_
    intro t ht
    rcases List.mem_append.mp ht with ht | ht
    · exact hl.1 t (List.mem_reverse.mp ht)
    · exact hc t ht
  | case4 frames current d place rest ih =>
    rw [List.forall_mem_cons] at hl
    refine ih h hl.2 ?_ (fun _ ht => absurd ht List.not_mem_nil)
    rw [List.forall_mem_cons]
    exact ⟨⟨hl.1, hc⟩, hf⟩
  | case5 => cases h
  | case6 current place rest frame frames ih =>
    rw [List.forall_mem_cons] at hl hf
    refine ih h hl.2 hf.2 ?_
    rw [List.forall_mem_cons]
    refine ⟨hP.group _ _ _ hf.1.1 fun t ht => ?_, hf.1.2⟩
    exact hc t (List.mem_reverse.mp ht)
  | case7 => cases h

end Lexer

theorem all_of_lex {P : Token → Prop} (hP : Token.Lexical P) {source text : String} {ts : Tokens}
    (h : Lexer.lex source text = some ts) : ∀ t ∈ ts, P t := by
  have nested : ∀ pos cs, (Lexer.lexemes? source pos cs >>= Lexer.nest? [] []) = some ts →
      ∀ t ∈ ts, P t := by
    intro pos cs hn
    obtain ⟨ls, hls, hn⟩ := Option.bind_eq_some_iff.mp hn
    exact Lexer.nest?_all hP hn (Lexer.lexemes?_all hP hls)
      (fun _ hf => absurd hf List.not_mem_nil) fun _ ht => absurd ht List.not_mem_nil
  rw [Lexer.lex] at h
  split at h <;> exact nested _ _ h

/-- What holds of a token that lexing gives: a group has written delimiters, and an identifier
is one as it stands. -/
def Token.IsLexed : Token → Prop
  | .group d _ _ => d ≠ .invisible
  | .ident text _ => IsIdent text
  | .punct .. | .literal .. => True

theorem isLexed_of_lex {source text : String} {ts : Tokens} (h : Lexer.lex source text = some ts) :
    ∀ t ∈ ts, t.IsLexed :=
  all_of_lex ⟨fun _ _ word => word, fun _ _ _ => trivial, fun _ _ => trivial,
    fun _ _ _ written _ => written⟩ h

/-- There are no invisible groups in a lexed text, so what stands in front shows. -/
theorem enter_of_isLexed {ts : Tokens} (h : ∀ t ∈ ts, t.IsLexed) : ts.enter = ts := by
  match ts with
  | [] => rfl
  | .group .invisible content place :: rest => exact absurd rfl (h _ (List.mem_cons_self ..))
  | .group .parenthesis .. :: _ | .group .bracket .. :: _ | .group .brace .. :: _ | .ident .. :: _
  | .punct .. :: _ | .literal .. :: _ => rfl

end TypedId
