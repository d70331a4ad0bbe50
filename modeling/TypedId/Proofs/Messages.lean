/-
Messages in code. Between the quotes of a literal a character is written as a
piece that `Shows` it: the lexer passes over the piece, and what is read there
is the character. Each branch of `escapeChar` writes such a piece
(`shows_escapeChar`), so by induction on the characters a literal is one token
that says the text it was made from (`isLiteralOf_stringLiteral`). With that,
a report writes one call of `compile_error` for each of its messages
(`Report.compileErrors`).
-/
import TypedId.Diagnostic
import TypedId.Proofs.Names.Lexing
import TypedId.Token.Literal

namespace TypedId

/-! ## Numbers -/

namespace Text

theorem hexNumber?_toDigits (n : Nat) : hexNumber? 0 (Nat.toDigits 16 n) = some n := by
  induction n using Nat.strongRecOn with
  | ind n ih =>
    by_cases small : n < 16
    · rw [Nat.toDigits_of_lt_base small, hexNumber?, hexDigit?_digitChar n small]
      simp [hexNumber?]
    · rw [Nat.toDigits_of_base_le (by decide) (by omega), hexNumber?_append, ih (n / 16) (by omega)]
      simp only [Option.bind_some, hexNumber?, hexDigit?_digitChar _ (Nat.mod_lt n (by decide : 0 < 16)),
        Option.some.injEq]
      omega

/-- No character has a number of more than six digits. -/
theorem length_toDigits_toNat_le (c : Char) : (Nat.toDigits 16 c.toNat).length ≤ 6 := by
  rw [Nat.length_toDigits_le_iff (by decide) (by decide)]
  have valid : c.toNat.isValidChar := c.valid
  rcases valid with h | h <;> omega

end Text

namespace Token.Escape

/-- Hexadecimal digits in braces are read to the closing brace. -/
theorem unicodeDigits_eq_some {value n digits read : Nat} {ds : List Char}
    (number : Text.hexNumber? value ds = some n) (valid : n.isValidChar)
    (any : 0 < digits + ds.length) (few : digits + ds.length ≤ 6) (rest : List Char) :
    unicodeDigits value digits read (ds ++ '\x7d' :: rest) = some (n, read + ds.length + 1) := by
  induction ds generalizing value digits read with
  | nil =>
    cases number
    have close : Text.hexDigit? '\x7d' = none := by decide
    have begun : digits ≠ 0 := by
      rw [List.length_nil] at any
      omega
    simp [unicodeDigits, close, begun, valid]
  | cons c ds ih =>
    rw [Text.hexNumber?, Option.bind_eq_some_iff] at number
    obtain ⟨d, digit, number⟩ := number
    rw [List.length_cons] at few ⊢
    have room : digits ≠ 6 := by omega
    have behind : unicodeDigits (value * 16 + d) (digits + 1) (read + 1) (ds ++ '\x7d' :: rest) =
        some (n, read + 1 + ds.length + 1) := ih number (by omega) (by omega)
    rw [List.cons_append, unicodeDigits, digit]
    simp only [room, if_false, behind]
    congr 2
    omega

theorem unicode?_toDigits (c : Char) (rest : List Char) :
    unicode? ('\x7b' :: (Nat.toDigits 16 c.toNat ++ '\x7d' :: rest)) =
      some (c.toNat, (Nat.toDigits 16 c.toNat).length + 2) := by
  have valid : c.toNat.isValidChar := c.valid
  have any : 0 < (Nat.toDigits 16 c.toNat).length := Nat.length_toDigits_pos
  have few := Text.length_toDigits_toNat_le c
  rw [unicode?, unicodeDigits_eq_some (Text.hexNumber?_toDigits _) valid (by omega) (by omega)]
  congr 2
  omega

end Token.Escape

/-! ## Pieces -/

namespace Text

open Token

/-- Between the quotes of a literal, this piece stands for this character. -/
structure Shows (piece : List Char) (c : Char) : Prop where
  passed : ∀ rest, Lexer.cooked .text (piece ++ rest) = Lexer.cooked .text rest
  read : ∀ rest, Literal.unescape (piece ++ rest) =
    (c :: (Literal.unescape rest).1, (Literal.unescape rest).2)

theorem shows_itself {c : Char} (quote : c ≠ '"') (backslash : c ≠ '\\') (line : c ≠ '\r') :
    Shows [c] c where
  passed rest := by
    rw [List.singleton_append, Lexer.cooked]
    all_goals simp_all [Lexer.allows]
  read rest := by
    rw [List.singleton_append, Literal.unescape]
    all_goals simp_all

theorem single?_simple {mark : Char} (simple : Escape.isSimple mark = true) (rest : List Char) :
    Escape.single? .text (mark :: rest) = some 1 := by
  have apart : mark ≠ 'x' ∧ mark ≠ 'u' ∧ mark ≠ '0' := by
    refine ⟨?_, ?_, ?_⟩ <;> rintro rfl <;> exact absurd simple (by decide)
  obtain ⟨hx, hu, hd⟩ := apart
  rw [Escape.single?, if_pos simple]
  · simpa using hx
  · simpa using hu
  · simpa using hd

/-- The characters that are written as a letter or a mark behind a backslash. -/
theorem shows_simple {c mark : Char} (simple : Escape.isSimple mark = true ∨ mark = '0')
    (value : Escape.simpleValue mark = c) : Shows ['\\', mark] c := by
  have apart : mark ≠ 'x' ∧ mark ≠ 'u' ∧ mark ≠ '\n' ∧ mark ≠ '\r' := by
    refine ⟨?_, ?_, ?_, ?_⟩ <;> rintro rfl <;> exact absurd simple (by decide)
  obtain ⟨hx, hu, hn, hr⟩ := apart
  refine ⟨fun rest => ?_, fun rest => ?_⟩
  · have length : Escape.inText? .text (mark :: rest) = some 1 := by
      rcases simple with simple | rfl
      · rw [Escape.inText?, single?_simple simple]
        · simpa using hn
        · simpa using hr
      · rfl
    rw [List.cons_append, List.singleton_append, Lexer.cooked, length]
    rfl
  · rw [List.cons_append, List.singleton_append, Literal.unescape, value]
    all_goals simp_all

theorem shows_nul : Shows "\\x00".toList '\x00' where
  passed rest := by
    have length : Escape.inText? .text ('x' :: '0' :: '0' :: rest) = some 3 := rfl
    rw [show "\\x00".toList ++ rest = '\\' :: 'x' :: '0' :: '0' :: rest from rfl, Lexer.cooked, length]
    rfl
  read rest := by
    rw [show "\\x00".toList ++ rest = '\\' :: 'x' :: '0' :: '0' :: rest from rfl, Literal.unescape]
    rfl

theorem shows_numbered (c : Char) : Shows (numbered c).toList c := by
  have piece (rest : List Char) : (numbered c).toList ++ rest =
      '\\' :: 'u' :: '\x7b' :: (Nat.toDigits 16 c.toNat ++ '\x7d' :: rest) := by
    simp [numbered, hexText]
  have behind (rest : List Char) :
      ('\x7b' :: (Nat.toDigits 16 c.toNat ++ '\x7d' :: rest)).drop
        ((Nat.toDigits 16 c.toNat).length + 2) = rest := by
    simp [List.drop_append]
  refine ⟨fun rest => ?_, fun rest => ?_⟩
  · have length : Escape.inText? .text
        ('u' :: '\x7b' :: (Nat.toDigits 16 c.toNat ++ '\x7d' :: rest)) =
          some ((Nat.toDigits 16 c.toNat).length + 3) := by
      rw [Escape.inText?, Escape.single?, Escape.unicode?_toDigits]
      rfl
      all_goals simp
    rw [piece, Lexer.cooked, length]
    exact congrArg (Lexer.cooked .text) (behind rest)
  · rw [piece, Literal.unescape, Escape.unicode?_toDigits]
    simp only [Option.getD_some, behind, Char.ofNat_toNat]

/-- However a character is escaped, quotes included, it is shown. -/
theorem shows_escapeChar (c : Char) : Shows (escapeChar (· == '"') c).toList c := by
  unfold escapeChar
  split
  · next h => exact eq_of_beq h ▸ shows_simple (.inr rfl) rfl
  split
  · next h => exact eq_of_beq h ▸ shows_simple (.inl rfl) rfl
  split
  · next h => exact eq_of_beq h ▸ shows_simple (.inl rfl) rfl
  · next line =>
    split
    · next h => exact eq_of_beq h ▸ shows_simple (.inl rfl) rfl
    split
    · next h => exact eq_of_beq h ▸ shows_simple (.inl rfl) rfl
    · next backslash =>
      split
      · next h => exact eq_of_beq h ▸ shows_simple (.inl rfl) rfl
      · next quote =>
        split
        · exact shows_numbered c
        · rw [String.toList_singleton]
          exact shows_itself (by simpa using quote) (by simpa using backslash) (by simpa using line)

/-! ## The whole literal -/

theorem escapeLiteral_cons (c : Char) (cs : List Char) :
    ∃ piece, Shows piece c ∧
      (escapeLiteral (c :: cs)).toList = piece ++ (escapeLiteral cs).toList := by
  rw [escapeLiteral, String.toList_append]
  split
  · next h =>
    rw [Bool.and_eq_true] at h
    exact ⟨_, eq_of_beq h.1 ▸ shows_nul, rfl⟩
  · exact ⟨_, shows_escapeChar c, rfl⟩

theorem cooked_escapeLiteral (cs rest : List Char) :
    Lexer.cooked .text ((escapeLiteral cs).toList ++ '"' :: rest) = some rest := by
  induction cs with
  | nil =>
    rw [escapeLiteral, String.toList_empty, List.nil_append, Lexer.cooked]
  | cons c cs ih =>
    obtain ⟨piece, shows, written⟩ := escapeLiteral_cons c cs
    rw [written, List.append_assoc, shows.passed, ih]

theorem unescape_escapeLiteral (cs rest : List Char) :
    Literal.unescape ((escapeLiteral cs).toList ++ '"' :: rest) = (cs, rest) := by
  induction cs with
  | nil => rw [escapeLiteral, String.toList_empty, List.nil_append, Literal.unescape]
  | cons c cs ih =>
    obtain ⟨piece, shows, written⟩ := escapeLiteral_cons c cs
    rw [written, List.append_assoc, shows.read, ih]

theorem toList_stringLiteral (text : String) :
    (stringLiteral text).toList = '"' :: ((escapeLiteral text.toList).toList ++ ['"']) := by
  simp [stringLiteral]

/-- What is written is one literal, and says this text without a suffix. -/
structure IsLiteralOf (written text : String) : Prop where
  single : ∀ source, ∃ place, Lexer.lex source written = some [.literal written place]
  value : Literal.stringValue? written = some (text, "")

theorem lexemes?_stringLiteral (text source : String) (pos : Position) :
    ∃ place, Lexer.lexemes? source pos (stringLiteral text).toList =
      some [.leaf [.literal (stringLiteral text) place]] := by
  have literal : Lexer.literal? (stringLiteral text).toList = some [] := by
    rw [toList_stringLiteral, Lexer.literal?, Lexer.string?, cooked_escapeLiteral]
    rfl
  have same : String.ofList (stringLiteral text).toList = stringLiteral text := String.ofList_toList
  rw [toList_stringLiteral] at literal same ⊢
  generalize hbody : (escapeLiteral text.toList).toList ++ ['"'] = body at literal same ⊢
  have front : Lexer.skipBlank ('"' :: body) = '"' :: body := by
    rw [Lexer.skipBlank, Lexer.plainComment?_of_head body (by decide)]
    rfl
  have lexeme (place : List Char → Span) (taken : List Char → String) :
      Lexer.lexeme? place taken ('"' :: body) = some (.leaf [.literal (taken []) (place [])], []) := by
    rw [Lexer.lexeme?, Lexer.docComment?_of_head body (by decide), Lexer.lexeme?.leaf, literal]
    rfl
  have behind (pos : Position) : Lexer.lexemes? source pos [] = some [] :=
    Lexer.lexemes?_of_blank rfl source pos
  have all : List.take (body.length + 1) ('"' :: body) = '"' :: body :=
    List.take_of_length_le (Nat.le_refl _)
  rw [Lexer.lexemes?, front]
  simp only [lexeme, List.isEmpty_cons, Bool.false_eq_true, if_false, Option.bind_eq_bind,
    Option.bind_some, List.length_nil, List.length_cons, Nat.zero_lt_succ, if_true, behind,
    Nat.sub_zero, all, same]
  exact ⟨_, rfl⟩

/-- **Literals.** A text written as a literal is one token, and what it says is the text. -/
theorem isLiteralOf_stringLiteral (text : String) : IsLiteralOf (stringLiteral text) text where
  single source := by
    obtain ⟨place, lexemes⟩ := lexemes?_stringLiteral text source .start
    refine ⟨place, ?_⟩
    rw [Lexer.lex]
    split
    · next heq =>
      rw [toList_stringLiteral] at heq
      exact absurd (List.cons.inj heq).1 (by decide)
    · rw [lexemes, Option.bind_eq_bind, Option.bind_some]
      simp [Lexer.nest?]
  value := by
    rw [Literal.stringValue?, toList_stringLiteral]
    simp only [unescape_escapeLiteral, String.ofList_toList]

end Text

/-! ## What a report writes -/

/-- The tokens call `compile_error` with these messages, once with each and in their order, and say
nothing else: `:: core :: compile_error ! { "message" }`, the message in the braces one literal. -/
inductive Tokens.CompileErrors : List String → Tokens → Prop
  | nil : CompileErrors [] []
  | cons {message : String} {messages : List String} {ts : Tokens}
      (literal : Text.IsLiteralOf (Text.stringLiteral message) message)
      (rest : CompileErrors messages ts) :
      CompileErrors (message :: messages)
        (.punct ':' true .callSite :: .punct ':' false .callSite :: .ident "core" .callSite ::
          .punct ':' true .callSite :: .punct ':' false .callSite ::
          .ident "compile_error" .callSite :: .punct '!' false .callSite ::
          .group .brace [.literal (Text.stringLiteral message) .callSite] .callSite :: ts)

theorem Diagnostic.compileErrors (ds : List Diagnostic) :
    Tokens.CompileErrors (ds.map message) (ds.flatMap tokens) := by
  induction ds with
  | nil => exact .nil
  | cons d ds ih => exact .cons (Text.isLiteralOf_stringLiteral d.message) ih

theorem Report.compileErrors (r : Report) :
    Tokens.CompileErrors (r.toList.map Diagnostic.message) r.tokens :=
  Diagnostic.compileErrors r.toList

end TypedId
