/-
Requests read back from either form. `declaration_of_input`: the freestanding
form gives the declaration that was asked for. `declaration_of_item`: so do
the arguments and the struct of the attached form. Where they do not, the
crate path is to blame, and the fault is the same.
-/
import TypedId.Proofs.Inputs
import TypedId.Proofs.Requests

namespace TypedId

open Reader

/-! ## The name in quotes -/

theorem unescape_cons {c : Char} (h : c ≠ '"') (h' : c ≠ '\\') (h'' : c ≠ '\r') (rest : List Char) :
    Token.Literal.unescape (c :: rest) =
      (c :: (Token.Literal.unescape rest).1, (Token.Literal.unescape rest).2) := by
  rw [Token.Literal.unescape]
  all_goals simp_all

theorem unescape_plain {cs : List Char} (h : '"' ∉ cs) (h' : '\\' ∉ cs) (h'' : '\r' ∉ cs) :
    Token.Literal.unescape (cs ++ ['"']) = (cs, []) := by
  induction cs with
  | nil => rw [List.nil_append, Token.Literal.unescape]
  | cons c cs ih =>
    simp only [List.mem_cons, not_or] at h h' h''
    rw [List.cons_append, unescape_cons (Ne.symm h.1) (Ne.symm h'.1) (Ne.symm h''.1),
      ih h.2 h'.2 h''.2]

theorem stringValue?_quoted {name : String} (h : IsName name) :
    Token.Literal.stringValue? ("\"" ++ name ++ "\"") = some (name, "") := by
  have chars : ("\"" ++ name ++ "\"").toList = '"' :: (name.toList ++ ['"']) := by
    simp
  have apart {c : Char} (hc : c ∈ Text.plainMarks) (hne : c ≠ '#') : c ∉ name.toList :=
    Lexer.not_mem_ident h.1 hc hne
  rw [Token.Literal.stringValue?, chars]
  simp only [unescape_plain (apart (c := '"') (by decide) (by decide))
    (apart (c := '\\') (by decide) (by decide)) (apart (c := '\r') (by decide) (by decide))]
  simp

/-! ## The freestanding form -/

/-- The tokens from the comma behind the type on. -/
def Request.tail (r : Request) (w : Layout) : Tail :=
  ⟨w.afterType.joint, w.afterType.place,
    .literal ("\"" ++ r.name ++ "\"") w.name ::
      match r.options w with
      | [] => []
      | o :: os => w.afterName.token ',' :: o :: os⟩

theorem input_eq (r : Request) (w : Layout) :
    r.input w = (r.visibility ++ r.rawType) ++ (r.tail w).tokens := by
  rw [List.append_assoc]
  rfl

variable {r : Request} {v : Visibility} {t : RawType}

/-- The type is read as far as the comma behind it. -/
theorem rawType_read (h : r.Reads v t) (k : Tail) :
    ∃ us, Grammar.anyType.Takes ⟨r.rawType ++ k.tokens, none⟩ t us ⟨k.tokens, none⟩ :=
  Grammar.anyType_forward.takes
    (Grammar.anyType_stops k .top ⟨r.rawType, none⟩ t ⟨[], none⟩ h.rawType)

theorem pieces_read (h : r.Reads v t) (w : Layout) :
    run Freestanding.pieces (r.input w) = .ok {
      visibility := v
      rawType := some t
      name := some ⟨r.name, "", w.name⟩
      options := r.options w } := by
  have read : Grammar.visibility .top ⟨r.input w, none⟩ =
      .ok (v, ⟨r.rawType ++ (r.tail w).tokens, none⟩) := by
    rw [input_eq]
    exact Grammar.visibility_stops (r.tail w) .top ⟨r.visibility ++ r.rawType, none⟩ v
      ⟨r.rawType, none⟩ h.visibility
  obtain ⟨vs, visibility⟩ := Grammar.visibility_forward.takes read
  obtain ⟨us, rawType⟩ := rawType_read h (r.tail w)
  have begun := not_barren_of_anyType rawType.1
  have comma : Tokens.Comma (r.tail w).tokens (r.tail w).after :=
    ⟨w.afterType.joint, w.afterType.place, rfl⟩
  have name : Tokens.Text (r.tail w).after ⟨r.name, "", w.name⟩ _ :=
    ⟨_, rfl, stringValue?_quoted h.name⟩
  refine Freestanding.pieces_of_split (p := ⟨v, vs, t, us, ⟨r.name, "", w.name⟩, r.options w⟩)
    ⟨visibility, Tokens.not_text_of_not_barren begun, Tokens.not_comma_of_not_barren begun, rawType,
      comma, name, ?_⟩
  cases r.options w with
  | nil => exact .inl ⟨rfl, rfl⟩
  | cons o os => exact .inr ⟨w.afterName.joint, w.afterName.place, rfl⟩

/-! ## The attached form -/

/-- The option of the attached form. -/
def Request.pathOption (r : Request) (w : Layout) : Tokens :=
  match r.cratePath with
  | none => []
  | some p => w.crateOption p

theorem arguments_read (h : r.Reads v t) (w : Layout) :
    run Attached.arguments (r.arguments w) = .ok ⟨some t, r.pathOption w⟩ := by
  rw [Attached.arguments_eq_ok_iff, Request.arguments, Request.pathOption]
  match r.cratePath with
  | none =>
    obtain ⟨us, rawType⟩ := Grammar.anyType_forward.takes h.rawType
    rw [List.append_nil]
    exact ⟨us, rawType, .inl ⟨rfl, rfl⟩⟩
  | some p =>
    obtain ⟨us, rawType⟩ := rawType_read h ⟨w.afterType.joint, w.afterType.place, w.crateOption p⟩
    exact ⟨us, rawType, .inr ⟨w.afterType.joint, w.afterType.place, rfl⟩⟩

/-- The attribute that lists the traits. -/
def Layout.deriveAttribute (w : Layout) (l : TraitList) : Attribute where
  hash := w.hash.place
  bang := none
  bracket := w.brackets
  path := .ofIdent ⟨"derive", w.deriveWord⟩
  body := .list .parenthesis l.tokens w.parens

def Request.attributes (r : Request) (w : Layout) : List Attribute :=
  match r.traits with
  | none => []
  | some l => [w.deriveAttribute l]

theorem outerAttribute_read (g : Grammar) (w : Layout) (l : TraitList) (rest : Tokens) :
    Grammar.outerAttribute g .top
        ⟨w.hash.token '#' :: .group .bracket (w.traitOption l) w.brackets :: rest, none⟩ =
      .ok (w.deriveAttribute l, ⟨rest, none⟩) := by
  have content : Grammar.attributeContent g ⟨w.brackets.closing, .bracket⟩
      ⟨w.traitOption l, none⟩ =
      .ok ((.ofIdent ⟨"derive", w.deriveWord⟩, .list .parenthesis l.tokens w.parens),
        ⟨[], none⟩) := by
    rfl
  have hash : operator "#" .top
      ⟨w.hash.token '#' :: .group .bracket (w.traitOption l) w.brackets :: rest, none⟩ =
      .ok ([.punct '#' false w.hash.place],
        ⟨.group .bracket (w.traitOption l) w.brackets :: rest, none⟩) := rfl
  rw [Grammar.outerAttribute, bind_apply, hash]
  simp only [bind_apply, group_read content .top rest, Tokens.span_singleton]
  rfl

/-- The struct without its attribute and visibility. -/
def Request.struct (r : Request) (w : Layout) : Tokens :=
  [.ident "struct" w.structWord, .ident r.name w.name, w.semicolon.token ';']

theorem shows_hash_of_ident {ts rest : Tokens} {i : Ident} (h : ts.enter = i.token :: rest) :
    (Sign.operator "#").shows ts = false := by
  have hc : "#".toList = ['#'] := rfl
  rw [Sign.shows, hc, Tokens.operator?, Tokens.mark?, h]
  rfl

theorem outerAttributes_read (g : Grammar) (h : r.Reads v t) (w : Layout) :
    Grammar.outerAttributes g .top ⟨r.item w, none⟩ =
      .ok (r.attributes w, ⟨r.visibility ++ r.struct w, none⟩) := by
  obtain ⟨i, rest, front⟩ := Grammar.enter_visibility_append h.visibility "struct" w.structWord
    [.ident r.name w.name, w.semicolon.token ';']
  have noHash : (Sign.operator "#").shows (r.visibility ++ r.struct w) = false :=
    shows_hash_of_ident front
  have last (read : List Attribute) : Ends (fun read => do
      if ← peek (.operator "#") then return .again (read ++ [← Grammar.outerAttribute g])
      else return .done read) .top 1 read ⟨r.visibility ++ r.struct w, none⟩
      (.ok (read, ⟨r.visibility ++ r.struct w, none⟩)) := by
    refine .done ?_
    rw [bind_apply, peek, look, noHash]
    rfl
  rw [Grammar.outerAttributes, whileM, Request.item, Request.attributes]
  cases r.traits with
  | none => exact loop_of_ends (last []) (Nat.le_add_left _ _)
  | some l =>
    refine loop_of_ends (.again ?_ (last _)) (Nat.succ_le_succ ?_)
    · rw [List.cons_append, List.cons_append, List.nil_append, bind_apply]
      have hash (rest : Tokens) : peek (.operator "#") .top ⟨w.hash.token '#' :: rest, none⟩ =
        .ok (true, ⟨w.hash.token '#' :: rest, none⟩) := rfl
      simp only [hash, if_true, bind_apply, outerAttribute_read]
      rfl
    · exact Nat.le_trans (Nat.le_add_right 1 _) (Nat.le_of_eq rfl)

theorem structBody_read (g : Grammar) (m : Mark) :
    Grammar.structBody g .top ⟨[m.token ';'], none⟩ =
      .ok ((none, [], [.punct ';' false m.place]), ⟨[], none⟩) := by
  rfl

theorem generics_read (g : Grammar) (m : Mark) :
    Grammar.generics g .top ⟨[m.token ';'], none⟩ = .ok (⟨0, []⟩, ⟨[m.token ';'], none⟩) := by
  rfl

theorem showsFunction_read (r : Request) (w : Layout) :
    Grammar.showsFunction false .top ⟨r.struct w, none⟩ = .ok (false, ⟨r.struct w, none⟩) := by
  rfl

/-- The struct as it is read. -/
def Request.structItem (r : Request) (v : Visibility) (w : Layout) : StructItem where
  attributes := r.attributes w
  visibility := v
  name := ⟨r.name, w.name⟩
  generics := ⟨0, []⟩
  whereClause := none
  fields := []

theorem visibility_read (h : r.Reads v t) (w : Layout) :
    Grammar.visibility .top ⟨r.visibility ++ r.struct w, none⟩ = .ok (v, ⟨r.struct w, none⟩) :=
  Grammar.visibility_append h.visibility (by decide)
    [.ident r.name w.name, w.semicolon.token ';']

theorem itemForm_read (h : r.Reads v t) (w : Layout) :
    Grammar.itemForm .top ⟨r.visibility ++ r.struct w, none⟩ =
      .ok (.struct, ⟨r.struct w, none⟩) := by
  rw [Grammar.itemForm, bind_apply, visibility_read h]
  simp only [bind_apply, showsFunction_read]
  rfl

theorem structItem_read (g : Grammar) (h : r.Reads v t) (w : Layout) :
    ∃ ts, Grammar.structItem g (r.attributes w) .top ⟨r.visibility ++ r.struct w, none⟩ =
      .ok (.struct (r.structItem v w) ts, ⟨[], none⟩) := by
  have name : identifier .top ⟨[.ident r.name w.name, w.semicolon.token ';'], none⟩ =
      .ok (⟨r.name, w.name⟩, ⟨[w.semicolon.token ';'], none⟩) := by
    have front : Tokens.word? [.ident r.name w.name, w.semicolon.token ';'] =
        some (⟨r.name, w.name⟩, [w.semicolon.token ';']) := rfl
    rw [identifier, front]
    simp only [h.name.2, Bool.false_eq_true, if_false]
  have struct : keyword "struct" .top ⟨r.struct w, none⟩ =
      .ok ([.ident "struct" w.structWord],
        ⟨[.ident r.name w.name, w.semicolon.token ';'], none⟩) := rfl
  rw [Grammar.structItem, bind_apply, visibility_read h]
  simp only [bind_apply, struct, name, generics_read, structBody_read]
  exact ⟨_, rfl⟩

theorem item_read (h : r.Reads v t) (w : Layout) :
    ∃ ts, run Grammar.anyItem (r.item w) = .ok (.struct (r.structItem v w) ts) := by
  obtain ⟨ts, read⟩ :=
    structItem_read (Grammar.deep ((Cursor.mk (r.item w) none).weight + 1)) h w
  refine ⟨ts, ?_⟩
  rw [run, runIn, Grammar.anyItem, Grammar.whole, Grammar.itemOnce, bind_apply,
    outerAttributes_read _ h w]
  simp only [Grammar.itemBehind, bind_apply, ahead, itemForm_read h, read]
  rfl

/-! ## The declaration -/

/-- What is asked for, with its parts read. -/
def Request.declaration (r : Request) (v : Visibility) (t : RawType) (path : Option Path)
    (form : Form) (w : Layout) : Declaration where
  name := ⟨r.name, w.name⟩
  rawType := t
  capabilities := r.capabilities
  visibility := v
  attributes := []
  form := form
  cratePath := path

/-- The freestanding form is read as what was asked for. -/
theorem declaration_of_input (h : r.Reads v t) (w : Layout) :
    Freestanding.parse (r.input w) =
      (r.pathRead.map fun path => r.declaration v t path .freestanding w).mapError
        Report.ofFault := by
  rw [Freestanding.parse, pieces_read h w]
  show Freestanding.Pieces.declaration _ = _
  rw [Freestanding.Pieces.declaration, options_read]
  cases r.pathRead <;> rfl

theorem splitDerives_read (r : Request) (w : Layout) :
    splitDerives (r.attributes w) = .ok (r.capabilities, []) := by
  rw [splitDerives_eq_ok_iff, Request.attributes, Request.capabilities]
  cases r.traits with
  | none => exact ⟨⟨[], .nil, rfl⟩, rfl⟩
  | some l =>
    have lists : (w.deriveAttribute l).Lists (l.first.path :: l.others.map fun q => q.2.path) :=
      ⟨.parenthesis, l.tokens, w.parens, rfl, l.shown⟩
    refine ⟨⟨[_], .cons lists .nil, ?_⟩, rfl⟩
    simp [TraitList.capabilities]

/-- The attached form is read as the same. -/
theorem declaration_of_item (h : r.Reads v t) (w : Layout) :
    Attached.parse (r.arguments w) (r.item w) =
      (r.pathRead.map fun path => r.declaration v t path .attached w).mapError Report.ofFault := by
  obtain ⟨ts, item⟩ := item_read h w
  have options : Options.ofTokens .crateOnly (r.pathOption w) =
      r.pathRead.map fun path => ⟨[], path⟩ := by
    rw [Request.pathOption, Request.pathRead]
    cases r.cratePath with
    | none => rfl
    | some p => exact (crateOption_read .crateOnly w p).trans (map_crateRead [] p)
  rw [Attached.parse, arguments_read h w, item]
  show Attached.declaration ⟨some t, r.pathOption w⟩ (.struct (r.structItem v w) ts) = _
  have target : Attached.fillable (.struct (r.structItem v w) ts) = .ok (r.structItem v w) := rfl
  have derives : splitDerives (r.structItem v w).attributes = .ok (r.capabilities, []) :=
    splitDerives_read r w
  simp only [Attached.declaration, options, target, Option.isSome_some, if_true]
  cases r.pathRead <;>
    simp only [Except.map, Except.mapError, Diagnostics.check, derives] <;> rfl

end TypedId
