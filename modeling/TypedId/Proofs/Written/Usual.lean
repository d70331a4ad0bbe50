/-
Types and expressions as they are usually written. `Usual` is the grammar of
what they are made of, by its tokens; the induction over it
(`reads_of_usual`) carries that every part is read back where it is written,
in a grammar as deep as the part is long.
-/
import TypedId.Proofs.Written.Functions
import TypedId.Proofs.Written.Operators

namespace TypedId.Grammar

open Reader

/-- What a type or an expression is made of. -/
inductive Part where
  /-- Without `plus`, a single bound where a sum of bounds could stand. -/
  | type (plus : Bool) (ts : Tokens)
  /-- An argument in angle brackets that is no lifetime. -/
  | argument (ts : Tokens)
  | segment (x : Segment)
  /-- An input of a function type. -/
  | input (ts : Tokens)
  /-- The inputs of a function trait, or nothing. -/
  | inputs (ts : Tokens)
  | trait (relaxed : Option Span) (binder : Tokens) (p : Path) (inputs : Tokens)
  | bound (kind : BoundKind) (ts : Tokens)
  | sum (plus : Bool) (ts : Tokens)
  /-- What an operand begins with, behind its signs. -/
  | atom (ts : Tokens)
  /-- A call, an index, a question mark, or what a point leads: a field, which must not have a call
  behind it, a method or a position. -/
  | trailer (field : Bool) (ts : Tokens)
  /-- What stands between binary operators. -/
  | operand (ts : Tokens)
  | expression (ts : Tokens)

/-- What stands behind the operator of a link. -/
def Part.behind : Link → Part
  | .binary _ _ ts => .operand ts
  | .cast _ ts => .type false ts

/-- The part is written as such parts usually are. -/
inductive Usual : Part → Prop
  -- segments of paths and their arguments
  | word {i : Ident} (h : isSegmentWord i.text = true) : Usual (.segment ⟨i, .none⟩)
  | angles {i : Ident} (plain : isBareWord i.text = false)
      (known : isKeyword i.text = false ∨ i.text = "Self")
      {lifetimes others : List (Tokens × Tokens)}
      (parted : Tokens.Parted (lifetimes ++ others)) (regions : ∀ p ∈ lifetimes, p.1.IsLifetime)
      (arguments : ∀ p ∈ others, Usual (.argument p.1)) (colons : Option Span)
      (opening closing : Span) :
      Usual (.segment ⟨i, .angle (angleTokens colons opening (lifetimes ++ others) closing)
        (lifetimes ++ others).isEmpty⟩)
  | value {ts : Tokens} (h : ts.IsValue) : Usual (.argument ts)
  | typeArgument {ts : Tokens} (h : Usual (.type true ts)) : Usual (.argument ts)
  | namedValue {x : Segment} (name : isSegmentWord x.ident.text = true) (hx : Usual (.segment x))
      (binds : genericArgument.takesBinding (.path [] ⟨none, x, []⟩) = true) (equals : Span)
      {ts : Tokens} (h : ts.IsValue) : Usual (.argument (named x equals ts))
  | namedType {x : Segment} (name : isSegmentWord x.ident.text = true) (hx : Usual (.segment x))
      (binds : genericArgument.takesBinding (.path [] ⟨none, x, []⟩) = true) (equals : Span)
      {ts : Tokens} (h : Usual (.type true ts)) : Usual (.argument (named x equals ts))
  -- bounds and their sums
  | noInputs : Usual (.inputs [])
  | someInputs {items : List (Tokens × Tokens)} (parted : Tokens.Parted items)
      (h : ∀ p ∈ items, Usual (.type true p.1)) {r : Option (Span × Span × Tokens)}
      (hr : ∀ a ∈ r, Usual (.type false a.2.2)) (place : Span) :
      Usual (.inputs (.group .parenthesis (Tokens.listed items) place :: resultTokens r))
  | trait {relaxed : Option Span} {binder : Tokens} {p : Path} {inputs : Tokens}
      (isBinder : IsBinder binder) (apart : relaxed = none ∨ binder = []) (front : p.Front)
      (segments : ∀ x ∈ p.segments, Usual (.segment x)) (h : Usual (.inputs inputs))
      (bare : inputs ≠ [] → p.last.arguments = .none) : Usual (.trait relaxed binder p inputs)
  | lifetimeBound {ts : Tokens} (h : ts.IsLifetime) : Usual (.bound .lifetime ts)
  | traitBound {relaxed : Option Span} {binder : Tokens} {p : Path} {inputs : Tokens}
      (h : Usual (.trait relaxed binder p inputs)) :
      Usual (.bound .trait (traitTokens relaxed binder p inputs))
  | parensBound {relaxed : Option Span} {binder : Tokens} {p : Path} {inputs : Tokens}
      (h : Usual (.trait relaxed binder p inputs)) (place : Span) :
      Usual (.bound .trait [.group .parenthesis (traitTokens relaxed binder p inputs) place])
  | one {ts : Tokens} (h : Usual (.bound .trait ts)) : Usual (.sum false ts)
  | more {ts : Tokens} (first : Usual (.bound .trait ts)) {more : List (Span × Tokens)}
      (kind : Span × Tokens → BoundKind) (h : ∀ p ∈ more, Usual (.bound (kind p) p.2)) :
      Usual (.sum true (ts ++ summands more))
  -- types
  | infer {plus : Bool} (place : Span) : Usual (.type plus [.ident "_" place])
  | never {plus : Bool} (place : Span) : Usual (.type plus [.punct '!' false place])
  | unit {plus : Bool} (place : Span) : Usual (.type plus [.group .parenthesis [] place])
  | parens {plus : Bool} {ts : Tokens} (h : Usual (.type true ts)) (place : Span) :
      Usual (.type plus [.group .parenthesis ts place])
  | tuple {plus : Bool} {ts : Tokens} (h : Usual (.type true ts)) (comma : Span)
      {items : List (Tokens × Tokens)} (parted : Tokens.Parted items)
      (more : ∀ p ∈ items, Usual (.type true p.1)) (place : Span) :
      Usual (.type plus
        [.group .parenthesis (ts ++ .punct ',' false comma :: Tokens.listed items) place])
  | inserted {plus : Bool} {ts : Tokens} (h : Usual (.type true ts)) (place : Span) :
      Usual (.type plus [.group .invisible ts place])
  | slice {plus : Bool} {ts : Tokens} (h : Usual (.type true ts)) (place : Span) :
      Usual (.type plus [.group .bracket ts place])
  | array {plus : Bool} {ts : Tokens} (h : Usual (.type true ts)) (semicolon : Span)
      {length : Tokens} (count : Usual (.expression length)) (place : Span) :
      Usual (.type plus [.group .bracket (ts ++ .punct ';' false semicolon :: length) place])
  | pointer {plus : Bool} {ts : Tokens} (h : Usual (.type false ts)) (star : Span)
      {access : String} (known : access = "const" ∨ access = "mut") (place : Span) :
      Usual (.type plus (.punct '*' false star :: .ident access place :: ts))
  | reference {plus : Bool} {ts : Tokens} (h : Usual (.type false ts)) (mark : Span)
      {region : Tokens} (isRegion : IsRegion region) (access : Option Span) :
      Usual (.type plus (.punct '&' false mark :: (region ++ (mutability access ++ ts))))
  | dyn {plus : Bool} {ts : Tokens} (h : Usual (.sum plus ts)) (word : Span) :
      Usual (.type plus (.ident "dyn" word :: ts))
  | impl {plus : Bool} {ts : Tokens} (h : Usual (.sum plus ts)) (word : Span) :
      Usual (.type plus (.ident "impl" word :: ts))
  | path {plus : Bool} {p : Path} (front : p.Front)
      (segments : ∀ x ∈ p.segments, Usual (.segment x)) : Usual (.type plus p.tokens)
  | owned {plus : Bool} {ts : Tokens} (h : Usual (.type true ts)) {trait : Option (Span × Path)}
      (implements : ∀ t ∈ trait, ∀ x ∈ t.2.segments, Usual (.segment x)) {p : Path}
      (relative : p.absolute = none) (segments : ∀ x ∈ p.segments, Usual (.segment x))
      (opening closing colons : Span) :
      Usual (.type plus (ownerTokens opening ts trait closing colons ++ p.tokens))
  | call {plus : Bool} {ts : Tokens} (h : ts.IsCall) : Usual (.type plus ts)
  | unnamedInput {ts : Tokens} (h : Usual (.type true ts)) : Usual (.input ts)
  | namedInput {w : Ident} (known : isKeyword w.text = false ∨ w.text = "_") (colon : Span)
      {ts : Tokens} (h : Usual (.type true ts)) :
      Usual (.input (w.token :: .punct ':' false colon :: ts))
  | function {plus : Bool} {binder convention : Tokens} (isBinder : IsBinder binder)
      (safety : Option Span) (isConvention : IsConvention convention) (word : Span)
      {items : List (Tokens × Tokens)} (parted : Tokens.Parted items)
      (h : ∀ p ∈ items, Usual (.input p.1)) (place : Span) {r : Option (Span × Span × Tokens)}
      (hr : ∀ a ∈ r, Usual (.type false a.2.2)) :
      Usual (.type plus
        (functionTokens binder safety convention word (Tokens.listed items) place r))
  -- atoms of expressions
  | literal (x : String) (place : Span) : Usual (.atom [.literal x place])
  | truth {x : String} (h : x = "true" ∨ x = "false") (place : Span) :
      Usual (.atom [.ident x place])
  | pathAtom {p : Path} (front : p.Front) (segments : ∀ x ∈ p.segments, Usual (.segment x))
      (opened : ∀ x ∈ p.segments, x.InExpression) : Usual (.atom p.tokens)
  | ownedAtom {ts : Tokens} (h : Usual (.type true ts)) {trait : Option (Span × Path)}
      (implements : ∀ t ∈ trait, ∀ x ∈ t.2.segments, Usual (.segment x)) {p : Path}
      (relative : p.absolute = none) (segments : ∀ x ∈ p.segments, Usual (.segment x))
      (opened : ∀ x ∈ p.segments, x.InExpression) (opening closing colons : Span) :
      Usual (.atom (ownerTokens opening ts trait closing colons ++ p.tokens))
  | callAtom {ts : Tokens} (h : ts.IsCall) : Usual (.atom ts)
  | parensAtom {items : List (Tokens × Tokens)} (parted : Tokens.Parted items)
      (h : ∀ p ∈ items, Usual (.expression p.1)) (place : Span) :
      Usual (.atom [.group .parenthesis (Tokens.listed items) place])
  | elements {items : List (Tokens × Tokens)} (parted : Tokens.Parted items)
      (h : ∀ p ∈ items, Usual (.expression p.1)) (place : Span) :
      Usual (.atom [.group .bracket (Tokens.listed items) place])
  | repeated {ts : Tokens} (h : Usual (.expression ts)) (semicolon : Span) {length : Tokens}
      (count : Usual (.expression length)) (place : Span) :
      Usual (.atom [.group .bracket (ts ++ .punct ';' false semicolon :: length) place])
  | insertedAtom {ts : Tokens} (h : Usual (.expression ts)) (place : Span) :
      Usual (.atom [.group .invisible ts place])
  -- what trails them
  | arguments {items : List (Tokens × Tokens)} (parted : Tokens.Parted items)
      (h : ∀ p ∈ items, Usual (.expression p.1)) (place : Span) :
      Usual (.trailer false [.group .parenthesis (Tokens.listed items) place])
  | index {ts : Tokens} (h : Usual (.expression ts)) (place : Span) :
      Usual (.trailer false [.group .bracket ts place])
  | question (place : Span) : Usual (.trailer false [.punct '?' false place])
  | field {i : Ident} (known : isKeyword i.text = false) (point : Span) :
      Usual (.trailer true [.punct '.' false point, i.token])
  | position {text : String} (h : IsPosition text) (point place : Span) :
      Usual (.trailer false [.punct '.' false point, .literal text place])
  | method {i : Ident} (known : isKeyword i.text = false) {items : List (Tokens × Tokens)}
      (parted : Tokens.Parted items) (h : ∀ p ∈ items, Usual (.expression p.1))
      (point place : Span) :
      Usual (.trailer false [.punct '.' false point, i.token,
        .group .parenthesis (Tokens.listed items) place])
  | generic {i : Ident} (known : isKeyword i.text = false)
      {lifetimes others : List (Tokens × Tokens)}
      (parted : Tokens.Parted (lifetimes ++ others)) (regions : ∀ p ∈ lifetimes, p.1.IsLifetime)
      (arguments : ∀ p ∈ others, Usual (.argument p.1)) (colons opening closing : Span)
      {items : List (Tokens × Tokens)} (parted' : Tokens.Parted items)
      (h : ∀ p ∈ items, Usual (.expression p.1)) (point place : Span) :
      Usual (.trailer false (.punct '.' false point :: i.token ::
        (angleTokens (some colons) opening (lifetimes ++ others) closing ++
          [.group .parenthesis (Tokens.listed items) place])))
  -- operands and what joins them
  | trailed {ts : Tokens} (h : Usual (.atom ts)) {trailers : List (Bool × Tokens)}
      (trail : ∀ t ∈ trailers, Usual (.trailer t.1 t.2))
      (calls : trailers.IsChain fun t u =>
        t.1 = true → (Sign.group .parenthesis).shows u.2 = false) :
      Usual (.operand (ts ++ trailers.flatMap (·.2)))
  | signed {c : Char} (h : c = '*' ∨ c = '!' ∨ c = '-') (place : Span) {ts : Tokens}
      (operand : Usual (.operand ts)) : Usual (.operand (.punct c false place :: ts))
  | borrowed {ts : Tokens} (operand : Usual (.operand ts))
      (notRaw : (Sign.keyword "raw").shows ts = false) (mark : Span) (access : Option Span) :
      Usual (.operand (.punct '&' false mark :: (mutability access ++ ts)))
  | linked {ts : Tokens} (first : Usual (.operand ts)) {ls : List Link}
      (joins : ∀ l ∈ ls, Link.Joins l) (h : ∀ l ∈ ls, Usual (Part.behind l))
      (chained : Link.Chained false ls) : Usual (.expression (ts ++ Link.listed ls))

namespace Part

/-- How deep the grammar has to be that the part is read over. -/
def depth : Part → Nat
  | .type _ ts => ts.weight
  | .argument ts | .input ts => ts.weight + 1
  | .segment x => Tokens.weight x.tokens
  | .inputs ts => ts.weight
  | .trait relaxed binder p behind => Tokens.weight (traitTokens relaxed binder p behind)
  | .bound _ ts | .sum _ ts | .atom ts | .trailer _ ts | .operand ts | .expression ts => ts.weight

/-- The part is read back over a grammar so deep. -/
def Reads (n : Nat) : Part → Prop
  | .type plus ts => ReadsType (typeOnce (deep n) plus true) plus ts
  | .argument ts => ReadsArgument (deep n) false ts
  | .segment x => ReadsSegment (deep n) x
  | .input ts => ReadsInput (deep n) ts
  | .inputs ts => ReadsInputs (deep n) ts
  | .trait relaxed binder p behind => ReadsTrait (deep n) relaxed binder p behind
  | .bound kind ts => ReadsBound (deep n) ts kind
  | .sum plus ts => ReadsSum (deep n) plus ts
  | .atom ts => ReadsAtom (deep n) ts
  | .trailer field ts => ReadsTrailer (deep n) field ts
  | .operand ts => ReadsOperand (unaryOnce (deep n) true) ts
  | .expression ts => ReadsExpression (expressionOnce (deep n) true) ts

end Part

/-! ## Weights -/

theorem weight_le_listed {items : List (Tokens × Tokens)} {p : Tokens × Tokens} (h : p ∈ items) :
    p.1.weight ≤ (Tokens.listed items).weight := by
  have whole := Tokens.weight_le_flatMap (fun q : Tokens × Tokens => q.1 ++ q.2) h
  rw [Tokens.weight_append] at whole
  exact Nat.le_trans (Nat.le_add_right _ _) whole

theorem weight_le_summands {more : List (Span × Tokens)} {p : Span × Tokens} (h : p ∈ more) :
    p.2.weight ≤ (summands more).weight := by
  have whole := Tokens.weight_le_flatMap
    (fun q : Span × Tokens => Token.punct '+' false q.1 :: q.2) h
  rw [Tokens.weight_cons] at whole
  exact Nat.le_trans (Nat.le_add_left _ _) whole

theorem weight_lt_result {r : Option (Span × Span × Tokens)} {a : Span × Span × Tokens}
    (h : a ∈ r) : a.2.2.weight < (resultTokens r).weight := by
  obtain ⟨first, second, ts⟩ := a
  obtain rfl := Option.mem_def.mp h
  simp [resultTokens, Token.weight]
  omega

theorem weight_le_path {p : Path} {x : Segment} (h : x ∈ p.segments) :
    Tokens.weight x.tokens ≤ Tokens.weight p.tokens := by
  rw [Path.tokens, Tokens.weight_append, Tokens.weight_append]
  rcases List.mem_cons.mp h with rfl | later
  · omega
  · have whole := Tokens.weight_le_flatMap
      (fun y : Segment => Path.separator y.ident.span ++ y.tokens) later
    rw [Tokens.weight_append] at whole
    omega

section

variable (opening closing colons : Span) (ts : Tokens) {trait : Option (Span × Path)} {p : Path}

/-- The type in front of a path is shorter than the whole. -/
theorem weight_lt_owned (trait : Option (Span × Path)) (p : Path) :
    ts.weight < Tokens.weight (ownerTokens opening ts trait closing colons ++ p.tokens) := by
  simp [ownerTokens, Token.weight]
  omega

/-- So is each segment of the trait that the type implements, -/
theorem weight_le_ownedTrait {t : Span × Path} (ht : t ∈ trait) {x : Segment}
    (hx : x ∈ t.2.segments) (p : Path) :
    Tokens.weight x.tokens ≤
      Tokens.weight (ownerTokens opening ts trait closing colons ++ p.tokens) := by
  obtain rfl := Option.mem_def.mp ht
  have inside := weight_le_path hx
  simp [ownerTokens, Token.weight]
  omega

/-- and each segment behind. -/
theorem weight_le_ownedPath (trait : Option (Span × Path)) {x : Segment} (hx : x ∈ p.segments) :
    Tokens.weight x.tokens ≤
      Tokens.weight (ownerTokens opening ts trait closing colons ++ p.tokens) := by
  rw [Tokens.weight_append]
  exact Nat.le_add_left_of_le (weight_le_path hx)

end

/-- A link is longer than what stands behind its operator. -/
theorem depth_lt_link {l : Link} (h : l.Joins) : (Part.behind l).depth < l.tokens.weight := by
  cases l with
  | cast place ts =>
    simp [Part.behind, Part.depth, Link.tokens, Token.weight]
  | binary ms p ts =>
    have marks := Tokens.weight_marks_pos h.1.ne_nil
    simp only [Part.behind, Part.depth, Link.tokens, Tokens.weight_append]
    omega

theorem length_le_links {ls : List Link} (joins : ∀ l ∈ ls, Link.Joins l) :
    ls.length ≤ (Link.listed ls).weight := by
  refine Tokens.length_le_weight fun l hl empty => ?_
  have long := depth_lt_link (joins l hl)
  rw [empty] at long
  exact Nat.not_lt_zero _ long

/-- Besides what stands behind one operator, links have a token each. -/
theorem depth_le_links {ls : List Link} (joins : ∀ l ∈ ls, Link.Joins l) {l : Link} (h : l ∈ ls) :
    (Part.behind l).depth + ls.length ≤ (Link.listed ls).weight := by
  obtain ⟨before, after, rfl⟩ := List.append_of_mem h
  have long := depth_lt_link (joins l h)
  have first := length_le_links fun k hk => joins k (List.mem_append_left _ hk)
  have last := length_le_links fun k hk =>
    joins k (List.mem_append_right before (List.mem_cons_of_mem l hk))
  simp only [Link.listed, List.flatMap_append, List.flatMap_cons, Tokens.weight_append,
    List.length_append, List.length_cons] at first last ⊢
  omega

/-! ## Reading -/

section

variable {plus : Bool} {ts : Tokens} {n : Nat}

/-- A type inside of a part is read one level below. -/
theorem readsType_deep (h : ∀ m, ts.weight ≤ m → ReadsType (typeOnce (deep m) plus true) plus ts)
    (hn : ts.weight + 1 ≤ n) : ReadsType ((deep n).type plus true) plus ts := by
  obtain ⟨m, rfl⟩ : ∃ m, n = m + 1 := ⟨n - 1, by omega⟩
  exact h m (Nat.le_of_succ_le_succ hn)

theorem readsExpression_deep
    (h : ∀ m, ts.weight ≤ m → ReadsExpression (expressionOnce (deep m) true) ts)
    (hn : ts.weight + 1 ≤ n) : ReadsExpression ((deep n).expression true) ts := by
  obtain ⟨m, rfl⟩ : ∃ m, n = m + 1 := ⟨n - 1, by omega⟩
  exact h m (Nat.le_of_succ_le_succ hn)

theorem readsOperand_deep (h : ∀ m, ts.weight ≤ m → ReadsOperand (unaryOnce (deep m) true) ts)
    (hn : ts.weight + 1 ≤ n) : ReadsOperand ((deep n).unary true) ts := by
  obtain ⟨m, rfl⟩ : ∃ m, n = m + 1 := ⟨n - 1, by omega⟩
  exact h m (Nat.le_of_succ_le_succ hn)

/-- Without an invisible group in front, it does not matter whether arguments may follow one. -/
theorem typeOnce_generic {g : Grammar} {c : Cursor}
    (h : (Sign.group .invisible).shows c.rest = false) (s : Scope) :
    typeOnce g plus false s c = typeOnce g plus true s c := by
  rw [typeOnce, typeOnce, peek_bind, peek_bind, h, if_neg Bool.false_ne_true,
    if_neg Bool.false_ne_true]

theorem readsLink_deep {l : Link} (joins : l.Joins)
    (h : ∀ m, (Part.behind l).depth ≤ m → (Part.behind l).Reads m)
    (hn : (Part.behind l).depth + 1 ≤ n) :
    ReadsLink (deep n) l := by
  obtain ⟨m, rfl⟩ : ∃ m, n = m + 1 := ⟨n - 1, by omega⟩
  have reads := h m (Nat.le_of_succ_le_succ hn)
  cases l with
  | binary ms p ts => exact .binary joins.1 joins.2 reads
  | cast place ts =>
    refine .cast place fun s rest ends => ?_
    have notInserted : (Sign.group .invisible).shows (ts ++ rest) = false := by
      obtain ⟨t, more, rfl⟩ := List.exists_cons_of_ne_nil (ReadsType.front reads).ne_nil
      have notInserted : (Sign.group .invisible).shows (t :: more) = false := joins
      cases t with
      | group d content place => cases d <;> exact notInserted
      | ident | punct | literal => exact notInserted
    have same : (deep (m + 1)).type false false s ⟨ts ++ rest, none⟩ =
      typeOnce (deep m) false true s ⟨ts ++ rest, none⟩ := typeOnce_generic notInserted s
    rw [same]
    exact ReadsType.read reads s rest ends

/-- So is the name of an associated type. -/
theorem names_deep {x : Segment} (name : isSegmentWord x.ident.text = true)
    (h : ∀ m, Tokens.weight x.tokens ≤ m → ReadsSegment (deep m) x)
    (hn : Tokens.weight x.tokens + 1 ≤ n) : Names (deep n) x := by
  obtain ⟨m, rfl⟩ : ∃ m, n = m + 1 := ⟨n - 1, by omega⟩
  have reads := h m (Nat.le_of_succ_le_succ hn)
  have front : (Path.mk none x []).Front := fun _ => name
  have tokens : (Path.mk none x []).tokens = x.tokens := by simp [Path.tokens]
  have segments : ∀ y ∈ (Path.mk none x []).segments, Rereads (deep m) false y :=
    List.forall_mem_singleton.mpr reads.rereads
  intro s rest ends
  have read := typeOnce_path_written front segments ends s
  rw [tokens] at read
  exact read

theorem typeFront_name {x : Segment} (name : isSegmentWord x.ident.text = true) :
    x.tokens.TypeFront :=
  .cons (by simp [Token.opensType, Ident.token, name]) _

end

/-- **Every usual part** is read back. -/
theorem reads_of_usual {part : Part} (h : Usual part) : ∀ n, part.depth ≤ n → part.Reads n := by
  induction h with
  | word h => exact fun n _ => readsSegment_word h
  | @angles i plain known lifetimes others parted regions _ colons opening closing ih =>
    intro n hn
    refine readsSegment_angles plain known parted
      (fun p hp => readsArgument_lifetime (regions p hp)) (fun p hp => ih p hp n ?_) colons opening
      closing
    have inside := weight_le_listed (List.mem_append_right lifetimes hp)
    simp [Part.depth, Segment.tokens, Arguments.tokens, angleTokens, Token.weight] at hn ⊢
    omega
  | value h => exact fun n _ => readsArgument_value h
  | typeArgument _ ih => exact fun n hn => readsArgument_type (readsType_deep ih hn)
  | namedValue name _ binds equals h ih =>
    intro n hn
    refine readsArgument_named (typeFront_name name) (names_deep name ih ?_) binds (.inl h) equals
    simp [Part.depth, named] at hn
    omega
  | namedType name _ binds equals _ ihName ih =>
    intro n hn
    simp [Part.depth, named] at hn
    exact readsArgument_named (typeFront_name name) (names_deep name ihName (by omega)) binds
      (.inr (readsType_deep ih (by omega))) equals
  | noInputs => exact fun n _ => .none
  | someInputs parted _ _ place ih ihResult =>
    intro n hn
    simp [Part.depth] at hn
    refine .inputs parted (fun p hp => readsType_deep (ih p hp) ?_)
      (fun a ha => readsType_deep (ihResult a ha) ?_) place
    · have inside := weight_le_listed hp
      omega
    · have inside := weight_lt_result ha
      omega
  | trait isBinder apart front _ _ bare ihSegments ih =>
    intro n hn
    simp [Part.depth, traitTokens] at hn
    refine ⟨isBinder, apart, front, fun x hx => (ihSegments x hx n ?_).rereads, ih n ?_, bare⟩
    · have inside := weight_le_path hx
      exact Nat.le_trans inside (by omega)
    · exact Nat.le_trans (Nat.le_refl _) (by simp only [Part.depth]; omega)
  | lifetimeBound h => exact fun n _ => readsBound_lifetime h
  | traitBound _ ih => exact fun n hn => readsBound_trait (ih n hn)
  | parensBound _ place ih =>
    intro n hn
    simp [Part.depth] at hn
    exact readsBound_parens (ih n (by simp only [Part.depth]; omega)) place
  | one _ ih => exact fun n hn => readsSum_one (ih n hn)
  | more _ kind _ ihFirst ih =>
    intro n hn
    simp [Part.depth] at hn
    refine readsSum_more (ihFirst n (by simp only [Part.depth]; omega)) fun p hp =>
      ⟨kind p, ih p hp n ?_⟩
    have inside := weight_le_summands hp
    simp only [Part.depth]
    omega
  | infer place => exact fun n _ => readsType_infer place
  | never place => exact fun n _ => readsType_never place
  | unit place => exact fun n _ => readsType_unit place
  | parens _ place ih =>
    intro n hn
    simp [Part.depth] at hn
    exact readsType_parens (readsType_deep ih hn) place
  | tuple _ comma parted _ place ih ihMore =>
    intro n hn
    simp [Part.depth] at hn
    refine readsType_tuple (readsType_deep ih (by omega)) comma parted
      (fun p hp => readsType_deep (ihMore p hp) ?_) place
    have inside := weight_le_listed hp
    omega
  | inserted _ place ih =>
    intro n hn
    simp [Part.depth] at hn
    exact readsType_inserted (readsType_deep ih hn) place
  | slice _ place ih =>
    intro n hn
    simp [Part.depth] at hn
    exact readsType_slice (readsType_deep ih hn) place
  | array _ semicolon _ place ih ihCount =>
    intro n hn
    simp [Part.depth] at hn
    exact readsType_array (readsType_deep ih (by omega)) semicolon
      (readsExpression_deep ihCount (by omega)).whole place
  | pointer _ star known place ih =>
    intro n hn
    simp [Part.depth, Token.weight] at hn
    exact readsType_pointer (readsType_deep ih (by omega)) star known place
  | reference _ mark isRegion access ih =>
    intro n hn
    simp [Part.depth, Token.weight] at hn
    exact readsType_reference (readsType_deep ih (by omega)) mark isRegion access
  | dyn _ word ih =>
    intro n hn
    simp [Part.depth] at hn
    exact readsType_dyn (ih n (by simp only [Part.depth]; omega)) word
  | impl _ word ih =>
    intro n hn
    simp [Part.depth] at hn
    exact readsType_impl (ih n (by simp only [Part.depth]; omega)) word
  | path front _ ih =>
    intro n hn
    exact readsType_path front fun x hx => ih x hx n (Nat.le_trans (weight_le_path hx) hn)
  | owned _ _ relative _ opening closing colons ih ihTrait ihSegments =>
    intro n hn
    exact readsType_owned
      (readsType_deep ih (Nat.lt_of_lt_of_le (weight_lt_owned opening closing colons ..) hn))
      (fun t ht x hx => (ihTrait t ht x hx n
        (Nat.le_trans (weight_le_ownedTrait opening closing colons _ ht hx _) hn)).rereads) relative
      (fun x hx => (ihSegments x hx n
        (Nat.le_trans (weight_le_ownedPath opening closing colons _ _ hx) hn)).rereads)
      opening closing colons
  | call h => exact fun n _ => readsType_call h
  | unnamedInput _ ih => exact fun n hn => readsInput_type (readsType_deep ih hn)
  | namedInput known colon _ ih =>
    intro n hn
    simp [Part.depth] at hn
    exact readsInput_named known colon (readsType_deep ih (by omega))
  | function isBinder safety isConvention word parted _ place _ ih ihResult =>
    intro n hn
    simp [Part.depth, functionTokens] at hn
    refine readsType_function isBinder safety isConvention word parted (fun p hp => ih p hp n ?_)
      place fun a ha => readsType_deep (ihResult a ha) ?_
    · have inside := weight_le_listed hp
      simp only [Part.depth]
      omega
    · have inside := weight_lt_result ha
      omega
  | literal x place => exact fun n _ => readsAtom_literal x place
  | truth h place => exact fun n _ => readsAtom_truth h place
  | pathAtom front _ opened ih =>
    intro n hn
    exact readsAtom_path front (fun x hx => ih x hx n (Nat.le_trans (weight_le_path hx) hn)) opened
  | ownedAtom _ _ relative _ opened opening closing colons ih ihTrait ihSegments =>
    intro n hn
    exact readsAtom_owned
      (readsType_deep ih (Nat.lt_of_lt_of_le (weight_lt_owned opening closing colons ..) hn))
      (fun t ht x hx => (ihTrait t ht x hx n
        (Nat.le_trans (weight_le_ownedTrait opening closing colons _ ht hx _) hn)).rereads) relative
      (fun x hx => ihSegments x hx n
        (Nat.le_trans (weight_le_ownedPath opening closing colons _ _ hx) hn)) opened
      opening closing colons
  | callAtom h => exact fun n _ => readsAtom_call h
  | parensAtom parted _ place ih =>
    intro n hn
    simp [Part.depth] at hn
    refine readsAtom_parens parted (fun p hp => readsExpression_deep (ih p hp) ?_) place
    have inside := weight_le_listed hp
    omega
  | elements parted _ place ih =>
    intro n hn
    simp [Part.depth] at hn
    refine readsAtom_array place (arrayContent_listed parted
      (fun p hp => readsExpression_deep (ih p hp) ?_) _)
    have inside := weight_le_listed hp
    omega
  | repeated _ semicolon _ place ih ihCount =>
    intro n hn
    simp [Part.depth] at hn
    exact readsAtom_array place (arrayContent_repeated (readsExpression_deep ih (by omega))
      (readsExpression_deep ihCount (by omega)) semicolon _)
  | insertedAtom _ place ih =>
    intro n hn
    simp [Part.depth] at hn
    exact readsAtom_inserted (readsExpression_deep ih hn) place
  | arguments parted _ place ih =>
    intro n hn
    simp [Part.depth] at hn
    refine readsTrailer_call parted (fun p hp => readsExpression_deep (ih p hp) ?_) place
    have inside := weight_le_listed hp
    omega
  | index _ place ih =>
    intro n hn
    simp [Part.depth] at hn
    exact readsTrailer_index (readsExpression_deep ih hn) place
  | question place => exact fun n _ => readsTrailer_question place
  | field known point => exact fun n _ => readsTrailer_field known point
  | method known parted _ point place ih =>
    intro n hn
    simp [Part.depth] at hn
    refine readsTrailer_method known parted (fun p hp => readsExpression_deep (ih p hp) ?_) point
      place
    have inside := weight_le_listed hp
    omega
  | position h point place => exact fun n _ => readsTrailer_position h point place
  | @generic i known lifetimes others parted regions _ colons opening closing items parted' _ point
      place ih ihItems =>
    intro n hn
    simp [Part.depth, angleTokens] at hn
    refine readsTrailer_generic known parted (fun p hp => readsArgument_lifetime (regions p hp))
      (fun p hp => ih p hp n ?_) colons opening closing parted'
      (fun p hp => readsExpression_deep (ihItems p hp) ?_) point place
    · have inside := weight_le_listed (List.mem_append_right lifetimes hp)
      simp only [Part.depth]
      omega
    · have inside := weight_le_listed hp
      omega
  | trailed _ _ calls ih ihTrail =>
    intro n hn
    simp [Part.depth] at hn
    refine readsOperand_trailed (ih n (by simp only [Part.depth]; omega))
      (fun t ht => ihTrail t ht n ?_) calls
    have inside := Tokens.weight_le_flatMap (fun t : Bool × Tokens => t.2) ht
    exact Nat.le_trans inside (by omega)
  | signed h place _ ih =>
    intro n hn
    simp [Part.depth, Token.weight] at hn
    exact readsOperand_signed h (readsOperand_deep ih (by omega)) place
  | borrowed _ notRaw mark access ih =>
    intro n hn
    simp [Part.depth, Token.weight] at hn
    exact readsOperand_borrowed (readsOperand_deep ih (by omega)) notRaw mark access
  | @linked ts _ ls joins _ chained ih ihLinks =>
    intro n hn
    simp [Part.depth] at hn
    have operand : ReadsOperand (unaryOnce (deep n) true) ts :=
      ih n (by simp only [Part.depth]; omega)
    obtain ⟨t, more, begun⟩ := List.exists_cons_of_ne_nil operand.front.ne_nil
    have long : 0 < ts.weight := by
      rw [begun, Tokens.weight_cons]
      exact Nat.lt_of_lt_of_le (Tokens.weight_pos t) (Nat.le_add_right _ _)
    have few := length_le_links joins
    -- the depth that is not needed for what stands behind an operator is as much as there are links
    refine readsExpression_links (d := ts.weight + (Link.listed ls).weight - ls.length) operand
      (fun l hl m hm => readsLink_deep (joins l hl) (ihLinks l hl) ?_) chained ?_
    · have inside := depth_le_links joins hl
      omega
    · omega

/-- A usual type is read back as a whole. -/
theorem anyType_usual {ts : Tokens} (h : Usual (.type true ts)) (s : Scope) :
    ∃ t, anyType s ⟨ts, none⟩ = .ok (t, ⟨[], none⟩) ∧ t.tokens = ts :=
  ReadsType.whole (reads_of_usual h (ts.weight + 1) (Nat.le_succ _)) s

/-- `[u8; N + 1]`. -/
example : Usual (.type true [.group .bracket [.ident "u8" .callSite, .punct ';' false .callSite,
    .ident "N" .callSite, .punct '+' false .callSite, .literal "1" .callSite] .callSite]) := by
  have word {x : String} (h : isSegmentWord x = true) :
      ∀ y ∈ (Path.ofIdent ⟨x, .callSite⟩).segments, Usual (.segment y) :=
    List.forall_mem_singleton.mpr (.word h)
  have bytes : Usual (.type true [.ident "u8" .callSite]) :=
    @Usual.path true (.ofIdent ⟨"u8", .callSite⟩) (fun _ => by decide) (word (by decide))
  have alone {ts : Tokens} (h : Usual (.atom ts)) : Usual (.operand (ts ++ [])) :=
    .trailed h (List.forall_mem_nil _) .nil
  have name : Usual (.operand [.ident "N" .callSite]) :=
    alone (@Usual.pathAtom (.ofIdent ⟨"N", .callSite⟩) (fun _ => by decide) (word (by decide))
      (List.forall_mem_singleton.mpr (.inl rfl)))
  have one : Usual (.operand [.literal "1" .callSite]) := alone (.literal "1" .callSite)
  have sum : Link.Joins (.binary [('+', .callSite)] .sum [.literal "1" .callSite]) :=
    ⟨⟨"+", by decide, rfl⟩, nofun⟩
  exact .array bytes .callSite (.linked name (List.forall_mem_singleton.mpr sum)
    (List.forall_mem_singleton.mpr one) ⟨nofun, trivial⟩) .callSite

end TypedId.Grammar
