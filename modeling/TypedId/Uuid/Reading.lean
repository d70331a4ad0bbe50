/-
Reading universally unique identifiers. The length of a text in bytes decides
which form it is taken for: digits alone, digits in groups, or groups in
braces or behind a prefix. What is wrong with a text of no form is found out
by looking at its characters first, then at its groups.
-/
import TypedId.Uuid

namespace TypedId.Uuid

/-- Why a text is no identifier. -/
inductive Fault where
  /-- A character that has no place, at an offset in bytes. -/
  | character (found : Char) (offset : Nat)
  /-- A length in bytes. -/
  | length (found : Nat)
  | groupCount (found : Nat)
  | groupLength (group expected found : Nat)
deriving DecidableEq, Repr

def Fault.message : Fault → String
  | .character found offset =>
    "invalid character: found `" ++ String.singleton found ++ "` at " ++ toString offset
  | .length found => "invalid length: found " ++ toString found
  | .groupCount found =>
    "invalid group count: expected " ++ toString groupSizes.length ++ ", found " ++ toString found
  | .groupLength group expected found =>
    "invalid group length in group " ++ toString group ++ ": expected " ++ toString expected ++
      ", found " ++ toString found

/-! ## Digits and groups -/

/-- The identifier of 32 digits in either case. -/
def ofDigits? (ds : List Char) : Option Uuid :=
  if ds.length = 32 then (Text.hexNumber? 0 ds).map fun n => ⟨BitVec.ofNat 128 n⟩ else none

/-- What stands between the hyphens. -/
def groups : List Char → List (List Char)
  | [] => [[]]
  | c :: cs =>
    if c = '-' then [] :: groups cs
    else
      match groups cs with
      | [] => [[c]]
      | g :: gs => (c :: g) :: gs

/-- The identifier of digits in groups. -/
def ofHyphenated? (cs : List Char) : Option Uuid :=
  if (groups cs).map List.length = groupSizes then ofDigits? (groups cs).flatten else none

/-! ## Forms -/

/-- The length in bytes of UTF-8. -/
def byteCount (cs : List Char) : Nat := (String.ofList cs).utf8ByteSize

/-- What a text is taken for. -/
inductive Form where
  /-- Digits alone. -/
  | simple
  /-- Digits in groups. -/
  | hyphenated
  | unknown
deriving DecidableEq, Repr

/-- What stands in braces. -/
def inBraces? : List Char → Option (List Char)
  | '\x7b' :: cs => if cs.getLast? = some '\x7d' then some cs.dropLast else none
  | _ => none

def urn : List Char := "urn:uuid:".toList

/-- What stands behind the prefix of a resource name, in either case. -/
def behindUrn? (cs : List Char) : Option (List Char) :=
  if (cs.take urn.length).map Char.toLower = urn then some (cs.drop urn.length) else none

/-- The form that a text has by its length, and what it wraps. -/
def form (cs : List Char) : Form × List Char :=
  match byteCount cs with
  | 32 => (.simple, cs)
  | 36 => (.hyphenated, cs)
  | 38 => match inBraces? cs with
    | some inner => (.hyphenated, inner)
    | none => (.unknown, cs)
  | 45 => match behindUrn? cs with
    | some inner => (.hyphenated, inner)
    | none => (.unknown, cs)
  | _ => (.unknown, cs)

/-! ## What is wrong -/

/-- The first character that is not allowed, and its offset. -/
def stray? (allowed : Char → Bool) : Nat → List Char → Option Fault
  | _, [] => none
  | offset, c :: cs =>
    if allowed c then stray? allowed (offset + c.utf8Size) cs else some (.character c offset)

/-- The first group of a wrong size; the last group takes what is left. -/
def wrongGroup (rest : Nat) : Nat → List Nat → List (List Char) → Fault
  | i, size :: next :: sizes, g :: gs =>
    if g.length = size then wrongGroup rest (i + 1) (next :: sizes) gs
    else .groupLength i size g.length
  | i, sizes, _ => .groupLength i (sizes.headD 0) rest

/-- What is wrong with the characters and groups of a text that wraps `inner` behind `offset`
bytes. -/
def diagnose (simple wrapped : Bool) (cs inner : List Char) (offset : Nat) : Fault :=
  let allowed (c : Char) : Bool := (Text.hexDigit? c).isSome || (!simple && c == '-')
  match stray? allowed offset inner with
  | some f => f
  | none =>
    let gs := groups inner
    if simple || (!wrapped && gs.length = 1) then .length (byteCount cs)
    else if gs.length ≠ groupSizes.length then .groupCount gs.length
    else wrongGroup (byteCount cs - 24) 0 groupSizes gs

/-- What is wrong with a text that was taken for a form in vain. -/
def fault (form : Form) (cs : List Char) : Fault :=
  if cs.isEmpty || 45 < byteCount cs then .length (byteCount cs)
  else
    match form with
    | .simple => diagnose true false cs cs 0
    | .hyphenated => diagnose false true cs cs 0
    | .unknown =>
      match inBraces? cs with
      | some inner => diagnose false true cs inner 1
      | none =>
        match behindUrn? cs with
        | some inner => diagnose false true cs inner urn.length
        | none => diagnose false false cs cs 0

/-- The identifier that a text denotes. -/
def read (text : String) : Except Fault Uuid :=
  let (form, cs) := form text.toList
  let found :=
    match form with
    | .simple => ofDigits? cs
    | .hyphenated => ofHyphenated? cs
    | .unknown => none
  match found with
  | some u => .ok u
  | none => .error (fault form cs)

end TypedId.Uuid
