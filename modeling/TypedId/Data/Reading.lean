/-
Reading documents. A number without point and exponent that fits into 64 bits
is an integer; any other is a floating-point number, made from those of its
digits that fit into 64 bits and from a power of ten. Of a key that is given
twice the last value counts.
-/
import TypedId.Data

namespace TypedId.Data

/-- A reader takes what it wants from the front of a text and leaves the rest. -/
abbrev Scan (α : Type) := List Char → Option (α × List Char)

def isBlank (c : Char) : Bool := c = ' ' || c = '\n' || c = '\r' || c = '\t'

def skipBlank (cs : List Char) : List Char := cs.dropWhile isBlank

/-! ## Texts -/

/-- The number of four hexadecimal digits. -/
def unit? (a b c d : Char) : Option Nat := Text.hexNumber? 0 [a, b, c, d]

def isHighSurrogate (n : Nat) : Bool := 0xd800 ≤ n && n < 0xdc00

def isLowSurrogate (n : Nat) : Bool := 0xdc00 ≤ n && n < 0xe000

/-- The character that a letter stands for behind a backslash. -/
def escape? : Char → Option Char
  | '"' => some '"'
  | '\\' => some '\\'
  | '/' => some '/'
  | 'b' => some '\x08'
  | 'f' => some '\x0c'
  | 'n' => some '\n'
  | 'r' => some '\r'
  | 't' => some '\t'
  | _ => none

/-- The escape at the front of a text, without its backslash. A character beyond 16 bits takes two
numbers. -/
def escaped : Scan Char
  | 'u' :: a :: b :: c :: d :: rest =>
    match unit? a b c d with
    | none => none
    | some n =>
      if isHighSurrogate n then
        match rest with
        | '\\' :: 'u' :: a :: b :: c :: d :: rest =>
          match unit? a b c d with
          | none => none
          | some m =>
            if isLowSurrogate m then
              some (Char.ofNat (0x10000 + (n - 0xd800) * 0x400 + (m - 0xdc00)), rest)
            else none
        | _ => none
      else if isLowSurrogate n then none
      else some (Char.ofNat n, rest)
  | c :: rest => (escape? c).map fun c => (c, rest)
  | [] => none

/-- The characters up to the closing quote, put behind those already read. -/
def textBody : Nat → List Char → Scan (List Char)
  | 0, _, _ => none
  | _ + 1, _, [] => none
  | fuel + 1, read, c :: rest =>
    if c = '"' then some (read.reverse, rest)
    else if c = '\\' then
      match escaped rest with
      | some (c, rest) => textBody fuel (c :: read) rest
      | none => none
    else if c.toNat < 0x20 then none
    else textBody fuel (c :: read) rest

/-- A text behind its opening quote. -/
def textBehindQuote (cs : List Char) : Option (String × List Char) :=
  (textBody (cs.length + 1) [] cs).map fun (s, rest) => (String.ofList s, rest)

/-! ## Numbers -/

/-- Digits behind a number, as long as the number fits into 64 bits. -/
def digitsWithin (n : Nat) : List Char → Nat × List Char
  | [] => (n, [])
  | c :: cs =>
    if c.isDigit && n * 10 + (c.toNat - '0'.toNat) < UInt64.size then
      digitsWithin (n * 10 + (c.toNat - '0'.toNat)) cs
    else (n, c :: cs)

/-- How many characters the second text has lost from the first. -/
def consumed (before after : List Char) : Int := Int.ofNat before.length - Int.ofNat after.length

/-- `x * 10 ^ exponent`, if it is finite. The power is put on in one step, or in steps of
`10 ^ -308`, of which four bring any 64 bits to zero. -/
def scaleTo : Nat → Float → Int → Option Float
  | 0, x, _ => some x
  | fuel + 1, x, exponent =>
    if exponent.natAbs ≤ 308 then
      let power := Float.ofScientific 1 false exponent.natAbs
      let y := if 0 ≤ exponent then x * power else x / power
      if y.isFinite then some y else none
    else if x == 0 then some x
    else if 0 ≤ exponent then none
    else scaleTo fuel (x / Float.ofScientific 1 false 308) (exponent + 308)

def floatOf (negative : Bool) (significand : Nat) (exponent : Int) : Option Data :=
  (scaleTo 4 (UInt64.ofNat significand).toFloat exponent).map fun x =>
    .float (if negative then -x else x)

/-- The power of ten behind an `e`. -/
def exponent? (cs : List Char) : Option (Int × List Char) :=
  let (negative, cs) := match cs with
    | '+' :: cs => (false, cs)
    | '-' :: cs => (true, cs)
    | cs => (false, cs)
  let ds := cs.takeWhile Char.isDigit
  if ds.isEmpty then none
  else
    let n : Int := Nat.ofDigitChars 10 ds 0
    some (if negative then -n else n, cs.dropWhile Char.isDigit)

/-- What follows the digits of a number: a power of ten, perhaps. -/
def withExponent (negative : Bool) (significand : Nat) (exponent : Int) : Scan Data
  | c :: rest =>
    if c = 'e' || c = 'E' then do
      let (e, rest) ← exponent? rest
      let d ← floatOf negative significand (exponent + e)
      return (d, rest)
    else (floatOf negative significand exponent).map fun d => (d, c :: rest)
  | [] => (floatOf negative significand exponent).map fun d => (d, [])

/-- The digits behind the point. -/
def withFraction (negative : Bool) (significand : Nat) (exponent : Int) (cs : List Char) :
    Option (Data × List Char) :=
  if cs.head?.any Char.isDigit then
    let (significand, rest) := digitsWithin significand cs
    withExponent negative significand (exponent - consumed cs rest) (rest.dropWhile Char.isDigit)
  else none

/-- A number without its sign. -/
def magnitude (negative : Bool) (cs : List Char) : Option (Data × List Char) :=
  let (n, rest) := digitsWithin 0 cs
  let long := rest.takeWhile Char.isDigit
  let rest := rest.dropWhile Char.isDigit
  let leadingZero := cs.head? = some '0' && (cs.drop 1).head?.any Char.isDigit
  if !cs.head?.any Char.isDigit || leadingZero then none
  else
    match rest with
    | '.' :: rest => withFraction negative n long.length rest
    | 'e' :: _ => withExponent negative n long.length rest
    | 'E' :: _ => withExponent negative n long.length rest
    | rest =>
      let signed : Int := if negative then -n else n
      if long.isEmpty && (if negative then n ≠ 0 && n ≤ Nat.pow 2 63 else true) then
        some (.integer signed, rest)
      else withExponent negative n long.length rest

def number : Scan Data
  | '-' :: cs => magnitude true cs
  | cs => magnitude false cs

/-! ## Documents -/

/-- Items with commas between them, up to a closing character; the first item may be missing if
none was read before. -/
def items {α : Type} (item : Scan α) (close : Char) : Nat → List α → Scan (List α)
  | 0, _, _ => none
  | fuel + 1, read, cs =>
    match item (skipBlank cs) with
    | none => none
    | some (a, rest) =>
      match skipBlank rest with
      | c :: rest =>
        if c = close then some ((a :: read).reverse, rest)
        else if c = ',' then items item close fuel (a :: read) rest
        else none
      | [] => none

/-- Items up to a closing character. -/
def sequence {α : Type} (item : Scan α) (close : Char) (cs : List Char) :
    Option (List α × List Char) :=
  match skipBlank cs with
  | c :: rest =>
    if c = close then some ([], rest) else items item close (cs.length + 1) [] (c :: rest)
  | [] => none

/-- A key and, behind a colon, its value. -/
def field (value : Scan Data) : Scan (String × Data)
  | '"' :: rest => do
    let (key, rest) ← textBehindQuote rest
    match skipBlank rest with
    | ':' :: rest =>
      let (d, rest) ← value (skipBlank rest)
      return ((key, d), rest)
    | _ => none
  | _ => none

/-- The fields with the last value of each key, where that value stands. -/
def lastFields : List (String × Data) → List (String × Data)
  | [] => []
  | (key, d) :: rest =>
    if rest.any (·.1 == key) then lastFields rest else (key, d) :: lastFields rest

/-- A word, if a text begins with it. -/
def word (w : String) (d : Data) : Scan Data := fun cs =>
  if w.toList.isPrefixOf cs then some (d, cs.drop w.length) else none

/-- Data that is nested no deeper than given. -/
def value : Nat → Scan Data
  | 0, _ => none
  | depth + 1, cs =>
    match cs with
    | '"' :: rest => (textBehindQuote rest).map fun (s, rest) => (.text s, rest)
    | '[' :: rest => (sequence (value depth) ']' rest).map fun (ds, rest) => (.list ds, rest)
    | '\x7b' :: rest =>
      (sequence (field (value depth)) '\x7d' rest).map fun (fs, rest) => (.map (lastFields fs), rest)
    | 'n' :: _ => word "null" .null cs
    | 't' :: _ => word "true" (.bool true) cs
    | 'f' :: _ => word "false" (.bool false) cs
    | _ => number cs

/-- How deep a document may be nested. -/
def greatestDepth : Nat := 127

/-- The data of a whole document. -/
def read (document : String) : Option Data :=
  match value (greatestDepth + 1) (skipBlank document.toList) with
  | some (d, rest) => if (skipBlank rest).isEmpty then some d else none
  | none => none

end TypedId.Data
