/-
Blank characters. `isBlank` is the Unicode property White_Space; between
tokens the two direction marks count as blank too.
-/
import TypedId.Text.Ranges

namespace TypedId.Text

/-- White_Space. -/
def blankRanges : Ranges :=
  [(0x9, 0xd), (0x20, 0x20), (0x85, 0x85), (0xa0, 0xa0), (0x1680, 0x1680), (0x2000, 0x200a),
   (0x2028, 0x2029), (0x202f, 0x202f), (0x205f, 0x205f), (0x3000, 0x3000)]

def isBlank (c : Char) : Bool :=
  blankRanges.has c

/-- A blank between tokens: white space or one of the marks U+200E and U+200F. -/
def isTokenBlank (c : Char) : Bool :=
  isBlank c || c == '\u200e' || c == '\u200f'

/-- A text that is empty once the blanks around it are taken away. -/
def isAllBlank (text : String) : Bool :=
  text.toList.all isBlank

theorem isTokenBlank_of_isBlank {c : Char} (h : isBlank c = true) : isTokenBlank c = true := by
  simp [isTokenBlank, h]

end TypedId.Text
