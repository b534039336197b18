import Breadboard.Text.Ranges

/-! # Blank text

A text is blank when it holds nothing but characters with the Unicode property White_Space. This set is wider
than the blanks that separate the words of a sketch: it holds line ends, the no-break space and the typographic
spaces, and leaves out the zero-width space.
-/

namespace Breadboard.Text

def whiteSpace : Ranges :=
  [(0x9, 0xD), (0x20, 0x20), (0x85, 0x85), (0xA0, 0xA0), (0x1680, 0x1680), (0x2000, 0x200A),
   (0x2028, 0x2029), (0x202F, 0x202F), (0x205F, 0x205F), (0x3000, 0x3000)]

def isWhiteSpace (c : Char) : Bool :=
  whiteSpace.contains c.toNat

/-- Empty, or white space only. -/
def isBlank (text : String) : Bool :=
  text.toList.all isWhiteSpace

end Breadboard.Text
