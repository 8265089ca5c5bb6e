/-
The characters that are left out where a text is shown and they are not supported: joiners, fillers,
selectors and tags, and the code points kept for more of them. Of these the fillers of Hangul
syllables alone are letters, which neither extend the character before them nor count as formats.
-/

import Lox.Text.CodeRange

namespace Lox.Text

/-- The code points of the characters that are ignored by default, assigned or not. -/
def defaultIgnorableRanges : List CodeRange :=
  [(0xad, 0xad), (0x34f, 0x34f), (0x61c, 0x61c), (0x115f, 0x1160), (0x17b4, 0x17b5),
    (0x180b, 0x180f), (0x200b, 0x200f), (0x202a, 0x202e), (0x2060, 0x206f), (0x3164, 0x3164),
    (0xfe00, 0xfe0f), (0xfeff, 0xfeff), (0xffa0, 0xffa0), (0xfff0, 0xfff8), (0x1bca0, 0x1bca3),
    (0x1d173, 0x1d17a), (0xe0000, 0xe0fff)]

/-- Whether a character is ignored by default. -/
def isDefaultIgnorable (char : Char) : Bool :=
  isIn defaultIgnorableRanges char

end Lox.Text
