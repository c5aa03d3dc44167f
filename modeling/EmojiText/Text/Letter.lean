import EmojiText.Text.Basic

/-!
Latin letters in any form. Besides the ASCII letters of both cases, four code points are forms of a
letter: the dotted capital I, the dotless small i, the long s, and the sign for kelvin.
-/

namespace EmojiText

/-- The ASCII letter in lower case that a code point is a form of. -/
def CodePoint.letter? (c : CodePoint) : Option CodePoint :=
  if 0x61 ≤ c.val && c.val ≤ 0x7A then some c
  else if 0x41 ≤ c.val && c.val ≤ 0x5A then some (c + 0x20)
  else if c.val = 0x130 || c.val = 0x131 then some 0x69
  else if c.val = 0x17F then some 0x73
  else if c.val = 0x212A then some 0x6B
  else none

/-- The text with every form of a letter as the ASCII letter in lower case. -/
def Text.plainLetters (t : Text) : Text := t.map fun c => c.letter?.getD c

end EmojiText
