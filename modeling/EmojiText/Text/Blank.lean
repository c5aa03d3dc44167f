import EmojiText.Text.Basic

/-!
Blank space. Two classes are in use: the white space of Unicode, and the same with the four
separator controls, which is what is trimmed from codes and names.
-/

namespace EmojiText

namespace CodePoint

/-- The intervals of white space. -/
def whiteSpaceRanges : List (Nat × Nat) := [
  (0x9, 0xD), (0x20, 0x20), (0x85, 0x85), (0xA0, 0xA0), (0x1680, 0x1680), (0x2000, 0x200A),
  (0x2028, 0x2029), (0x202F, 0x202F), (0x205F, 0x205F), (0x3000, 0x3000)]

/-- White space. -/
def isWhiteSpace (c : CodePoint) : Bool := c.inRanges whiteSpaceRanges

/-- White space or one of the controls that separate files, groups, records and units. -/
def isBlank (c : CodePoint) : Bool := c.isWhiteSpace || (0x1C ≤ c.val && c.val ≤ 0x1F)

theorem isBlank_of_isWhiteSpace {c : CodePoint} (h : c.isWhiteSpace = true) : c.isBlank = true := by
  simp [isBlank, h]

end CodePoint

/-- The text without the blanks at both ends. -/
def Text.strip (t : Text) : Text := t.trim CodePoint.isBlank

end EmojiText
