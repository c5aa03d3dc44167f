import EmojiText.Text.Cased
import EmojiText.Text.Lowercase.Table

/-!
Lower-case forms of texts. Letters map one by one, apart from the capital sigma: at the end of a
word it becomes a final sigma, elsewhere a medial one.
-/

namespace EmojiText.Text

/-- The Greek capital letter sigma. -/
def capitalSigma : CodePoint := 0x3A3

/-- The first code point that is not a mark between letters has a case. -/
def startsCased (t : Text) : Bool :=
  match t.dropWhile CodePoint.isCaseIgnorable with
  | c :: _ => c.isCased
  | [] => false

/-- The small sigma for a capital one that follows `before`, given in reverse, and precedes `after`:
final if a letter comes before it and none after it. -/
def smallSigma (before after : Text) : CodePoint :=
  if startsCased before && !startsCased after then 0x3C2 else 0x3C3

/-- The lower-case form of a text that follows `before`, given in reverse. -/
def lowercaseAfter (before : Text) : Text → Text
  | [] => []
  | c :: after =>
    (if c = capitalSigma then [smallSigma before after] else lowercaseMap.apply c)
      ++ lowercaseAfter (c :: before) after

/-- The lower-case form of a text. -/
def lowercase (t : Text) : Text := lowercaseAfter [] t

end EmojiText.Text
