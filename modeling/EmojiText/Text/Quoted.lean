import EmojiText.Text.Printable

/-!
Quoted texts for messages and listings. A text stands between single quotes, or between double ones
if it holds a single quote and no double one; backslashes, the quote in use and everything that
cannot be shown are escaped.
-/

namespace EmojiText.Text

/-- The backslash. -/
def backslash : CodePoint := 0x5C

/-- The single quote. -/
def singleQuote : CodePoint := 0x27

/-- The double quote. -/
def doubleQuote : CodePoint := 0x22

/-- A number in lower-case hexadecimal with the given number of digits, the highest ones cut off. -/
def hexDigits : Nat → Nat → Text
  | 0, _ => []
  | count + 1, n =>
    hexDigits count (n / 16) ++ ofString (String.singleton (Nat.digitChar (n % 16)))

/-- The quote that stands around a text. -/
def quoteFor (t : Text) : CodePoint :=
  if t.contains singleQuote && !t.contains doubleQuote then doubleQuote else singleQuote

/-- One code point as it stands between quotes. -/
def escape (quote c : CodePoint) : Text :=
  if c = quote || c = backslash then [backslash, c]
  else if c.val = 0x09 then "\\t"
  else if c.val = 0x0A then "\\n"
  else if c.val = 0x0D then "\\r"
  else if c.isPrintable then [c]
  else if c.val < 0x100 then "\\x" ++ hexDigits 2 c.val
  else if c.val < 0x10000 then "\\u" ++ hexDigits 4 c.val
  else "\\U" ++ hexDigits 8 c.val

/-- The text between quotes. -/
def quoted (t : Text) : Text :=
  quoteFor t :: t.flatMap (escape (quoteFor t)) ++ [quoteFor t]

end EmojiText.Text
