import EmojiText.Code
import EmojiText.Entry
import EmojiText.Text.Uppercase

/-!
Records, which hold what is known about one emoji, and how they are made from entries.

An entry makes a record if it has a short code that is not empty and its code lists code points; the
log says why another entry makes none.
-/

namespace EmojiText

/-- What is known about one emoji. -/
structure Record where
  shortCodes : List Text
  unifiedCode : Text
  text : Text
  nonQualifiedCode : Option Text
  platforms : PlatformSet
deriving DecidableEq, Repr

namespace Record

/-- The short code that stands for the record. -/
def primaryShortCode? (record : Record) : Option Text := record.shortCodes.head?

/-- Whether a platform has an image of the emoji. -/
def supports (record : Record) (platform : Platform) : Bool := record.platforms.contains platform

/-- The record in messages, under the short code that stands for it. -/
def description (record : Record) (shortCode : Text) : Text :=
  "EmojiRecord(short_code='" ++ shortCode ++ "', unified='" ++ record.unifiedCode ++ "', length="
    ++ Text.ofNat record.text.length ++ ")"

end Record

/-- The first text if it is there and not empty, else the second. -/
def orText : Option Text → Option Text → Option Text
  | none, second | some [], second => second
  | first, _ => first

namespace Entry

/-- The code from which the text is made: the one without variation selectors if there is one. -/
def code (entry : Entry) : Option Text := orText entry.nonQualified entry.unified

/-- The text of the emoji. -/
def text (entry : Entry) : Except CodeFault Text := Code.codePoints? entry.code

/-- The text of the emoji, a refused code as a fault. -/
def decodedText (entry : Entry) : Except Fault Text :=
  entry.text.mapError (·.toFault entry.code)

/-- The key of the emoji: the full code in upper case. -/
def unifiedCode (entry : Entry) : Text :=
  ((orText entry.unified entry.nonQualified).getD []).uppercase

/-- The short codes of the record: the given one if it is not empty, else those of the entry that
are not empty. -/
def shortCodes (entry : Entry) (shortCode : Option Text) : List Text :=
  match shortCode with
  | none | some [] => entry.shortNames.filter (· ≠ [])
  | some code => [code]

/-- The record with the given short codes and text. -/
def recordWith (entry : Entry) (shortCodes : List Text) (text : Text) : Record where
  shortCodes := shortCodes
  unifiedCode := entry.unifiedCode
  text := text
  nonQualifiedCode := entry.nonQualified
  platforms := entry.platforms

/-- The warning about an entry without short codes. -/
def noShortCodeWarning (entry : Entry) : Text :=
  "Эмодзи " ++ entry.unified.getD "None" ++ " без алиасов, пропускаем"

/-- The warning about an entry whose code is refused. -/
def refusedWarning (shortCode : Text) (fault : Fault) : Text :=
  "Эмодзи :" ++ shortCode ++ ": отброшен: " ++ fault.message ++ " ("
    ++ fault.details.getD "None" ++ ")"

/-- The record of an entry. A given short code takes the place of those of the entry. -/
def record (entry : Entry) (shortCode : Option Text) : Logged (Option Record) :=
  match entry.shortCodes shortCode with
  | [] => do
    Logged.record .warning origin entry.noShortCodeWarning
    return none
  | primary :: others =>
    match entry.decodedText with
    | .ok text => pure (some (entry.recordWith (primary :: others) text))
    | .error fault => do
      Logged.record .warning origin (refusedWarning primary fault)
      return none

end Entry

end EmojiText
