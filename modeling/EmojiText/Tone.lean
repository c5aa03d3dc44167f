import EmojiText.Fault
import EmojiText.Table
import EmojiText.Text.Blank
import EmojiText.Text.Uppercase

/-!
Skin tones. A key of variations lists modifiers with hyphens between them, and a table gives each
modifier a name; the names of a key are those of its modifiers that the table knows, in the same
order.
-/

namespace EmojiText

/-- The names of skin tone modifiers. -/
abbrev ToneNames : Type := Table Text Text

namespace ToneNames

/-- The five modifiers of Unicode. -/
def standard : ToneNames := Table.ofList [
  ("1F3FB", "tone1"), ("1F3FC", "tone2"), ("1F3FD", "tone3"), ("1F3FE", "tone4"),
  ("1F3FF", "tone5")]

/-- The separator of modifiers and of names. -/
def hyphen : CodePoint := 0x2D

/-- The part of the program that writes about variations. -/
def origin : Text := "emoji_variants"

/-- A modifier as the table has it. -/
def modifier (part : Text) : Text := part.strip.uppercase

/-- The parts of a key with the names that the table has for them. -/
def parts (names : ToneNames) (key : Text) : List (Text × Option Text) :=
  (key.split hyphen).map fun part => (part, names.find? (modifier part))

/-- The names of the tones that the table knows. -/
def known (names : ToneNames) (key : Text) : List Text := (names.parts key).filterMap (·.2)

/-- The records about the parts of a key that the table does not know. -/
def unknownRecords (names : ToneNames) (key : Text) : List LogRecord :=
  ((names.parts key).filter (·.2.isNone)).map fun part =>
    ⟨.debug, some origin, "Тон " ++ part.1 ++ " отсутствует в таблице имен тонов"⟩

/-- The name of a key: the names of its known tones with hyphens between them. -/
def nameOf (names : ToneNames) (key : Text) : Attempt Fault Text := do
  ExceptT.lift (Logged.write (names.unknownRecords key))
  match names.known key with
  | [] => throw (.unknownTones key)
  | known => return Text.join [hyphen] known

end ToneNames

end EmojiText
