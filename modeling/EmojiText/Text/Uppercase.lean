import EmojiText.Text.Uppercase.Table

/-!
Upper-case forms of texts: letters map one by one, and some letters become several.
-/

namespace EmojiText.Text

/-- The upper-case form of a text. -/
def uppercase (t : Text) : Text := t.flatMap uppercaseMap.apply

/-- The text with each letter in its upper-case form, as it is where that would be several. -/
def capitals (t : Text) : Text :=
  t.flatMap fun c =>
    match uppercaseMap.apply c with
    | [capital] => [capital]
    | _ => [c]

@[simp] theorem uppercase_nil : uppercase [] = [] := rfl

theorem uppercase_append (s t : Text) : uppercase (s ++ t) = uppercase s ++ uppercase t :=
  List.flatMap_append

end EmojiText.Text
