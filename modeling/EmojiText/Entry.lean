import EmojiText.Platform
import EmojiText.Validation
import EmojiText.Log

/-!
Entries of a dataset.

An entry is an object with some known members, all of which may be missing; others are ignored. The
variations of an entry stay as they were read: each is an entry of its own and is checked on its
own, so a bad one does not spoil the others. They are values, and so an entry that was checked
before does not stand among them. `Entry.ofRaw` says in the log why an entry is dropped.
-/

namespace EmojiText

/-- An entry of a dataset. -/
structure Entry where
  shortNames : List Text
  unified : Option Text
  nonQualified : Option Text
  platforms : PlatformSet
  skinVariations : List (Text × Json)
deriving Repr

/-- An entry before it is checked, or one that was checked before. -/
inductive RawEntry where
  | value (value : Json)
  | entry (entry : Entry)
deriving Repr

namespace Entry

/-- The entry that the members of an object describe. -/
def ofMembers (members : List (Text × Json)) : Checked Entry :=
  let flag (name : Text) : Checked Bool := Json.checkMember members name false Json.checkFlag
  let build shortNames unified nonQualified apple google twitter facebook skinVariations : Entry :=
    { shortNames, unified, nonQualified, skinVariations
      platforms := { apple, google, twitter, facebook } }
  build
    <$> Json.checkMember members "short_names" [] Json.checkTexts
    <*> Json.checkMember members "unified" none Json.checkOptionalText
    <*> Json.checkMember members "non_qualified" none Json.checkOptionalText
    <*> flag "has_img_apple"
    <*> flag "has_img_google"
    <*> flag "has_img_twitter"
    <*> flag "has_img_facebook"
    <*> Json.checkMember members "skin_variations" [] Json.checkMembers

/-- The entry that a value describes. -/
def ofJson : Json → Checked Entry
  | .object members => ofMembers members
  | input => .fail .notEntry input

/-- The part of the program that writes about entries and records. -/
def origin : Text := "emoji_records"

/-- The entry that a raw one holds. If there is none, the log gets the first reason. -/
def ofRaw : RawEntry → Logged (Option Entry)
  | .entry entry => pure (some entry)
  | .value (.object members) =>
    match ofMembers members with
    | .valid entry => pure (some entry)
    | .invalid first _ => do
      Logged.record .warning origin ("Запись датасета отброшена: " ++ first.kind.message)
      return none
  | .value other => do
    Logged.record .warning origin ("Запись датасета не является объектом: " ++ other.kind)
    return none

end Entry

end EmojiText
