import EmojiText.Failure
import EmojiText.Files.Tree
import EmojiText.Record
import EmojiText.Tone

/-!
Datasets: lists of entries, each with its variations of skin tone.

The records of a dataset come in the order of its entries, the variations of an entry right after
it. What is wrong with one entry or variation drops it alone and is told in the log; only a document
that holds no list is refused as a whole.
-/

namespace EmojiText

/-- What a dataset is loaded from: a JSON document, or a value that was read before. The items of
such a value are values, too; entries that were checked before do not stand among them. -/
inductive DatasetSource where
  | document (source : Json.Source)
  | value (value : Json)
deriving Repr

namespace Dataset

/-- The part of the program that writes about datasets. -/
def origin : Text := "emoji_loader"

/-- The warning about a variation whose key has no known tone. -/
def unknownTonesWarning (key shortCode : Text) (fault : Fault) : Text :=
  "Вариация " ++ key ++ " эмодзи :" ++ shortCode ++ ": отброшена: " ++ fault.message

/-- The short code of a variation. -/
def variantShortCode (primary toneName : Text) : Text := primary ++ "_" ++ toneName

/-- The record of one variation of the emoji with the given primary short code. -/
def variant (primary : Text) (names : ToneNames) (key : Text) (raw : Json) :
    Logged (Option Record) := do
  match ← ExceptT.run (names.nameOf key) with
  | .error fault =>
    Logged.record .warning ToneNames.origin (unknownTonesWarning key primary fault)
    return none
  | .ok toneName =>
    match ← Entry.ofRaw (.value raw) with
    | none => return none
    | some entry => entry.record (some (variantShortCode primary toneName))

/-- The records of the variations of an emoji, in the order of their keys. -/
def variants (primary : Text) (names : ToneNames) : List (Text × Json) → Logged (List Record)
  | [] => pure []
  | (key, raw) :: rest => do
    let record ← variant primary names key raw
    (record.toList ++ ·) <$> variants primary names rest

/-- The records of one raw entry: none if it is dropped, else its own and those of its variations.
-/
def entryRecords (names : ToneNames) (raw : RawEntry) : Logged (Option (List Record)) := do
  match ← Entry.ofRaw raw with
  | none => return none
  | some entry =>
    match ← entry.record none with
    | none => return none
    | some record =>
      let variants ← variants (record.primaryShortCode?.getD []) names entry.skinVariations
      return some (record :: variants)

/-- The records of each raw entry. -/
def recordGroups (names : ToneNames) : List RawEntry → Logged (List (Option (List Record)))
  | [] => pure []
  | raw :: rest => do
    let records ← entryRecords names raw
    (records :: ·) <$> recordGroups names rest

/-- The report on a loaded dataset. -/
def loadedMessage (records entries dropped : Nat) (source : Text) : Text :=
  "Загружено " ++ Text.ofNat records ++ " эмодзи из " ++ Text.ofNat entries ++ " записей ("
    ++ source ++ "), отброшено: " ++ Text.ofNat dropped

/-- The records of a list of raw entries. -/
def ofEntries (names : ToneNames) (source : Text) (entries : List RawEntry) :
    Logged (List Record) := do
  let groups ← recordGroups names entries
  let records := (groups.filterMap id).flatten
  let dropped := groups.countP (·.isNone)
  Logged.record .info origin (loadedMessage records.length entries.length dropped source)
  return records

/-- The source of a dataset without a name of its own. -/
def unnamedSource : Text := "<memory>"

/-- The fault of a document that is no JSON. -/
def notJson (source reason : Text) : Fault :=
  .unreadable source (some ("JSON parse error: " ++ reason))

/-- The items of a value that is a list. -/
def itemsOfValue (source : Text) : Json → Attempt Failure (List Json)
  | .array items => pure items
  | value => .announce (.unreadable source (some ("ожидался массив, получено " ++ value.kind)))

/-- The items of a document that holds a list. -/
def itemsOfDocument (source : Text) (document : Json.Source) (room : Nat := Json.defaultRoom) :
    Attempt Failure (List Json) :=
  match Json.ofSource document room with
  | .ok value => itemsOfValue source value
  | .error (.integerTooLong digits) => throw (.integerTooLong digits)
  | .error (.tooDeep container) => throw (.tooDeep container)
  | .error (.encoding error) => .announce (notJson source error.message)
  | .error (.syntaxError error) => .announce (notJson source error.message)

/-- The items of a dataset. A string among the values is read as a document. -/
def items (source : Text) (data : DatasetSource) (room : Nat := Json.defaultRoom) :
    Attempt Failure (List Json) :=
  match data with
  | .document document => itemsOfDocument source document room
  | .value (.string text) => itemsOfDocument source (.text text) room
  | .value value => itemsOfValue source value

/-- The records of a dataset, in whose documents values may nest as deep as there is room. -/
def load (names : ToneNames) (source : Text) (data : DatasetSource)
    (room : Nat := Json.defaultRoom) : Attempt Failure (List Record) := do
  let items ← items source data room
  ExceptT.lift (ofEntries names source (items.map .value))

/-- The records of a dataset in a file. -/
def loadFile (names : ToneNames) (files : FileTree) (path : Path)
    (room : Nat := Json.defaultRoom) : Attempt Failure (List Record) :=
  match files.read path with
  | .ok content => load names path.text (.document (.bytes content)) room
  | .error (.fault fault place) =>
    .announce (.unreadable path.text (some (FileError.fault fault place).message))
  -- a path that is refused is no fault of the dataset
  | .error error => throw (.file error)

end Dataset

end EmojiText
