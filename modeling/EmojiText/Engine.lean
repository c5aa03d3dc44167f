import EmojiText.Dataset
import EmojiText.Segment
import EmojiText.ShortCode

/-!
Engines: a loaded dataset with its index and its handles, and the questions that are asked of it.

A load replaces everything that is published, an unreadable dataset by nothing; the choice of
another set of images replaces the handles alone. An `Engine.Call` changes an engine, writes to the
log and may fail; what it changed before it failed stays changed.
-/

namespace EmojiText

/-- What an engine is made with and keeps. -/
structure EngineSettings where
  addresses : ImageAddresses := .standard
  scale : Binary64 := Handle.defaultScale
  toneNames : ToneNames := .standard

/-- What an engine publishes: an index, the handles of its records, and the set they are drawn from.
-/
structure Published where
  index : Index
  handles : Array Handle
  emojiSet : Platform

/-- An engine. -/
structure Engine where
  settings : EngineSettings
  published : Published
  isLoaded : Bool
  loadError : Option Text

namespace Published

/-- Nothing but a set of images. -/
def empty (emojiSet : Platform) : Published := ⟨∅, #[], emojiSet⟩

variable (published : Published)

/-- The handle of a record. -/
def handleOf (id : published.index.Id) : Option Handle := published.handles[id.val]?

/-- The segments of a text. -/
def scan (text : Text) : List Segment := published.index.scan published.handleOf text

end Published

namespace Engine

/-- The default set of images. -/
def defaultEmojiSet : Platform := .twitter

/-- The engine without a dataset. -/
def new (emojiSet : Platform) (settings : EngineSettings) : Engine :=
  ⟨settings, .empty emojiSet, false, none⟩

/-- The part of the program that writes about engines. -/
def origin : Text := "emoji_engine"

/-- The report on a published dataset. -/
def publishedMessage (count : Nat) (emojiSet : Platform) : Text :=
  "Опубликовано " ++ Text.ofNat count ++ " эмодзи (набор " ++ emojiSet.label ++ ")"

/-- The report on a failed load. -/
def failedMessage (reason : Text) : Text := "Загрузка эмодзи прервана, движок пуст: " ++ reason

/-- The report on another set of images. -/
def appliedMessage (emojiSet : Platform) : Text := "Набор эмодзи изменен на " ++ emojiSet.label

/-! ### Calls -/

/-- A computation that changes an engine. -/
abbrev Call (α : Type) : Type := ExceptT Failure (StateT Engine Logged) α

namespace Call

variable {α : Type}

/-- The outcome of a call and the engine after it, with all records written. -/
def runIn (engine : Engine) (call : Call α) : Logged (Except Failure α × Engine) :=
  StateT.run (ExceptT.run call) engine

/-- Carries out an attempt, which changes nothing. -/
def perform (attempt : Attempt Failure α) : Call α :=
  ExceptT.mk (StateT.lift (ExceptT.run attempt))

/-- Writes one record. -/
def report (level : Level) (message : Text) : Call Unit :=
  perform (ExceptT.lift (Logged.record level origin message))

/-- The handles of an index for a set of images. -/
def resolve (index : Index) (emojiSet : Platform) : Call (Array Handle) := do
  let settings := (← get).settings
  perform (Handle.resolve index emojiSet settings.addresses settings.scale)

/-- Publishes an index and its handles. -/
def publish (index : Index) : Call Bool := do
  let emojiSet := (← get).published.emojiSet
  let handles ← resolve index emojiSet
  modify fun engine => { engine with
    published := ⟨index, handles, emojiSet⟩
    isLoaded := true
    loadError := none }
  report .info (publishedMessage index.size emojiSet)
  return true

/-- Publishes nothing, because of a fault. -/
def publishFailure (cause : Fault) : Call Bool := do
  modify fun engine => { engine with
    published := .empty engine.published.emojiSet
    isLoaded := false
    loadError := some cause.summary }
  report .error (failedMessage cause.summary)
  return false

/-- Publishes the records that an attempt to load them gives. -/
def loadRecords (records : Attempt Failure (List Record)) : Call Bool := do
  match ← perform (ExceptT.lift (ExceptT.run records)) with
  | .ok records => publish (← perform (ExceptT.lift (Index.build records)))
  -- only a fault of the dataset empties the engine, any other failure leaves it as it was
  | .error (.fault cause) => publishFailure cause
  | .error failure => throw failure

/-- Loads a dataset; whether it was loaded. -/
def load (source : Text) (data : DatasetSource) (room : Nat := Json.defaultRoom) : Call Bool := do
  loadRecords (Dataset.load (← get).settings.toneNames source data room)

/-- Loads a dataset from a file; whether it was loaded. -/
def loadFile (files : FileTree) (path : Path) (room : Nat := Json.defaultRoom) : Call Bool := do
  loadRecords (Dataset.loadFile (← get).settings.toneNames files path room)

/-- Changes the set of images, unless it is the one in use. -/
def choose (emojiSet : Platform) : Call Unit := do
  let published := (← get).published
  if published.emojiSet ≠ emojiSet then
    let handles ← resolve published.index emojiSet
    modify fun engine => { engine with published := { published with handles, emojiSet } }
    report .info (appliedMessage emojiSet)

/-- Changes the set of images to the one that a name stands for. -/
def applyEmojiSet (name : Text) : Call Unit :=
  match Platform.ofLabel? name with
  | some emojiSet => choose emojiSet
  | none => throw (.unknownPlatform name)

end Call

variable (engine : Engine)

/-- The engine after a call that does not fail. -/
def attempt {α : Type} (call : Call α) : Attempt Failure Engine := ExceptT.mk do
  let (outcome, engine) ← call.runIn engine
  return outcome.map fun _ => engine

/-- The engine after a load from a dataset. -/
def load (source : Text) (data : DatasetSource) (room : Nat := Json.defaultRoom) :
    Attempt Failure Engine :=
  engine.attempt (.load source data room)

/-- The engine after a load from a file. -/
def loadFile (files : FileTree) (path : Path) (room : Nat := Json.defaultRoom) :
    Attempt Failure Engine :=
  engine.attempt (.loadFile files path room)

/-- The engine with the set of images that a name stands for. -/
def applyEmojiSet (name : Text) : Attempt Failure Engine := engine.attempt (.applyEmojiSet name)

/-! ### Reading -/

/-- The segments of a text. -/
def parse (text : Text) : List Segment := engine.published.scan text

/-- The records of the emoji in a text. -/
def findEmoji (text : Text) : List Record := (engine.parse text).filterMap Segment.record?

/-- The text with the emoji in the places of their short codes. -/
def replaceShortCodes (text : Text) : Logged Text := engine.published.index.replaceShortCodes text

/-- The record with a short code, which may stand between colons. -/
def ofShortCode? (code : Text) : Option Record :=
  engine.published.index.ofShortCode? (code.trim (· = Token.colon))

/-- The record with a unified code. -/
def ofUnifiedCode? (code : Text) : Option Record := engine.published.index.ofUnifiedCode? code

/-- The handle of the record with a unified code. -/
def handleOf? (code : Text) : Option Handle :=
  (engine.published.index.idOfUnifiedCode? code).bind engine.published.handleOf

/-- The short codes that start with a text, which may have colons in front. -/
def completions (start : Text) (limit : Option Int) : List Text :=
  engine.published.index.completions (start.dropWhile (· = Token.colon)) limit

/-- All short codes in ascending order. -/
def shortCodes : List Text := engine.published.index.shortCodes

/-- The set of images in use. -/
def emojiSet : Platform := engine.published.emojiSet

/-- The number of records. -/
def count : Nat := engine.published.index.size

end Engine

end EmojiText
