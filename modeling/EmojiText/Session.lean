import EmojiText.Config.Basic
import EmojiText.Engine
import EmojiText.Files.Change
import EmojiText.Logging.Backend

/-!
Sessions: what lasts from one call to the next.

A session holds the environment, the files, the log, and one configuration and one engine once they
are made. They are made when they are first asked for, and again on a reload. Each one that is made
gets a number of its own, so that it can be told from others with the same content.

How the values of a configuration are read, what becomes of sinks and records, and how deep the
values of a document may nest is said by the session, too, and none of its calls changes it.

A `Procedure` changes a session, writes to the log and may fail; what it changed before it failed
stays changed.
-/

namespace EmojiText

/-- Something with the number under which it was made. -/
structure Made (α : Type) where
  number : Nat
  value : α

/-- What lasts from one call to the next. -/
structure Session where
  environment : Table Text Text
  files : FileTree
  config : Option (Made Config) := none
  engine : Option (Made Engine) := none
  made : Nat := 0
  logbook : Logging.Logbook := .empty
  moment : Moment
  rules : Config.Rules := .standard
  backend : Logging.Backend := .standard
  room : Nat := Json.defaultRoom

/-- What an operation on the sinks of a session finds. -/
def Session.surroundings (session : Session) : Logging.Surroundings :=
  ⟨session.files, session.logbook, session.moment⟩

/-- The session after an operation on its sinks. -/
def Session.withSurroundings (session : Session) (around : Logging.Surroundings) : Session :=
  { session with files := around.files, logbook := around.logbook }

/-- A computation that changes a session. -/
abbrev Procedure (α : Type) : Type := ExceptT Failure (StateT Session Logged) α

namespace Procedure

variable {α : Type}

/-- Writes records, also to the sinks in use. -/
def write (records : List LogRecord) : Procedure Unit := do
  modify fun session =>
    let logbook := records.foldl (session.backend.emit session.moment) session.logbook
    { session with logbook }
  ExceptT.lift (StateT.lift (Logged.write records))

/-- A procedure that changes nothing and writes nothing. -/
def ofExcept (outcome : Except Failure α) : Procedure α :=
  match outcome with
  | .ok value => pure value
  | .error failure => throw failure

/-- Changes the files of the session. -/
def changeFiles (change : FileChange α) : Procedure α := do
  let session ← get
  let (outcome, files) := session.files.change change
  set { session with files }
  ofExcept (outcome.mapError .file)

/-- Carries out an operation on sinks. -/
def operate (operation : Logging.Backend → Logging.Operation) : Procedure Unit := do
  let session ← get
  let (outcome, around) := operation session.backend session.surroundings
  set (session.withSurroundings around)
  ofExcept outcome

/-- Carries out an attempt. -/
def perform (attempt : Attempt Failure α) : Procedure α := do
  write attempt.log
  match attempt.outcome with
  | .ok value => return value
  | .error failure => throw failure

/-- The outcome of a procedure in a session and the session after it, with all records written. -/
def runIn (session : Session) (procedure : Procedure α) :
    Logged (Except Failure α × Session) :=
  StateT.run (ExceptT.run procedure) session

end Procedure

namespace Session

/-- Numbers something that was made. -/
def number {α : Type} (value : α) : Procedure (Made α) := do
  let session ← get
  set { session with made := session.made + 1 }
  return ⟨session.made, value⟩

/-! ### The configuration -/

/-- The configuration of the session, which is made if there is none. -/
def getConfig : Procedure (Made Config) := do
  let session ← get
  match session.config with
  | some config => return config
  | none =>
    let config ← Procedure.ofExcept
      (Config.load [] session.environment session.files session.rules)
    let config ← number config
    -- the configuration stays even if the report on it fails
    modify fun session => { session with config := some config }
    Procedure.perform (config.value.inspect session.files)
    return config

/-- The configuration of the session, made anew. -/
def reloadConfig : Procedure (Made Config) := do
  modify fun session => { session with config := none }
  getConfig

/-! ### The engine -/

/-- The settings of an engine for a configuration. -/
def engineSettings (config : Config) : EngineSettings where
  addresses := .below config.cdnBase config.imageSize
  scale := config.imageScale

/-- A new engine with the dataset of the configuration. -/
def makeEngine : Procedure (Made Engine) := do
  let config ← getConfig
  let session ← get
  let engine := Engine.new config.value.emojiSet (engineSettings config.value)
  let engine ← Procedure.perform
    (engine.loadFile session.files config.value.datasetFile session.room)
  number engine

/-- The engine of the session, made anew. -/
def reloadEngine : Procedure (Made Engine) := do
  let engine ← makeEngine
  modify fun session => { session with engine := some engine }
  return engine

/-- The engine of the session, which is made if there is none. -/
def getEngine : Procedure (Made Engine) := do
  match (← get).engine with
  | some engine => return engine
  | none => reloadEngine

/-! ### The environment and the files -/

/-- The session with some variables of the environment set, and those without a value unset. -/
def setVariables (changes : List (Text × Option Text)) (session : Session) : Session :=
  let change (environment : Table Text Text) : Text × Option Text → Table Text Text
    | (name, some value) => environment.insert name value
    | (name, none) => environment.erase name
  { session with environment := changes.foldl change session.environment }

end Session

end EmojiText
