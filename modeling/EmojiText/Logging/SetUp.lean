import EmojiText.Session

/-!
Setting up the log: sinks for the console, for a file of all records and for a file of errors.

A set-up takes the place of the one before it. It can fail on the way, and then the sinks that were
added so far stay; a set-up from the configuration that fails is followed by one with the default
options. The directory of the log files is created as it is named, while the paths of the files are
patterns.
-/

namespace EmojiText.Logging

/-- What a set-up is made with. -/
structure Options where
  level : Text := "INFO"
  rotation : Text := "10 MB"
  retention : Text := "30 days"
  directory : Text := "logs"
deriving DecidableEq, Repr

namespace Options

/-- The options that a configuration holds. -/
def ofConfig (config : Config) : Options where
  level := config.logLevel
  rotation := config.logRotation
  retention := config.logRetention
  directory := config.logDir

/-- The directory of the log files. -/
def directoryPath (options : Options) : Path := Path.ofText options.directory

/-- The pattern of the path of a log file. -/
def pattern (options : Options) (name : Text) : Text := (options.directoryPath.child name).text

/-- The file of all records from debugging on. -/
def recordsFile (options : Options) : LogFile where
  pattern := options.pattern "emojicore.log"
  rotation := options.rotation
  retention := options.retention
  level := .debug
  lineEnding := []

/-- The file of errors, whose lines have an empty column at their end. -/
def errorsFile (options : Options) : LogFile where
  pattern := options.pattern "errors.log"
  rotation := "5 MB"
  retention := "60 days"
  level := .error
  lineEnding := " | "

/-- What a set-up asks for, in this order. -/
def handlers (options : Options) : List Handler :=
  [.console options.level, .file options.recordsFile, .file options.errorsFile]

end Options

/-- The part of the program that writes about set-ups. -/
def origin : Text := "logging_config"

/-- The records about a set-up. -/
def reports (options : Options) : List LogRecord := [
  ⟨.info, some origin, "Логирование настроено успешно"⟩,
  ⟨.debug, some origin, "Уровень логирования: " ++ options.level⟩,
  ⟨.debug, some origin, "Ротация файлов: " ++ options.rotation⟩,
  ⟨.debug, some origin, "Время хранения: " ++ options.retention⟩]

/-- Adds a sink for each of the handlers, one after the other. -/
def addAll : List Handler → Procedure Unit
  | [] => return
  | handler :: handlers => do
    Procedure.operate (·.add handler)
    addAll handlers

/-- Puts the sinks of a set-up in the place of those in use. -/
def replaceSinks (options : Options) : Procedure Unit := do
  Procedure.changeFiles (FileChange.makeDirectories options.directoryPath)
  -- from here on a failure leaves the log with fewer sinks than before
  Procedure.operate (·.removeAll)
  addAll options.handlers

/-- Sets up the log. -/
def setUp (options : Options) : Procedure Unit := do
  replaceSinks options
  Procedure.write (reports options)

/-- The report on a set-up from the configuration that failed. -/
def fallbackMessage (failure : Failure) : Text :=
  "Ошибка загрузки конфигурации для логирования: " ++ failure.message

/-- Sets up the log from the configuration of the session, or with the default options. -/
def setUpFromConfig : Procedure Unit :=
  tryCatch
    (do
      let config ← Session.getConfig
      setUp (.ofConfig config.value))
    fun failure => do
      setUp {}
      Procedure.write [⟨.error, some origin, fallbackMessage failure⟩]

end EmojiText.Logging
