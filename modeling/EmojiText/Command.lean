import EmojiText.Logging.SetUp

/-!
The command line: what a command prints, and what becomes of the lines of the input without a
command.

A run starts in a session. What a file of variables adds to the variables of the process is in the
environment of this session already: `Invocation.script` and `Invocation.main` put in nothing.
-/

namespace EmojiText

/-- What a run of the program ends with: its exit code and what it printed. -/
structure Outcome where
  exitCode : Nat
  output : Text
deriving DecidableEq, Repr

namespace Command

/-- The list of the commands. -/
def usage : Text := "Доступные команды: parse <текст>, replace <текст>, complete <префикс>, stats"

/-- A record of the program itself, which names no origin. -/
def programRecord (level : Level) (message : Text) : LogRecord := ⟨level, none, message⟩

/-- A text as a line of its own. -/
def line (t : Text) : Text := t ++ [Text.lineFeed]

/-- The description of a segment. -/
def describe : Segment → Except Failure Text
  | .plain text => .ok ("text   " ++ text.quoted)
  | .emoji record handle =>
    match record.primaryShortCode? with
    | none => .error .noShortCode
    | some code =>
      let url := match handle with | some handle => handle.url | none => "-"
      .ok ("emoji  " ++ record.text.quoted ++ " :" ++ code ++ ": " ++ url)

/-- The description of a text, one line a segment. -/
def describeText (engine : Engine) (text : Text) : Except Failure Text :=
  match (engine.parse text).mapM describe with
  | .ok descriptions => .ok (descriptions.flatMap line)
  | .error failure => .error failure

/-- The figures of an engine. -/
def statistics (engine : Engine) : Text :=
  line ("Эмодзи: " ++ Text.ofNat engine.count)
    ++ line ("Алиасов: " ++ Text.ofNat engine.shortCodes.length)
    ++ line ("Набор: " ++ engine.emojiSet.label)

/-- Carries out a command on the text that its arguments make up. -/
def run (engine : Engine) (command : Text) (arguments : List Text) : Attempt Failure Outcome := do
  let text := Text.join " " arguments
  if command = "parse" then
    return ⟨0, ← Attempt.ofExcept (describeText engine text)⟩
  else if command = "replace" then
    return ⟨0, line (← ExceptT.lift (engine.replaceShortCodes text))⟩
  else if command = "complete" then
    let codes := engine.completions text (some Index.defaultLimit)
    return ⟨0, codes.flatMap fun code => line (":" ++ code ++ ":")⟩
  else if command = "stats" then
    return ⟨0, statistics engine⟩
  else
    ExceptT.lift (Logged.write [
      programRecord .error ("Неизвестная команда: " ++ command), programRecord .info usage])
    return ⟨1, []⟩

/-- The lines of a text without their ends. What follows the last end is a line unless it is empty.
-/
def lines (t : Text) : List Text :=
  let pieces := t.split Text.lineFeed
  if pieces.getLast? = some [] then pieces.dropLast else pieces

/-- The lines of the input with their short codes replaced. -/
def filter (engine : Engine) (input : Text) : Logged Text := do
  let replaced ← (lines (Text.unifyLineEnds input)).mapM engine.replaceShortCodes
  return replaced.flatMap line

end Command

/-- What the program is started with. -/
structure Invocation where
  arguments : List Text
  input : Text

namespace Invocation

/-- The report on a dataset that is not loaded. -/
def notLoadedMessage (config : Config) (engine : Engine) : Text :=
  "💥 Датасет " ++ config.datasetPath ++ " не загружен: " ++ engine.loadError.getD "None"

/-- Runs the program once the variables of the process are there and the log is set up. -/
def main (invocation : Invocation) : Procedure Outcome := do
  let config ← Session.getConfig
  let directory := (← get).files.workingPath
  let directoryMessage := "📂 Рабочая директория: " ++ directory.text
  Procedure.write [Command.programRecord .info directoryMessage]
  let engine ← Session.getEngine
  if !engine.value.isLoaded then
    let message := notLoadedMessage config.value engine.value
    Procedure.write [Command.programRecord .error message]
    return ⟨1, []⟩
  match invocation.arguments with
  | command :: arguments => Procedure.perform (Command.run engine.value command arguments)
  | [] =>
    let output := Command.filter engine.value invocation.input
    Procedure.write output.log
    return ⟨0, output.value⟩

/-- The report on a failure that ends the program. -/
def fatalMessage (failure : Failure) : Text := "💥 Фатальная ошибка: " ++ failure.message

/-- Runs the whole program, once the variables of the process are there: sets up the log and ends
with an exit code whatever happens. -/
def script (invocation : Invocation) : Procedure Outcome :=
  tryCatch
    (do
      Logging.setUpFromConfig
      main invocation)
    fun failure => do
      Procedure.write [Command.programRecord .error (fatalMessage failure)]
      return ⟨1, []⟩

end Invocation

end EmojiText
