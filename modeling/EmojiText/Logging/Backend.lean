import EmojiText.Failure
import EmojiText.Files.Change
import EmojiText.Logging.Expansion
import EmojiText.Logging.Sink

/-!
Backends: what removes sinks, adds them, and writes records to them.

A program only asks for these operations, each of which may fail and change files and sinks before
it does. The usual backend reads the path of a log file as a pattern, checks when the file is
renewed and dropped, and opens it.
-/

namespace EmojiText.Logging

/-! ### Operations -/

/-- What an operation on sinks finds and may change, at a moment. -/
structure Surroundings where
  files : FileTree
  logbook : Logbook
  moment : Moment

/-- An operation on sinks, with what it leaves whether it succeeds or fails. -/
abbrev Operation : Type := Surroundings → Except Failure Unit × Surroundings

/-- The operations on sinks, and how a record is written to them at a moment. -/
structure Backend where
  removeAll : Operation
  add : Handler → Operation
  emit : Moment → Logbook → LogRecord → Logbook

/-! ### Log files -/

namespace LogFile

/-- Checks the pattern of the path of a file, and when the file is renewed and dropped. -/
def check (file : LogFile) : Except Failure Unit := do
  if let some fault := (Pattern.ofText file.pattern).fault then throw (.pattern fault)
  (checkRotation file.rotation).mapError .schedule
  (checkRetention file.retention).mapError .schedule

/-- The path of a file that is opened at a moment. -/
def path (file : LogFile) (moment : Moment) (files : FileTree) : Except Failure Path :=
  match expand moment file.pattern with
  | .ok path => .ok (files.absolute (Path.ofText path))
  | .error fault => .error (.pattern fault)

end LogFile

/-- Opens a log file, with the directories on the way to it. -/
def openLog (path : Path) : FileChange Unit := do
  FileChange.makeMissing path.parent
  FileChange.openToAppend path

/-! ### The usual backend -/

/-- Adds a sink for the console. -/
def addConsole (level : Text) (around : Surroundings) : Except Failure Unit × Surroundings :=
  match Level.ofLabel? level with
  | none => (.error (.unknownLevel level), around)
  | some known =>
    let logbook := around.logbook.add (.console level) .console known
    (.ok (), { around with logbook })

/-- Adds a sink for a file, which is checked and then opened. -/
def addFile (file : LogFile) (around : Surroundings) : Except Failure Unit × Surroundings :=
  match file.check >>= fun _ => file.path around.moment around.files with
  | .error failure => (.error failure, around)
  | .ok path =>
    match around.files.change (openLog path) with
    | (.error error, files) => (.error (.file error), { around with files })
    | (.ok (), files) =>
      let logbook := around.logbook.add (.file file) (.file path file.lineEnding) file.level
      (.ok (), { around with files, logbook })

/-- The usual backend. -/
def Backend.standard : Backend where
  removeAll around := (.ok (), { around with logbook := around.logbook.clear })
  add
    | .console level => addConsole level
    | .file file => addFile file
  emit := Logbook.write

end EmojiText.Logging
