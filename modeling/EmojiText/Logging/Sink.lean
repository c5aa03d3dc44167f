import EmojiText.Files.Path
import EmojiText.Log
import EmojiText.Moment.Format
import EmojiText.Table

/-!
Sinks, to which log records go, and what was written to them.

A `Handler` is what a program asks for, and a `Sink` is what is there for one: it takes the records
from a level on. The console gets colours; files get plain lines. Sinks are numbered in the order in
which they were added, so that two for the same handler are told apart.
-/

namespace EmojiText.Logging

/-- A log file: the pattern of its path, when it is renewed and dropped, the level from which on it
takes records, and how its lines end. -/
structure LogFile where
  pattern : Text
  rotation : Text
  retention : Text
  level : Level
  lineEnding : Text
deriving DecidableEq, Repr

/-- What is asked for: the records from a level on at the console, or a log file. -/
inductive Handler where
  | console (level : Text)
  | file (file : LogFile)
deriving DecidableEq, Repr

/-- Where the lines of a sink go: to the console, or to a file whose lines have an ending of their
own. -/
inductive Target where
  | console
  | file (path : Path) (lineEnding : Text)
deriving DecidableEq, Repr

/-- A sink for the records from a level on, with its number. -/
structure Sink where
  number : Nat
  handler : Handler
  target : Target
  level : Level
deriving DecidableEq, Repr

/-- The sinks in use, how many were ever added, and the lines that were written to the console and
to files. -/
structure Logbook where
  sinks : List Sink
  added : Nat
  numbered : ∀ sink ∈ sinks, sink.number < added
  console : Array Text
  files : Table Path (Array Text)

/-- The logbook without sinks. -/
def Logbook.empty : Logbook := ⟨[], 0, nofun, #[], Table.empty⟩

/-- The text of lines, each of which is ended. -/
def textOfLines (lines : Array Text) : Text := lines.toList.flatMap (· ++ [Text.lineFeed])

/-- The format of the moments at which records are written. -/
def stampFormat : Text := "YYYY-MM-DD HH:mm:ss"

/-- The moment at which a record is written. -/
def stampOf (moment : Moment) : Text := moment.tokenized 0 stampFormat

/-- The name of the origin of records that name none. -/
def unnamedOrigin : Text := "__main__"

/-- The origin of a record as it is written. -/
def originText (record : LogRecord) : Text := record.origin.getD unnamedOrigin

/-- The width of the column of levels. -/
def levelWidth : Nat := 8

/-- The name of a level, filled up with spaces. -/
def levelColumn (level : Level) : Text :=
  level.label ++ List.replicate (levelWidth - level.label.length) 0x20

/-- The control sequence that selects a style of the console. -/
def style (number : Nat) : Text := "\x1b[" ++ Text.ofNat number ++ "m"

/-- The numbers of the styles of a level. -/
def levelStyles : Level → List Nat
  | .trace => [36, 1]
  | .debug => [34, 1]
  | .info => [1]
  | .success => [32, 1]
  | .warning => [33, 1]
  | .error => [31, 1]
  | .critical => [41, 1]

/-- A text in some styles. -/
def styled (numbers : List Nat) (t : Text) : Text := numbers.flatMap style ++ t ++ style 0

/-- The line of a record on the console. -/
def consoleLine (stamp : Text) (record : LogRecord) : Text :=
  Text.join " | " [
    styled [32] stamp, styled (levelStyles record.level) (levelColumn record.level),
    styled [36] (originText record), styled (levelStyles record.level) record.message]

/-- The line of a record in a file. -/
def fileLine (stamp : Text) (record : LogRecord) : Text :=
  Text.join " | " [stamp, levelColumn record.level, originText record, record.message]

/-- Whether a sink takes a record. -/
def Sink.takes (sink : Sink) (record : LogRecord) : Bool :=
  sink.level.severity ≤ record.level.severity

namespace Logbook

/-- The logbook after a record went to a sink. -/
def writeTo (stamp : Text) (record : LogRecord) (logbook : Logbook) (sink : Sink) : Logbook :=
  if !sink.takes record then logbook
  else
    match sink.target with
    | .console => { logbook with console := logbook.console.push (consoleLine stamp record) }
    | .file path lineEnding =>
      let lines := (logbook.files.find? path).getD #[]
      let line := fileLine stamp record ++ lineEnding
      { logbook with files := logbook.files.insert path (lines.push line) }

/-- The logbook after a record was written. -/
def write (moment : Moment) (logbook : Logbook) (record : LogRecord) : Logbook :=
  logbook.sinks.foldl (writeTo (stampOf moment) record) logbook

/-- The logbook with one more sink, whose file is there from now on. -/
def add (logbook : Logbook) (handler : Handler) (target : Target) (level : Level) : Logbook where
  sinks := logbook.sinks ++ [⟨logbook.added, handler, target, level⟩]
  added := logbook.added + 1
  numbered := by
    intro sink hmem
    rcases List.mem_append.1 hmem with hbefore | hnew
    · exact Nat.lt_succ_of_lt (logbook.numbered sink hbefore)
    · rw [List.mem_singleton.1 hnew]
      exact Nat.lt_succ_self _
  console := logbook.console
  files :=
    match target with
    | .console => logbook.files
    | .file path _ => logbook.files.insert path ((logbook.files.find? path).getD #[])

/-- The logbook without sinks in use. -/
def clear (logbook : Logbook) : Logbook := { logbook with sinks := [], numbered := nofun }

end Logbook

end EmojiText.Logging
