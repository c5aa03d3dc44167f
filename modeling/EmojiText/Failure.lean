import EmojiText.Fault
import EmojiText.Files.Path
import EmojiText.Json.Bytes
import EmojiText.Logging.Pattern
import EmojiText.Logging.Schedule
import EmojiText.Validation

/-!
The causes for which an operation can fail, and what is said about each of them.
-/

namespace EmojiText

/-- Why an operation failed. -/
inductive Failure where
  /-- A fault of a dataset. -/
  | fault (fault : Fault)
  /-- Arguments from which no fault can be made. -/
  | arguments (fault : ArgumentFault)
  /-- A configuration with problems, of which there is at least one. -/
  | configuration (first : Problem) (others : List Problem)
  /-- A name that is no platform's. -/
  | unknownPlatform (name : Text)
  /-- An integer with more digits than are read. -/
  | integerTooLong (digits : Nat)
  /-- An array or an object inside of more of them than there is room for. -/
  | tooDeep (container : Json.Container)
  /-- A failed operation on a file. -/
  | file (error : FileError)
  /-- Bytes that encode no text. -/
  | encoding (error : EncodingError)
  /-- A record without a short code where one is needed. -/
  | noShortCode
  /-- A record number outside an index. -/
  | noRecord
  /-- A position outside a text. -/
  | noPosition
  /-- A text of so many code points in the place of a single one. -/
  | notSingle (length : Nat)
  /-- A name that is no level's. -/
  | unknownLevel (name : Text)
  /-- A text that does not say when a log file is renewed or dropped. -/
  | schedule (fault : Logging.ScheduleFault)
  /-- A text that is no pattern of the path of a log file. -/
  | pattern (fault : Logging.PatternFault)
  /-- A failure of something outside of the program, with its wording. -/
  | outside (message : Text)
deriving Repr

/-- The wording of a failure. -/
def Failure.message : Failure → Text
  | fault cause => cause.message
  | arguments cause => cause.message
  | configuration first others => Problem.report "Config" (first :: others)
  | unknownPlatform name => "Неизвестная платформа эмодзи: " ++ name
  | integerTooLong digits =>
    "Exceeds the limit (" ++ Text.ofNat Json.maxIntegerDigits
      ++ " digits) for integer string conversion: value has " ++ Text.ofNat digits
      ++ " digits; use sys.set_int_max_str_digits() to increase the limit"
  | tooDeep container =>
    "maximum recursion depth exceeded while decoding a JSON " ++ container.label
      ++ " from a unicode string"
  | file error => error.message
  | encoding error => error.message
  | noShortCode => "tuple index out of range"
  | noRecord => "tuple index out of range"
  | noPosition => "string index out of range"
  | notSingle length =>
    "ord() expected a character, but string of length " ++ Text.ofNat length ++ " found"
  | unknownLevel name => "Level '" ++ name ++ "' does not exist"
  | schedule cause => cause.message
  | pattern cause => cause.message
  | outside message => message

/-- Fails with a fault and announces it. -/
def Attempt.announce {α : Type} (cause : Fault) : Attempt Failure α := do
  ExceptT.lift (Logged.write cause.announcement)
  throw (.fault cause)

end EmojiText
