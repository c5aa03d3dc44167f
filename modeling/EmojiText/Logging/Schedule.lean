import EmojiText.Binary64.Arithmetic
import EmojiText.Binary64.Decimal
import EmojiText.Text.Blank
import EmojiText.Text.Letter
import EmojiText.Text.Lowercase
import EmojiText.Text.Quoted

/-!
Texts that say when a log file is renewed and when it is dropped.

A file is renewed at a size (`10 MB`), after a time (`2 weeks, 3 days`), once in a named period
(`daily`), on a day of the week, at a time of day, or on a day at a time (`monday at 12:00`). It is
dropped after a time. Only what such texts are understood as is decided here: `checkRotation` and
`checkRetention` say whether a text is one, and if not why. A time may be too long to be one.
-/

namespace EmojiText.Logging

/-- Why a text is refused. -/
inductive ScheduleFault where
  | sizeNumber (number : Text)
  | durationNumber (number : Text)
  | durationUnit (unit : Text)
  | day (day : Text)
  | time (time : Text)
  | rotation (text : Text)
  | retention (text : Text)
  | noDuration
  | endlessDuration
  | tooManyDays (days : Int)
  | countlessDays
deriving DecidableEq, Repr

/-- The wording of a refusal. -/
def ScheduleFault.message : ScheduleFault → Text
  | sizeNumber number => "Invalid float value while parsing size: '" ++ number ++ "'"
  | durationNumber number => "Invalid float value while parsing duration: '" ++ number ++ "'"
  | durationUnit unit => "Invalid unit value while parsing duration: '" ++ unit ++ "'"
  | .day name => "Invalid day while parsing daytime: '" ++ name ++ "'"
  | .time text => "Invalid time while parsing daytime: '" ++ text ++ "'"
  | .rotation text => "Cannot parse rotation from: '" ++ text ++ "'"
  | .retention text => "Cannot parse retention from: '" ++ text ++ "'"
  | noDuration => "cannot convert float NaN to integer"
  | endlessDuration => "cannot convert float infinity to integer"
  | tooManyDays days => "days=" ++ Text.ofInt days ++ "; must have magnitude <= 999999999"
  | countlessDays => "Python int too large to convert to C int"

/-! ### Numbers -/

/-- The code points of which a number may consist. -/
def isNumeric (c : CodePoint) : Bool :=
  c.digit?.isSome || c ∈ (".+-eE" : Text)

/-- A letter in any form. -/
def isLetter (c : CodePoint) : Bool := c.letter?.isSome

/-- Whether a text is a number. -/
def isNumber (t : Text) : Bool := (Binary64.ofNumeral? t).isSome

/-! ### Sizes -/

/-- The units of sizes in lower case. -/
def sizeUnits : List Text :=
  let multiples : List Text := ["", "k", "m", "g", "t", "p", "e", "z", "y"]
  multiples.flatMap fun multiple => [multiple ++ "b", multiple ++ "ib"]

/-- The number of a size, if the text is one. -/
def sizeNumber? (t : Text) : Option Text :=
  let (number, rest) := t.strip.span isNumeric
  let unit : Text := Text.plainLetters (rest.dropWhile CodePoint.isBlank)
  if !number.isEmpty && unit ∈ sizeUnits then some number else none

/-! ### Durations -/

/-- The units of durations: their names in lower case, and their lengths in seconds. -/
def durationUnits : List (List Text × Binary64) := [
  (["y", "year", "years"], .ofInt 31536000), (["month", "months"], .ofInt 2628000),
  (["w", "week", "weeks"], .ofInt 604800), (["d", "day", "days"], .ofInt 86400),
  (["h", "hour", "hours"], .ofInt 3600), (["min", "mins", "minute", "minutes"], .ofInt 60),
  (["s", "sec", "secs", "second", "seconds"], .ofInt 1),
  (["ms", "millisecond", "milliseconds"], .ofDecimal false 1 (-3)),
  (["us", "microsecond", "microseconds"], .ofDecimal false 1 (-6))]

/-- The length of a unit in seconds. -/
def secondsIn? (unit : Text) : Option Binary64 :=
  (durationUnits.find? fun entry => entry.1.contains unit.plainLetters).map (·.2)

/-- How far a duration is read: a number, the blanks behind it, its unit, what may follow it. -/
inductive DurationState where
  | start
  | number
  | gap
  | unit
  | separator
deriving DecidableEq, Repr

/-- The states behind one more code point. -/
def DurationState.next (c : CodePoint) : DurationState → List DurationState
  | start => if isNumeric c then [number] else []
  | number =>
    (if isNumeric c then [number] else []) ++ (if c.isBlank then [gap] else [])
      ++ (if isLetter c then [unit] else [])
  | gap => (if c.isBlank then [gap] else []) ++ (if isLetter c then [unit] else [])
  | unit =>
    (if isLetter c then [unit] else []) ++ (if c.isBlank || c.val = 0x2C then [separator] else [])
      ++ (if isNumeric c then [number] else [])
  | separator =>
    (if c.isBlank || c.val = 0x2C then [separator] else [])
      ++ (if isNumeric c then [number] else [])

/-- Whether a text is a sequence of numbers with units. -/
def isDuration (t : Text) : Bool :=
  let final : List DurationState :=
    t.foldl (fun states c => (states.flatMap (DurationState.next c)).eraseDups) [.start]
  final.contains .unit || final.contains .separator

/-- Divides a run of numeric code points that no unit follows: the letter at the end of a number is
taken as its unit. -/
def lastLetter? : Text → Option (Text × Text)
  | [] => none
  | c :: rest =>
    match lastLetter? rest with
    | some (number, unit) => some (c :: number, unit)
    | none =>
      match rest with
      | d :: _ => if isLetter d then some ([c], rest) else none
      | [] => none

/-- The first number and unit at the very start of a text, and what follows them. -/
def numberAndUnit? (t : Text) : Option ((Text × Text) × Text) :=
  let (number, rest) := t.span isNumeric
  let (unit, after) := (rest.dropWhile CodePoint.isBlank).span isLetter
  if number.isEmpty then none
  else if !unit.isEmpty then some ((number, unit), after)
  else
    (lastLetter? number).map fun (shorter, tail) =>
      ((shorter, tail.takeWhile isLetter), tail.dropWhile isLetter ++ rest)

/-- The numbers and units in a text, up to the given number of code points from its start. -/
def durationParts : Nat → Text → List (Text × Text)
  | 0, _ => []
  | _ + 1, [] => []
  | count + 1, c :: rest =>
    match numberAndUnit? (c :: rest) with
    | some (part, after) => part :: durationParts count after
    | none => durationParts count rest

/-- The seconds of one number with its unit. -/
def secondsOfPart (part : Text × Text) : Except ScheduleFault Binary64 :=
  match Binary64.ofNumeral? part.1 with
  | none => .error (.durationNumber part.1)
  | some number =>
    match secondsIn? part.2 with
    | none => .error (.durationUnit part.2)
    | some unit => .ok (number * unit)

/-- The seconds of all parts together, added up in their order. -/
def secondsOfParts (parts : List (Text × Text)) : Except ScheduleFault Binary64 :=
  parts.foldlM (fun total part => (total + ·) <$> secondsOfPart part) (Binary64.zero false)

/-- The seconds in a day. -/
def secondsInDay : Nat := 86400

/-- The most days that a duration may have. -/
def maxDays : Nat := 999999999

/-- The number of days from which on days are not even counted. -/
def countedDays : Nat := 0x80000000

/-- Checks that so many seconds are a duration. -/
def checkSeconds (seconds : Binary64) : Except ScheduleFault Unit :=
  match seconds with
  | .nan => .error .noDuration
  | .infinite _ => .error .endlessDuration
  | .finite .. =>
    let days := (seconds.floorDiv? secondsInDay).getD 0
    if days < -(countedDays : Int) || (countedDays : Int) ≤ days then .error .countlessDays
    else if maxDays < days.natAbs then .error (.tooManyDays days)
    else .ok ()

/-- Whether a text is a duration; a sequence of numbers with units that is none is refused. -/
def checkDuration (t : Text) : Except ScheduleFault Bool := do
  if isDuration t.strip then
    checkSeconds (← secondsOfParts (durationParts t.length t.strip))
    return true
  else return false

/-! ### Days and times -/

/-- The named periods. -/
def periods : List Text := ["hourly", "daily", "weekly", "monthly", "yearly"]

/-- The days of the week. -/
def dayNames : List Text :=
  ["monday", "tuesday", "wednesday", "thursday", "friday", "saturday", "sunday"]

/-- The most digits that the number of a day may have. -/
def maxDayDigits : Nat := 4300

/-- Whether a text is a day: by name, or by its number behind a `w`. Numbers above six are refused,
and so are digits that make up no number. -/
def checkDay (t : Text) : Except ScheduleFault Bool :=
  let name := Text.lowercase t.strip
  if name ∈ dayNames then .ok true
  else
    match name with
    | w :: digits =>
      if w.val = 0x77 && !digits.isEmpty && digits.all CodePoint.isDigit then
        let values := digits.filterMap CodePoint.digit?
        if values.length = digits.length && digits.length ≤ maxDayDigits
            && Text.valueOfDigits 10 values < 7 then .ok true
        else .error (.day t)
      else .ok false
    | [] => .ok false

/-- Whether a code point is an ASCII digit within bounds. -/
def isAsciiDigit (low high : Nat) (c : CodePoint) : Bool :=
  c.asciiDigit?.any fun value => low ≤ value && value ≤ high

/-- Whether a text is an hour of the day. A digit that other digits restrict is an ASCII digit. -/
def isHour : Text → Bool
  | [c] => c.digit?.isSome
  | [c, d] => (isAsciiDigit 0 1 c && d.digit?.isSome) || (isAsciiDigit 2 2 c && isAsciiDigit 0 3 d)
  | _ => false

/-- Whether a text is an hour of half a day. -/
def isHalfHour : Text → Bool
  | [c] => isAsciiDigit 1 9 c
  | [c, d] =>
    (isAsciiDigit 0 0 c && isAsciiDigit 1 9 d) || (isAsciiDigit 1 1 c && isAsciiDigit 0 2 d)
  | _ => false

/-- Whether a text is a number of minutes in an hour, or of seconds in a minute. -/
def isSixtieth : Text → Bool
  | [c] => c.digit?.isSome
  | [c, d] => isAsciiDigit 0 5 c && d.digit?.isSome
  | _ => false

/-- Whether a text is a number of seconds, perhaps with up to six digits behind a point. -/
def isSeconds (t : Text) : Bool :=
  match t.split 0x2E with
  | [seconds] => isSixtieth seconds
  | [seconds, fraction] =>
    isSixtieth seconds && 1 ≤ fraction.length && fraction.length ≤ 6
      && fraction.all (isAsciiDigit 0 9)
  | _ => false

/-- Whether a text is a time of day on a clock with 24 hours. -/
def isFullTime (t : Text) : Bool :=
  match t.split 0x3A with
  | [hours] => isHour hours
  | [hours, minutes] => isHour hours && isSixtieth minutes
  | [hours, minutes, seconds] => isHour hours && isSixtieth minutes && isSeconds seconds
  | _ => false

/-- Whether a text is a time of day on a clock with twelve hours, without its half of the day: an
hour alone, or one with minutes and seconds. -/
def isHalfTime (t : Text) : Bool :=
  match t.split 0x3A with
  | [hours] => isHalfHour hours
  | [hours, minutes, seconds] => isHalfHour hours && isSixtieth minutes && isSeconds seconds
  | _ => false

/-- The code points of which a time consists. -/
def isClockMark (c : CodePoint) : Bool := c.digit?.isSome || c.val = 0x2E || c.val = 0x3A

/-- Whether a text is a time of day. One that has the parts of a time and is none is refused. -/
def checkTime (t : Text) : Except ScheduleFault Bool :=
  let (clock, rest) := t.strip.span isClockMark
  let half : Text := Text.asciiLowercase (rest.dropWhile CodePoint.isBlank)
  if clock.isEmpty then .ok false
  else if half.isEmpty then if isFullTime clock then .ok true else .error (.time t)
  -- half of the day, with a blank in front of it
  else if half = "am" || half = "pm" then
    if isHalfTime clock && rest.head?.any CodePoint.isBlank then .ok true else .error (.time t)
  else .ok false

/-- Divides a text at the first `at` that stands between blanks. Neither of the two parts goes
beyond a line. -/
def dayAndTime? : Text → Option (Text × Text)
  | [] => none
  | c :: rest =>
    let after := (c :: rest).dropWhile CodePoint.isBlank
    let tail := after.drop 2
    let time := tail.dropWhile CodePoint.isBlank
    if c.isBlank && Text.asciiLowercase (after.take 2) = "at"
        && tail.head?.any CodePoint.isBlank && !time.contains Text.lineFeed then
      some ([], time)
    else if c = Text.lineFeed then none
    else (dayAndTime? rest).map fun (day, time) => (c :: day, time)

/-- Whether a text is a day, a time, or a day at a time. -/
def checkDayTime (t : Text) : Except ScheduleFault Bool := do
  match dayAndTime? t.strip with
  | some (day, time) =>
    if !(← checkDay day) then throw (.day day)
    if !(← checkTime time) then throw (.time time)
    return true
  | none =>
    let isDay ← checkDay t.strip
    let isTime ← checkTime t.strip
    return isDay || isTime

/-! ### Rotation and retention -/

/-- Checks a text that says when a file is renewed. -/
def checkRotation (t : Text) : Except ScheduleFault Unit := do
  match sizeNumber? t with
  | some number => if !isNumber number then throw (.sizeNumber number)
  | none =>
    -- a text may be refused by the first kind that it looks like, without a try at the others
    if ← checkDuration t then return
    if Text.lowercase t.strip ∈ periods then return
    if ← checkDayTime t then return
    throw (.rotation t)

/-- Checks a text that says when a file is dropped. -/
def checkRetention (t : Text) : Except ScheduleFault Unit := do
  if !(← checkDuration t) then throw (.retention t)

end EmojiText.Logging
