import EmojiText.Moment.Directive

/-!
Calendar values as they are written without a format, and their descriptions, which name what they
are made of: moments, days, spans of time and zones.
-/

namespace EmojiText

/-- A span of time: days, which may be negative, and the seconds and millionths of a second after
them. -/
structure Span where
  days : Int := 0
  seconds : Nat := 0
  microseconds : Nat := 0
deriving DecidableEq, Repr

namespace Span

/-- The shortest span. -/
def least : Span where
  days := -999999999

/-- The longest span. -/
def greatest : Span where
  days := 999999999
  seconds := 86399
  microseconds := 999999

/-- The distance between neighbouring spans, and between neighbouring moments. -/
def step : Span where
  microseconds := 1

/-- The millionths of a second behind a point, which are left out if there are none. -/
def fraction (microseconds : Nat) : Text :=
  if microseconds = 0 then [] else "." ++ Text.zeroPadded 6 microseconds

/-- A span as it is written. -/
def plain (span : Span) : Text :=
  let days : Text :=
    if span.days = 0 then []
    else
      Text.ofInt span.days ++ (if span.days.natAbs = 1 then " day, " else " days, ")
  days ++ Text.join ":" [Text.ofNat (span.seconds / 3600),
    Text.zeroPadded 2 (span.seconds / 60 % 60), Text.zeroPadded 2 (span.seconds % 60)]
    ++ fraction span.microseconds

/-- The description of a span, which names the parts that are not zero. -/
def description (span : Span) : Text :=
  let parts : List (Text × Int) :=
    [("days", span.days), ("seconds", span.seconds), ("microseconds", span.microseconds)]
  let shown := (parts.filter (·.2 ≠ 0)).map fun (name, n) => name ++ "=" ++ Text.ofInt n
  "datetime.timedelta(" ++ Text.join ", " (if shown.isEmpty then ["0"] else shown) ++ ")"

example : greatest.plain = "999999999 days, 23:59:59.999999" := by decide +kernel

end Span

/-- The zones that values name: the one of moments, the same without a name of its own, and the two
that are farthest from it. -/
inductive Zone where
  | named
  | unnamed
  | earliest
  | latest
deriving DecidableEq, Repr

namespace Zone

/-- A zone as it is written. -/
def plain : Zone → Text
  | named | unnamed => "UTC"
  | earliest => "UTC-23:59"
  | latest => "UTC+23:59"

/-- The description of a zone. -/
def description : Zone → Text
  | named => "datetime.timezone(" ++ Span.description {} ++ ", 'UTC')"
  | unnamed => "datetime.timezone.utc"
  | earliest => "datetime.timezone(" ++ Span.description ⟨-1, 60, 0⟩ ++ ")"
  | latest => "datetime.timezone(" ++ Span.description ⟨0, 86340, 0⟩ ++ ")"

end Zone

namespace Moment

/-- The day of a moment as it is written. -/
def plainDay (moment : Moment) : Text :=
  Text.join "-" [Text.zeroPadded 4 moment.day.year, Text.zeroPadded 2 moment.day.month,
    Text.zeroPadded 2 moment.day.day]

/-- A moment as it is written. -/
def plain (moment : Moment) : Text :=
  moment.plainDay ++ " " ++ moment.clock ++ Span.fraction moment.microsecond
    ++ zoneOffset ":" moment

/-- The description of the day of a moment. -/
def dayDescription (moment : Moment) : Text :=
  "datetime.date("
    ++ Text.join ", " ([moment.day.year, moment.day.month, moment.day.day].map Text.ofNat) ++ ")"

/-- The description of a moment, without seconds or millionths at its end that are zero. -/
def description (moment : Moment) : Text :=
  let small :=
    if moment.microsecond ≠ 0 then [moment.second, moment.microsecond]
    else if moment.second ≠ 0 then [moment.second]
    else []
  let numbers :=
    [moment.day.year, moment.day.month, moment.day.day, moment.hour, moment.minute] ++ small
  let name : Text := if moment.zoned then "datetime" else "datetime.datetime"
  let zone : Text := if moment.zoned then ", tzinfo=" ++ Zone.named.description else []
  name ++ "(" ++ Text.join ", " (numbers.map Text.ofNat) ++ zone ++ ")"

example : last.description = "datetime.datetime(9999, 12, 31, 23, 59, 59, 999999)" := by
  decide +kernel

end Moment

end EmojiText
