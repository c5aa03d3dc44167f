import EmojiText.Text.Numeral

/-!
Moments, and the days of the calendar on which they fall.

A moment is counted from the start of 1970 on; its day and its time of day are those of UTC. A day
is found by counting in periods of 400 years, each of which has the same number of days, from a
first of March, so that a leap day ends its year.
-/

namespace EmojiText

/-- A day of the calendar. -/
structure Day where
  year : Nat
  month : Nat
  day : Nat
deriving DecidableEq, Repr

namespace Day

/-- The days in 400 years. -/
def daysInPeriod : Nat := 146097

/-- The days from the first of March of the year zero to the first of January 1970. -/
def daysBefore1970 : Nat := 719468

/-- The day that comes so many days after the first of January 1970, or before it. The years start
with zero. -/
def ofCount (count : Int) : Day :=
  let days := (count + daysBefore1970).toNat
  let inPeriod := days % daysInPeriod
  let leapDays := inPeriod / 1460 + inPeriod / 146096
  let years := (inPeriod + inPeriod / 36524 - leapDays) / 365
  let inYear := inPeriod - (365 * years + years / 4 - years / 100)
  let months := (5 * inYear + 2) / 153
  let year := years + 400 * (days / daysInPeriod)
  { year := if months < 10 then year else year + 1
    month := if months < 10 then months + 3 else months - 9
    day := inYear - (153 * months + 2) / 5 + 1 }

/-- Whether a year has a leap day. -/
def isLeapYear (year : Nat) : Bool := year % 4 = 0 && (year % 100 ≠ 0 || year % 400 = 0)

/-- The days before each month in a year without a leap day. -/
def daysBeforeMonths : List Nat := [0, 31, 59, 90, 120, 151, 181, 212, 243, 273, 304, 334]

/-- The number of a day in its year, which starts with the first day. -/
def inYear (day : Day) : Nat :=
  let leapDay := if isLeapYear day.year && 2 < day.month then 1 else 0
  (daysBeforeMonths[day.month - 1]?).getD 0 + leapDay + day.day

/-- The names of the months. -/
def monthNames : List Text := [
  "January", "February", "March", "April", "May", "June", "July", "August", "September",
  "October", "November", "December"]

/-- The names of the days of the week. -/
def weekdayNames : List Text :=
  ["Monday", "Tuesday", "Wednesday", "Thursday", "Friday", "Saturday", "Sunday"]

example : ofCount 0 = ⟨1970, 1, 1⟩ := by decide

example : ofCount 11016 = ⟨2000, 2, 29⟩ := by decide

example : ofCount (-1) = ⟨1969, 12, 31⟩ := by decide

example : (ofCount 11322).inYear = 366 := by decide

end Day

/-- A moment: the seconds since the start of 1970, which are negative before it, and the millionths
of a second after them. A moment may name its zone, UTC, or leave it open. -/
structure Moment where
  seconds : Int
  microsecond : Nat := 0
  zoned : Bool := true
deriving DecidableEq, Repr

namespace Moment

/-- The days since the first of January 1970. -/
def dayCount (moment : Moment) : Int := moment.seconds / 86400

/-- The day on which a moment falls. -/
def day (moment : Moment) : Day := .ofCount moment.dayCount

/-- The seconds since the start of the day. -/
def secondOfDay (moment : Moment) : Nat := (moment.seconds % 86400).toNat

/-- The hour of the day. -/
def hour (moment : Moment) : Nat := moment.secondOfDay / 3600

/-- The hour on a clock with twelve hours. -/
def halfHour (moment : Moment) : Nat := (moment.hour + 11) % 12 + 1

/-- The half of the day. -/
def half (moment : Moment) : Text := if moment.hour < 12 then "AM" else "PM"

/-- The minute of the hour. -/
def minute (moment : Moment) : Nat := moment.secondOfDay / 60 % 60

/-- The second of the minute. -/
def second (moment : Moment) : Nat := moment.secondOfDay % 60

/-- The day of the week, from zero for Monday on. The first of January 1970 was a Thursday. -/
def weekday (moment : Moment) : Nat := ((moment.dayCount + 3) % 7).toNat

/-- The name of the day of the week. -/
def weekdayName (moment : Moment) : Text := (Day.weekdayNames[moment.weekday]?).getD []

/-- The name of the month. -/
def monthName (moment : Moment) : Text := (Day.monthNames[moment.day.month - 1]?).getD []

/-- The Thursday of the week from Monday to Sunday, which decides to which year the week belongs. -/
def thursday (moment : Moment) : Day := .ofCount (moment.dayCount + 3 - moment.weekday)

/-- The start of the year one. -/
def first : Moment where
  seconds := -62135596800
  zoned := false

/-- The last millionth of a second of the year 9999. -/
def last : Moment where
  seconds := 253402300799
  microsecond := 999999
  zoned := false

example : (Moment.mk 1000000000 0 true).day = ⟨2001, 9, 9⟩ := by decide

example : (Moment.mk 1000000000 0 true).weekdayName = ("Sunday" : Text) := by decide

example : first.day = ⟨1, 1, 1⟩ ∧ last.day = ⟨9999, 12, 31⟩ := by decide

end Moment

end EmojiText
