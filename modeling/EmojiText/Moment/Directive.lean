import EmojiText.Moment.Basic
import EmojiText.Text.Uppercase

/-!
Moments written with directives: a percent sign and a letter stand for a part of the moment, as `%Y`
for its year. What is no directive stands for itself.

Between the sign and the letter there may be flags, which say how to fill up and which case to use,
a width, and one of the marks `E` and `O` for another spelling, which is the same as the usual one.
The zone and the millionths of a second take none of these: they are put in first, and what is
written with flags afterwards knows no zone.
-/

namespace EmojiText.Moment

/-- The percent sign, which starts a directive. -/
def percent : CodePoint := 0x25

/-- The blank, with which texts are filled up. -/
def blank : CodePoint := 0x20

/-- The name of the zone of moments that name it. -/
def zoneName (moment : Moment) : Text := if moment.zoned then "UTC" else ""

/-- How far the clocks of the zone are ahead, in hours and minutes with a separator between them. -/
def zoneOffset (separator : Text) (moment : Moment) : Text :=
  if moment.zoned then "+00" ++ separator ++ "00" else ""

/-- The time of day in hours, minutes and seconds. -/
def clock (moment : Moment) : Text :=
  Text.join ":" ([moment.hour, moment.minute, moment.second].map (Text.zeroPadded 2))

/-- The month, the day and the year in two digits. -/
def shortDate (moment : Moment) : Text :=
  Text.join "/" ([moment.day.month, moment.day.day, moment.day.year % 100].map (Text.zeroPadded 2))

/-- The number of the week in the year if weeks start so many days after Mondays. Days in front of
the first start of a week are in week zero. -/
def weekFrom (start : Nat) (moment : Moment) : Nat :=
  (moment.day.inYear + 6 - (moment.weekday + 7 - start) % 7) / 7

/-- The number of the week in the year to which most of the week belongs. -/
def week (moment : Moment) : Nat := (moment.thursday.inYear - 1) / 7 + 1

/-! ### Parts -/

/-- What a directive stands for. -/
inductive Part where
  /-- A number with so many digits at least. -/
  | number (digits value : Nat)
  /-- A number in front of which blanks stand for missing digits. -/
  | blankNumber (digits value : Nat)
  /-- A name, which flags write in capitals. -/
  | name (t : Text)
  /-- A half of the day, which a flag writes in small letters. -/
  | half (t : Text)
  /-- Several parts. -/
  | parts (t : Text)
  /-- Nothing, however wide. -/
  | absent

/-- The directives by their letters, with the marks for another spelling that they take. -/
def directives : List (Char × String × (Moment → Part)) := [
  ('a', "", fun m => .name (m.weekdayName.take 3)), ('A', "", fun m => .name m.weekdayName),
  ('b', "O", fun m => .name (m.monthName.take 3)), ('h', "O", fun m => .name (m.monthName.take 3)),
  ('B', "O", fun m => .name m.monthName),
  ('c', "E", fun m => .parts (Text.join " " [m.weekdayName.take 3, m.monthName.take 3,
    Text.padded blank 2 m.day.day, m.clock, Text.ofNat m.day.year])),
  ('C', "EO", fun m => .number 1 (m.day.year / 100)),
  ('d', "O", fun m => .number 2 m.day.day), ('e', "O", fun m => .blankNumber 2 m.day.day),
  ('D', "", fun m => .parts m.shortDate), ('x', "E", fun m => .parts m.shortDate),
  ('F', "", fun m => .parts (Text.join "-" [Text.ofNat m.day.year,
    Text.zeroPadded 2 m.day.month, Text.zeroPadded 2 m.day.day])),
  ('g', "O", fun m => .number 2 (m.thursday.year % 100)),
  ('G', "O", fun m => .number 1 m.thursday.year), ('V', "O", fun m => .number 2 m.week),
  ('H', "O", fun m => .number 2 m.hour), ('k', "O", fun m => .blankNumber 2 m.hour),
  ('I', "O", fun m => .number 2 m.halfHour), ('l', "O", fun m => .blankNumber 2 m.halfHour),
  ('j', "O", fun m => .number 3 m.day.inYear), ('m', "O", fun m => .number 2 m.day.month),
  ('M', "O", fun m => .number 2 m.minute), ('n', "EO", fun _ => .name [Text.lineFeed]),
  ('t', "EO", fun _ => .name [0x09]), ('p', "EO", fun m => .half m.half),
  ('P', "EO", fun m => .half m.half.asciiLowercase),
  ('r', "EO", fun m => .parts (Text.join ":"
    ([m.halfHour, m.minute, m.second].map (Text.zeroPadded 2)) ++ " " ++ m.half)),
  ('R', "EO", fun m => .parts (Text.join ":" ([m.hour, m.minute].map (Text.zeroPadded 2)))),
  ('s', "EO", fun m => .name (Text.ofInt m.seconds)), ('S', "O", fun m => .number 2 m.second),
  ('T', "EO", fun m => .parts m.clock), ('X', "E", fun m => .parts m.clock),
  ('u', "EO", fun m => .number 1 (m.weekday + 1)),
  ('w', "O", fun m => .number 1 ((m.weekday + 1) % 7)),
  ('U', "O", fun m => .number 2 (m.weekFrom 6)), ('W', "O", fun m => .number 2 (m.weekFrom 0)),
  ('y', "EO", fun m => .number 2 (m.day.year % 100)), ('Y', "E", fun m => .number 1 m.day.year),
  ('z', "EO", fun _ => .absent), ('Z', "EO", fun _ => .name []),
  ('%', "", fun _ => .name [percent])]

/-! ### Directives with flags -/

/-- The flag for blanks in front of numbers. -/
def blankFlag : CodePoint := 0x5F

/-- The flag for no digits in front of numbers. -/
def bareFlag : CodePoint := 0x2D

/-- The flag for zeros in front of everything. -/
def zeroFlag : CodePoint := 0x30

/-- The flag for capitals. -/
def capitalFlag : CodePoint := 0x5E

/-- The flag for the other case. -/
def caseFlag : CodePoint := 0x23

/-- The flags that say how to fill up; the last one of a directive counts. -/
def fillFlags : Text := [blankFlag, bareFlag, zeroFlag]

/-- The flags of directives. -/
def flags : Text := fillFlags ++ [capitalFlag, caseFlag]

/-- The marks for another spelling. -/
def spellingMarks : Text := "EO"

/-- A directive as it is written behind its percent sign. The letter is missing at the end of a
format. -/
structure Directive where
  flags : Text
  digits : Text
  mark : Option CodePoint
  letter : Option CodePoint

namespace Directive

/-- The directive at the start of a text behind a percent sign. -/
def ofText (t : Text) : Directive :=
  let (flags, rest) := t.span (· ∈ Moment.flags)
  let (digits, rest) := rest.span fun c => c.asciiDigit?.isSome
  match rest with
  | c :: rest =>
    if c ∈ spellingMarks then ⟨flags, digits, some c, rest.head?⟩ else ⟨flags, digits, none, some c⟩
  | [] => ⟨flags, digits, none, none⟩

/-- What stands behind the percent sign. -/
def text (directive : Directive) : Text :=
  directive.flags ++ directive.digits ++ directive.mark.toList ++ directive.letter.toList

/-- The flag that says how to fill up. -/
def fill? (directive : Directive) : Option CodePoint :=
  (directive.flags.filter (· ∈ fillFlags)).getLast?

/-- The width that a directive asks for. -/
def width (directive : Directive) : Nat :=
  Text.valueOfDigits 10 (directive.digits.filterMap CodePoint.asciiDigit?)

/-- What a directive stands for, unless there is none of its letter and its mark. -/
def part? (directive : Directive) (moment : Moment) : Option Part :=
  directives.findSome? fun (letter, marks, part) =>
    if directive.letter = some (CodePoint.ofChar letter)
      && directive.mark.all (· ∈ Text.ofString marks)
    then some (part moment) else none

/-- A text filled up on its left to a width. An empty text stays empty where nothing is to stand in
front of numbers. -/
def filled (directive : Directive) (width : Nat) (t : Text) : Text :=
  if t.isEmpty && directive.fill? = some bareFlag then []
  else t.leftpad width (if directive.fill? = some zeroFlag then zeroFlag else blank)

/-- What a directive without a meaning stands for: itself, and behind a mark a percent sign is the
start of what follows. -/
def unread (directive : Directive) : Text :=
  if directive.letter = some percent then [percent] else percent :: directive.text

/-- The letters of the short names of months, which the flag for the other case writes in capitals
even where a mark leaves the directive without a meaning. -/
def shortMonthLetters : Text := "bh"

/-- A part of a moment as the directive writes it, at most so wide. -/
def write (directive : Directive) (maxWidth : Nat) (part : Option Part) : Text :=
  let width := min directive.width maxWidth
  let capitals := capitalFlag ∈ directive.flags
  let other := caseFlag ∈ directive.flags
  let number (digits value : Nat) (usual : CodePoint) : Text :=
    let fill := directive.fill?.getD usual
    if fill = bareFlag then (Text.ofNat value).leftpad width blank
    else Text.padded (if fill = blankFlag then blank else zeroFlag) (max digits width) value
  let cased (other : Bool) (t : Text) : Text :=
    directive.filled width (if capitals || other then t.capitals else t)
  match part with
  | none => cased (other && directive.letter.any (· ∈ shortMonthLetters)) directive.unread
  | some (.number digits value) => number digits value zeroFlag
  | some (.blankNumber digits value) => number digits value blankFlag
  | some (.name t) => cased other t
  | some (.half t) => directive.filled width (if other then t.asciiLowercase else t)
  | some (.parts t) => cased false t
  | some .absent => []

end Directive

/-! ### Formats -/

/-- The format with the zone and the millionths of a second of the moment put in. -/
def zonesPutIn (moment : Moment) : Text → Text
  | [] => []
  | [c] => [c]
  | c :: d :: rest =>
    if c = percent then
      (if d.val = 0x7A then zoneOffset "" moment
      else if d.val = 0x5A then moment.zoneName
      else if d.val = 0x66 then Text.zeroPadded 6 moment.microsecond
      else [c, d]) ++ zonesPutIn moment rest
    else c :: zonesPutIn moment (d :: rest)

/-- The moment as a text says whose given number of code points are read already, no part of it
wider than allowed. -/
def writtenFrom (moment : Moment) (maxWidth : Nat) : Nat → Text → Text
  | _, [] => []
  | skipped + 1, _ :: rest => writtenFrom moment maxWidth skipped rest
  | 0, c :: rest =>
    if c = percent then
      let directive := Directive.ofText rest
      directive.write maxWidth (directive.part? moment)
        ++ writtenFrom moment maxWidth directive.text.length rest
    else c :: writtenFrom moment maxWidth 0 rest

/-- The length that no text reaches which a format of a length stands for. -/
def lengthLimit (length : Nat) : Nat := max 1024 (256 * length).nextPowerOfTwo

/-- The moment as a text with directives says. A text that is too long for its format is empty. -/
def directed (moment : Moment) (format : Text) : Text :=
  let format := moment.zonesPutIn format
  let limit := lengthLimit format.length
  let t := moment.writtenFrom limit 0 format
  if t.length < limit then t else []

example : (Moment.mk 1000000000 0 true).directed "%a %j, %G-W%V" = "Sun 252, 2001-W36" := by
  decide +kernel

example : (Moment.mk 1000000000 0 true).directed "%^10B %-e %5q" = " SEPTEMBER 9   %5q" := by
  decide +kernel

end EmojiText.Moment
