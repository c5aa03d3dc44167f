import EmojiText.Moment.Directive

/-!
Moments written with tokens: repeated letters such as `YYYY` stand for a part of the moment, and a
token in square brackets stands for itself. A format that holds a percent sign is read as one with
directives instead.
-/

namespace EmojiText.Moment

/-- The first digits of the millionths of a second. -/
def fraction (digits : Nat) (moment : Moment) : Text :=
  (Text.zeroPadded 6 moment.microsecond).take digits

/-- The tokens, longer ones in front of those that they start with. -/
def tokens : List (String × (Moment → Text)) := [
  ("HH", fun m => Text.zeroPadded 2 m.hour), ("H", fun m => Text.ofNat m.hour),
  ("hh", fun m => Text.zeroPadded 2 m.halfHour), ("h", fun m => Text.ofNat m.halfHour),
  ("mm", fun m => Text.zeroPadded 2 m.minute), ("m", fun m => Text.ofNat m.minute),
  ("ss", fun m => Text.zeroPadded 2 m.second), ("s", fun m => Text.ofNat m.second),
  ("SSSSSS", fraction 6), ("SSSSS", fraction 5), ("SSSS", fraction 4), ("SSS", fraction 3),
  ("SS", fraction 2), ("S", fraction 1),
  ("YYYY", fun m => Text.zeroPadded 4 m.day.year),
  ("YY", fun m => Text.zeroPadded 2 (m.day.year % 100)),
  ("MMMM", monthName), ("MMM", fun m => m.monthName.take 3),
  ("MM", fun m => Text.zeroPadded 2 m.day.month), ("M", fun m => Text.ofNat m.day.month),
  ("DDDD", fun m => Text.zeroPadded 3 m.day.inYear), ("DDD", fun m => Text.ofNat m.day.inYear),
  ("DD", fun m => Text.zeroPadded 2 m.day.day), ("D", fun m => Text.ofNat m.day.day),
  ("ZZ", zoneOffset ""), ("Z", zoneOffset ":"), ("zz", zoneName),
  ("A", half), ("X", fun m => Text.ofInt m.seconds),
  ("x", fun m => Text.ofInt (m.seconds * 1000000 + m.microsecond)),
  ("E", fun m => Text.ofNat (m.weekday + 1)),
  ("Q", fun m => Text.ofNat ((m.day.month - 1) / 3 + 1)),
  ("dddd", weekdayName), ("ddd", fun m => m.weekdayName.take 3),
  ("d", fun m => Text.ofNat m.weekday)]

/-- The mark at the end of a format for the zone UTC. -/
def zoneMark : Text := "!UTC"

/-- What can stand in square brackets for itself. -/
def bracketable : List Text := tokens.map (Text.ofString ·.1) ++ [zoneMark, []]

/-- What the start of a format stands for, with the length of that start. -/
def token? (format : Text) : Option (Nat × (Moment → Text)) :=
  let token := tokens.findSome? fun (name, part) =>
    if (Text.ofString name).isPrefixOf format then some (name.length, part) else none
  let bracketed := bracketable.findSome? fun name =>
    if ("[" ++ name ++ "]" : Text).isPrefixOf format then some (name.length + 2, fun _ => name)
    else none
  token <|> bracketed

/-- The moment as a text with tokens says, whose given number of code points are read already. -/
def tokenized (moment : Moment) : Nat → Text → Text
  | _, [] => []
  | skipped + 1, _ :: rest => tokenized moment skipped rest
  | 0, c :: rest =>
    match token? (c :: rest) with
    | some (length, part) => part moment ++ tokenized moment (length - 1) rest
    | none => c :: tokenized moment 0 rest

/-- The format of a moment without one. -/
def plainFormat : Text := "%Y-%m-%dT%H:%M:%S.%f%z"

/-- More digits behind the second than a moment has. -/
def tooManyFractionDigits : Text := "SSSSSSS"

/-- The moment in a format. A format with too many successive digits behind the second is refused.
-/
def formatted? (moment : Moment) (format : Text) : Option Text :=
  -- moments are in that zone already
  let format : Text :=
    if format.endsWith zoneMark then format.take (format.length - zoneMark.length) else format
  if format.isEmpty then some (moment.directed plainFormat)
  else if format.contains percent then some (moment.directed format)
  else if format.holds tooManyFractionDigits then none
  else some (moment.tokenized 0 format)

example : first.formatted? "YYYY-MM-DD [HH] Q" = some ("0001-01-01 HH 1" : Text) := by
  decide +kernel

end EmojiText.Moment
