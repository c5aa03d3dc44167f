import EmojiText.Json.Parser
import EmojiText.Validation

/-!
Numbers among the values of a configuration.

An integer may be given as a number or as a text. A text is a plain integer, perhaps with blanks
around it, a plus sign, zeros in front, zeros behind a point, and single underscores between its
digits. Of zeros in front, those before the sign count as well.
-/

namespace EmojiText.Config

/-- What a text without any freedom of spelling says: an integer, one that is too long, or none. -/
inductive PlainInteger where
  | value (n : Int)
  | tooLong
  | malformed
deriving DecidableEq, Repr

/-- The most digits that an integer may have. -/
def maxIntegerDigits : Nat := 4300

/-- The minus sign. -/
def minus : CodePoint := 0x2D

/-- Whether a text starts with a minus sign, and the text behind it. -/
def splitSign : Text → Bool × Text
  | [] => (false, [])
  | c :: rest => if c = minus then (true, rest) else (false, c :: rest)

/-- The integer of digits without a zero in front, perhaps behind a minus sign. A run of too many
digits is noticed before what follows it. -/
def plainInteger (t : Text) : PlainInteger :=
  let (negative, digits) := splitSign t
  let (run, rest) := Binary64.spanDigits digits
  let startsWithZero := run.head?.any (·.val = 0x30)
  if startsWithZero then if digits.length = 1 then .value 0 else .malformed
  else if maxIntegerDigits < run.length then .tooLong
  else if run.isEmpty || !rest.isEmpty then .malformed
  else
    let value : Int := (Binary64.digitRun run).1
    .value (if negative then -value else value)

/-- The text behind zeros and underscores that follow a zero, up to a digit or a minus sign, or to a
point with the code point in front of it. -/
def skipZeros (before : CodePoint) : Text → Option Text
  | [] => some [before]
  | c :: rest =>
    if c.val = 0x30 || c.val = 0x5F then skipZeros c rest
    else if (0x31 ≤ c.val && c.val ≤ 0x39) || c = minus then some (c :: rest)
    else if c.val = 0x2E then some (before :: c :: rest)
    else none

/-- The text without the zeros in front of a number. -/
def withoutLeadingZeros : Text → Option Text
  | [] => none
  | c :: rest =>
    if c.val = 0x30 then skipZeros c rest
    else if (0x31 ≤ c.val && c.val ≤ 0x39) || c.val = 0x2D then some (c :: rest)
    else none

/-- The text without a point behind which zeros follow and nothing else. -/
def withoutZeroFraction (t : Text) : Text :=
  match t.span (·.val ≠ 0x2E) with
  | (whole, _ :: fraction) =>
    if !fraction.isEmpty && fraction.all (·.val = 0x30) then whole else t
  | (whole, []) => whole

/-- The text without its underscores, if each of them stands alone between other code points. -/
def withoutUnderscores? (t : Text) : Option Text :=
  let pieces := t.split Text.underscore
  if 2 ≤ pieces.length && pieces.all (!·.isEmpty) then some pieces.flatten else none

/-- The text without a plus sign in front, which no minus sign may follow. -/
def withoutPlus? (t : Text) : Option Text :=
  match t with
  | c :: rest =>
    if c.val = 0x2B then if rest.head? = some minus then none else some rest else some t
  | [] => some []

/-- The plain spelling of the number that a text spells. -/
def plainSpelling? (t : Text) : Option Text := do
  let unsigned ← withoutPlus? (t.trim CodePoint.isWhiteSpace)
  let (negative, digits) := splitSign unsigned
  let digits := withoutZeroFraction (← withoutLeadingZeros digits)
  let digits := (withoutUnderscores? digits).getD digits
  return if negative then minus :: digits else digits

/-- An integer given as a text. -/
def checkIntegerText (t : Text) : Checked Int :=
  match plainInteger t with
  | .value n => .valid n
  | .tooLong => .fail .hugeInteger (.string t)
  | .malformed =>
    match (plainSpelling? t).map plainInteger with
    | some (.value n) => .valid n
    | _ => .fail .unknownInteger (.string t)

/-- An integer given as a number with a point. -/
def checkIntegerFloat (x : Binary64) : Checked Int :=
  if !x.isFinite then .fail .notFinite (.float x)
  else
    match x.toInt? with
    | none => .fail .fractionalInteger (.float x)
    | some n => if Json.isInnerWord n then .valid n else .fail .hugeInteger (.float x)

/-- An integer. -/
def checkInteger : Json → Checked Int
  | .int n => .valid n
  | .bool value => .valid (if value then 1 else 0)
  | .float x => checkIntegerFloat x
  | .string t => checkIntegerText t
  | input => .fail .notInteger input

/-- The number that a text spells, perhaps with blanks around it or with single underscores in it.
-/
def numberOfText? (t : Text) : Option Binary64 :=
  (Binary64.ofText? (t.trim CodePoint.isWhiteSpace)).or
    ((withoutUnderscores? t).bind Binary64.ofText?)

/-- A number. -/
def checkNumber : Json → Checked Binary64
  | .float x => .valid x
  | .int n =>
    let x := Binary64.ofInt n
    if x.isFinite then .valid x else .fail .notNumber (.int n)
  | .bool value => .valid (.ofInt (if value then 1 else 0))
  | .string t =>
    match numberOfText? t with
    | some x => .valid x
    | none => .fail .unknownNumber (.string t)
  | input => .fail .notNumber input

end EmojiText.Config
