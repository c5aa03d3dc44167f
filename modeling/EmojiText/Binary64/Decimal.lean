import EmojiText.Binary64.Shortest
import EmojiText.Text.Numeral

/-!
Decimal texts of binary64 numbers.

A number is written with the fewest digits that are read back as it: positionally if its point lies
between the fourth place after the leading zero and the sixteenth digit, with at least one digit on
both sides of the point, else with an exponent of at least two digits.

A text is read as an optional sign and either digits with an optional fraction and exponent, or a
name of infinity or of what is not a number in any letter case. A numeral may moreover have white
space around it, digits of any script, and single underscores between its digits.
-/

namespace EmojiText.Binary64

/-- A run of the digit zero. -/
def zeroDigits (count : Nat) : Text := List.replicate count 0x30

/-- The sign of a negative number, nothing for others. -/
def signText (negative : Bool) : Text := if negative then ("-" : Text) else []

/-- Digits with the point after the first `point` of them, which may lie outside. -/
def positional (digits : Text) (point : Int) : Text :=
  if point ≤ 0 then "0." ++ zeroDigits (-point).toNat ++ digits
  else if (digits.length : Int) ≤ point then
    digits ++ zeroDigits (point - digits.length).toNat ++ ".0"
  else digits.take point.toNat ++ "." ++ digits.drop point.toNat

/-- Digits with the point after the first of them and an exponent. -/
def scientific (digits : Text) (exponent : Int) : Text :=
  let fraction : Text := if digits.length ≤ 1 then [] else "." ++ digits.drop 1
  let sign : Text := if exponent < 0 then "-" else "+"
  let magnitude := Text.ofNat exponent.natAbs
  digits.take 1 ++ fraction ++ "e" ++ sign ++ zeroDigits (2 - magnitude.length) ++ magnitude

/-- The text of a magnitude. -/
def magnitudeText (mantissa : Nat) (exponent : Int) : Text :=
  if mantissa = 0 then "0.0"
  else
    let (digits, power) := shortest mantissa exponent
    let digits := Text.ofNat digits
    let point := digits.length + power
    if -4 < point && point ≤ 16 then positional digits point else scientific digits (point - 1)

/-- The text of a number. -/
def text : Binary64 → Text
  | .nan => "nan"
  | .infinite negative => signText negative ++ "inf"
  | .finite negative mantissa exponent => signText negative ++ magnitudeText mantissa exponent

/-- The value of a run of ASCII digits, which may be empty. -/
def digitRun (t : Text) : Nat × Nat :=
  let digits := t.filterMap CodePoint.asciiDigit?
  (Text.valueOfDigits 10 digits, digits.length)

/-- The longest run of ASCII digits at the start, and the rest. -/
def spanDigits (t : Text) : Text × Text :=
  (t.takeWhile fun c => c.asciiDigit?.isSome, t.dropWhile fun c => c.asciiDigit?.isSome)

/-- The value of an exponent without its mark. -/
def exponent? (t : Text) : Option Int :=
  let (negative, digits) : Bool × Text := match t with
    | c :: rest =>
      if c.val = 0x2D then (true, rest) else if c.val = 0x2B then (false, rest) else (false, t)
    | [] => (false, [])
  match spanDigits digits with
  | (run, []) =>
    if run.isEmpty then none
    else
      let value : Int := (digitRun run).1
      some (if negative then -value else value)
  | _ => none

/-- The number of an unsigned decimal. -/
def ofDecimalText? (negative : Bool) (t : Text) : Option Binary64 :=
  let (whole, rest) := spanDigits t
  let (fraction, rest) := match rest with
    | c :: after => if c.val = 0x2E then spanDigits after else ([], rest)
    | [] => ([], [])
  if whole.isEmpty && fraction.isEmpty then none
  else
    let digits := (digitRun (whole ++ fraction)).1
    let shift : Int := fraction.length
    match rest with
    | [] => some (ofDecimal negative digits (-shift))
    | c :: after =>
      if c.val = 0x65 || c.val = 0x45 then
        (exponent? after).map fun exponent => ofDecimal negative digits (exponent - shift)
      else none

/-- The number of a text. -/
def ofText? (t : Text) : Option Binary64 :=
  let (negative, body) : Bool × Text := match t with
    | c :: rest =>
      if c.val = 0x2D then (true, rest) else if c.val = 0x2B then (false, rest) else (false, t)
    | [] => (false, [])
  let name := body.asciiLowercase
  if name = "inf" || name = "infinity" then some (.infinite negative)
  else if name = "nan" then some .nan
  else ofDecimalText? negative body

/-- A text with all digits as ASCII digits. -/
def asciiDigits (t : Text) : Text :=
  t.flatMap fun c => match c.digit? with
    | some digit => Text.ofNat digit
    | none => [c]

/-- The text without the underscores that stand between two ASCII digits. -/
def withoutSeparators : Text → Text
  | before :: c :: after :: rest =>
    if c = Text.underscore && before.asciiDigit?.isSome && after.asciiDigit?.isSome then
      before :: withoutSeparators (after :: rest)
    else before :: withoutSeparators (c :: after :: rest)
  | t => t

/-- The number of a numeral. -/
def ofNumeral? (t : Text) : Option Binary64 :=
  ofText? (withoutSeparators (asciiDigits (t.trim CodePoint.isWhiteSpace)))

end EmojiText.Binary64
