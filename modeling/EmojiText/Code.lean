import EmojiText.Fault
import EmojiText.Text.Numeral

/-!
Codes, which name an emoji by its code points: hexadecimal literals with hyphens between them, such
as `1F468-200D-1F469`.

`Code.codePoints` reads a code and says why it refuses one.
-/

namespace EmojiText

/-- Why a code is refused. -/
inductive CodeFault where
  | blank
  | notHexadecimal (part : Text)
  | notScalar (part : Text)
  | tooLong (count : Nat)
deriving DecidableEq, Repr

namespace Code

/-- The separator of the parts of a code. -/
def hyphen : CodePoint := 0x2D

/-- The most code points that a code may list. -/
def maxLength : Nat := 9

/-- The Unicode scalar value with the given number. -/
def scalar? : Int → Option CodePoint
  | .ofNat n => (CodePoint.ofNat? n).filter CodePoint.isScalar
  | .negSucc _ => none

/-- The code point that one part of a code lists. -/
def codePoint (part : Text) : Except CodeFault CodePoint :=
  match part.hexInt? with
  | none => .error (.notHexadecimal part)
  | some value =>
    match scalar? value with
    | none => .error (.notScalar part)
    | some c => .ok c

/-- The code points of the parts of a code, up to the first part that is refused. -/
def codePointsOfParts : List Text → Except CodeFault (List CodePoint)
  | [] => .ok []
  | part :: parts =>
    match codePoint part with
    | .error fault => .error fault
    | .ok c =>
      match codePointsOfParts parts with
      | .error fault => .error fault
      | .ok cs => .ok (c :: cs)

/-- The code points that a code lists. Their number is looked at last. -/
def codePoints (code : Text) : Except CodeFault (List CodePoint) :=
  if code.strip = [] then .error .blank
  else
    match codePointsOfParts (code.strip.split hyphen) with
    | .error fault => .error fault
    | .ok cs => if maxLength < cs.length then .error (.tooLong cs.length) else .ok cs

/-- The code points of a code that may be missing. -/
def codePoints? : Option Text → Except CodeFault (List CodePoint)
  | some code => codePoints code
  | none => .error .blank

end Code

/-- The wording of a refusal. -/
def CodeFault.message : CodeFault → Text
  | blank => "пустая строка кодпоинтов"
  | notHexadecimal part => "не шестнадцатеричное число: " ++ part.quoted
  | notScalar part => "недопустимый кодпоинт: " ++ part
  | tooLong count =>
    "больше " ++ Text.ofNat Code.maxLength ++ " кодпоинтов: " ++ Text.ofNat count

/-- The refusal as a fault of the code. -/
def CodeFault.toFault (fault : CodeFault) (code : Option Text) : Fault :=
  .malformedCode code (some fault.message)

end EmojiText
