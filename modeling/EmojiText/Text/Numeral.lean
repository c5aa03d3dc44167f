import EmojiText.Text.Blank
import EmojiText.Text.Digit

/-!
Numbers written as texts, and hexadecimal numbers read from texts.

A hexadecimal literal may have white space around it, a sign, the mark `0x`, and single underscores
between its digits or after the mark. Its digits, the zero of the mark among them, are decimal
digits of any script and the letters a to f in either case.
-/

namespace EmojiText.Text

/-- A natural number in decimal. -/
def ofNat (n : Nat) : Text := (Nat.toDigits 10 n).map CodePoint.ofChar

/-- An integer in decimal. -/
def ofInt : Int → Text
  | .ofNat n => ofNat n
  | .negSucc n => "-" ++ ofNat (n + 1)

/-- A natural number in decimal, filled up on its left to a width. -/
def padded (fill : CodePoint) (width n : Nat) : Text :=
  List.replicate (width - (ofNat n).length) fill ++ ofNat n

/-- A natural number in decimal with zeros in front up to a width. -/
def zeroPadded (width n : Nat) : Text := padded 0x30 width n

/-- The underscore. -/
def underscore : CodePoint := 0x5F

/-- The values of one or more digits with at most one underscore between neighbours. -/
def digitValues? (digit? : CodePoint → Option Nat) : Text → Option (List Nat)
  | [] => none
  | [c] => (digit? c).map ([·])
  | c :: d :: rest =>
    (digit? c).bind fun value =>
      if d = underscore then (digitValues? digit? rest).map (value :: ·)
      else (digitValues? digit? (d :: rest)).map (value :: ·)

/-- The number with the given digits, the first one the highest. -/
def valueOfDigits (base : Nat) (digits : List Nat) : Nat :=
  digits.foldl (fun value digit => base * value + digit) 0

/-- The decimal number in front of a text, in digits of any script, and what follows it. -/
def numberAhead (t : Text) : Option Nat × Text :=
  let (digits, rest) := t.span fun c => c.digit?.isSome
  let number := valueOfDigits 10 (digits.filterMap CodePoint.digit?)
  (if digits.isEmpty then none else some number, rest)

/-- The text after the mark `0x` and the underscore that may follow it. -/
def skipHexMark : Text → Text
  -- the zero of the mark may be a digit of any script
  | first :: x :: rest =>
    if first.digit? = some 0 && (x.val = 0x78 || x.val = 0x58) then
      match rest with
      | c :: digits => if c = underscore then digits else rest
      | [] => []
    else first :: x :: rest
  | t => t

/-- The number of an unsigned hexadecimal literal, white space and sign taken away. -/
def hexNat? (t : Text) : Option Nat :=
  (digitValues? CodePoint.hexDigit? (skipHexMark t)).map (valueOfDigits 16)

/-- The number of a hexadecimal literal. -/
def hexInt? (t : Text) : Option Int :=
  match t.trim CodePoint.isWhiteSpace with
  | c :: rest =>
    if c.val = 0x2B then (hexNat? rest).map Int.ofNat
    else if c.val = 0x2D then (hexNat? rest).map (fun n => -Int.ofNat n)
    else (hexNat? (c :: rest)).map Int.ofNat
  | [] => none

end EmojiText.Text
