/-!
Binary64 numbers as exact data: not a number, an infinity, or a signed mantissa times a power of
two.

Numbers are made by rounding an exact ratio to the nearest binary64 number, a tie to the even
mantissa, so that reading a decimal is exact and needs no floating-point arithmetic.
-/

namespace EmojiText

/-- A binary64 number. A finite one stands for `mantissa * 2 ^ exponent` with its sign; zero has the
least exponent and keeps its sign. -/
inductive Binary64 where
  | nan
  | infinite (negative : Bool)
  | finite (negative : Bool) (mantissa : Nat) (exponent : Int)
deriving DecidableEq, Repr

namespace Binary64

/-- The exponent of the smallest positive number. -/
def minExponent : Int := -1074

/-- The exponent of the largest finite numbers. -/
def maxExponent : Int := 971

/-- The first mantissa that needs one bit more than a binary64 number has. -/
def mantissaLimit : Nat := 0x20000000000000

/-- Zero with a sign. -/
def zero (negative : Bool) : Binary64 := .finite negative 0 minExponent

/-- The quotient rounded to the nearest natural number, a tie to the even one. -/
def nearestQuotient (numerator denominator : Nat) : Nat :=
  let quotient := numerator / denominator
  let remainder := numerator % denominator
  if 2 * remainder < denominator then quotient
  else if denominator < 2 * remainder then quotient + 1
  else if quotient % 2 = 0 then quotient else quotient + 1

/-- A ratio divided by a power of two, again as a ratio. -/
def unscale (numerator denominator : Nat) (exponent : Int) : Nat × Nat :=
  if 0 ≤ exponent then (numerator, denominator * Nat.pow 2 exponent.toNat)
  else (numerator * Nat.pow 2 (-exponent).toNat, denominator)

/-- The exponent at which a positive ratio has a mantissa of 53 bits, or the least exponent if the
ratio is too small for that. -/
def exponentFor (numerator denominator : Nat) : Int :=
  let low : Int := (numerator.log2 : Int) - (denominator.log2 : Int) - 53
  let (n, d) := unscale numerator denominator low
  max minExponent (if n < mantissaLimit * d then low else low + 1)

/-- The nearest binary64 number to a ratio, a tie to the even mantissa. -/
def ofRatio (negative : Bool) (numerator denominator : Nat) : Binary64 :=
  if numerator = 0 then zero negative
  else
    let exponent := exponentFor numerator denominator
    let (n, d) := unscale numerator denominator exponent
    let mantissa := nearestQuotient n d
    let (mantissa, exponent) :=
      if mantissa = mantissaLimit then (mantissaLimit / 2, exponent + 1) else (mantissa, exponent)
    if maxExponent < exponent then .infinite negative else .finite negative mantissa exponent

/-- The number of decimal digits. -/
def digitCount (n : Nat) : Nat := (Nat.toDigits 10 n).length

/-- The nearest binary64 number to `digits * 10 ^ power`. Numbers from `10 ^ 400` on are infinite
and those below `10 ^ (-400)` are zero without a computation. -/
def ofDecimal (negative : Bool) (digits : Nat) (power : Int) : Binary64 :=
  if digits = 0 then zero negative
  else if 400 < power + digitCount digits then .infinite negative
  else if power + digitCount digits < -400 then zero negative
  else if 0 ≤ power then ofRatio negative (digits * Nat.pow 10 power.toNat) 1
  else ofRatio negative digits (Nat.pow 10 (-power).toNat)

/-- The nearest binary64 number to an integer. -/
def ofInt (n : Int) : Binary64 := ofDecimal (n < 0) n.natAbs 0

/-- Whether the number is zero or below; never so for what is not a number. -/
def nonpositive : Binary64 → Bool
  | .nan => false
  | .infinite negative => negative
  | .finite negative mantissa _ => negative || mantissa == 0

/-- Neither infinite nor not a number. -/
def isFinite : Binary64 → Bool
  | .finite .. => true
  | _ => false

/-- The integer that the number is, if it is one. -/
def toInt? : Binary64 → Option Int
  | .finite negative mantissa exponent =>
    let magnitude : Option Nat :=
      if 0 ≤ exponent then some (mantissa * Nat.pow 2 exponent.toNat)
      else
        let divisor := Nat.pow 2 (-exponent).toNat
        if mantissa % divisor = 0 then some (mantissa / divisor) else none
    magnitude.map fun n => if negative then -(n : Int) else n
  | _ => none

end Binary64

end EmojiText
