import EmojiText.Binary64.Basic

/-!
The shortest decimal of a binary64 number: the fewest digits that are read back as the number, and
of those the nearest to it, a tie to the even digit.

A positive number owns an interval of ratios that are rounded to it, the ends included if its
mantissa is even. For one digit, two digits and so on up to seventeen, the two neighbours of the
number on the decimal grid are tested against that interval in exact arithmetic, and the first hit
is taken.
-/

namespace EmojiText.Binary64

/-- A positive number with the ratios that are rounded to it, over a common denominator. -/
structure Interval where
  low : Nat
  value : Nat
  high : Nat
  denominator : Nat
  closed : Bool

/-- The interval of a positive finite number. Below a power of two the numbers stand twice as dense.
-/
def interval (mantissa : Nat) (exponent : Int) : Interval :=
  -- everything is taken four times, so that the ends of the interval are integers
  let below := if mantissa = mantissaLimit / 2 && minExponent < exponent then 1 else 2
  let scale := Nat.pow 2 (exponent - 2).toNat
  { low := (4 * mantissa - below) * scale
    value := 4 * mantissa * scale
    high := (4 * mantissa + 2) * scale
    denominator := Nat.pow 2 (2 - exponent).toNat
    closed := mantissa % 2 == 0 }

/-- Whether the ratio lies in the interval. -/
def Interval.holds (i : Interval) (numerator denominator : Nat) : Bool :=
  let n := numerator * i.denominator
  if i.closed then i.low * denominator ≤ n && n ≤ i.high * denominator
  else i.low * denominator < n && n < i.high * denominator

/-- The power of ten at or below a positive ratio. -/
def powerOfTen (numerator denominator : Nat) : Int :=
  if denominator ≤ numerator then digitCount (numerator / denominator) - 1
  else
    let count := digitCount (denominator / numerator)
    if numerator * Nat.pow 10 (count - 1) = denominator then 1 - (count : Int) else -(count : Int)

/-- The neighbour of the number on the grid of the multiples of `10 ^ power` that lies in the
interval; of two such neighbours the nearer one, of two as near the even one. -/
def gridPoint? (i : Interval) (power : Int) : Option Nat :=
  let up := Nat.pow 10 power.toNat
  let down := Nat.pow 10 (-power).toNat
  let lower := i.value * down / (i.denominator * up)
  let holds (n : Nat) : Bool := i.holds (n * up) down
  -- both distances are multiples of the same unit
  let lowerDistance := i.value * down - lower * up * i.denominator
  let upperDistance := (lower + 1) * up * i.denominator - i.value * down
  let prefersLower : Bool :=
    lowerDistance < upperDistance || (lowerDistance == upperDistance && lower % 2 == 0)
  if holds lower && (!holds (lower + 1) || prefersLower) then some lower
  else if holds (lower + 1) then some (lower + 1)
  else none

/-- Digits without the zeros at their end, and the power of ten that makes up for them. -/
def dropZeros : Nat → Nat → Int → Nat × Int
  | 0, digits, power => (digits, power)
  | count + 1, digits, power =>
    if digits % 10 = 0 then dropZeros count (digits / 10) (power + 1) else (digits, power)

/-- The digits and the power of ten of the shortest decimal of a positive finite number. -/
def shortest (mantissa : Nat) (exponent : Int) : Nat × Int :=
  let i := interval mantissa exponent
  let top := powerOfTen i.value i.denominator
  let attempt (count : Nat) : Option (Nat × Int) :=
    let power := top - count
    -- a point of a coarse grid may be a multiple of ten on a finer one
    (gridPoint? i power).map fun digits => dropZeros 17 digits power
  ((List.range 17).findSome? attempt).getD (mantissa, exponent)

end EmojiText.Binary64
