import EmojiText.Binary64.Basic

/-!
Sums and products of binary64 numbers: the exact result, rounded once to the nearest number, a tie
to the even mantissa. Only what has no exact result is not a number: zero times infinity, and the
sum of two infinities of different signs.
-/

namespace EmojiText.Binary64

/-- The nearest binary64 number to `mantissa * 2 ^ exponent`. -/
def ofDyadic (negative : Bool) (mantissa : Nat) (exponent : Int) : Binary64 :=
  ofRatio negative (mantissa * Nat.pow 2 exponent.toNat) (Nat.pow 2 (-exponent).toNat)

/-- A natural number with a sign. -/
def signed (negative : Bool) (n : Nat) : Int := if negative then -n else n

/-- The product. -/
def mul : Binary64 → Binary64 → Binary64
  | nan, _ | _, nan => nan
  | infinite a, infinite b => infinite (a != b)
  | infinite a, finite b mantissa _ => if mantissa = 0 then nan else infinite (a != b)
  | finite a mantissa _, infinite b => if mantissa = 0 then nan else infinite (a != b)
  | finite a m e, finite b n f => ofDyadic (a != b) (m * n) (e + f)

/-- The sum. Two zeros of the same sign keep it. -/
def add : Binary64 → Binary64 → Binary64
  | nan, _ | _, nan => nan
  | infinite a, infinite b => if a = b then infinite a else nan
  | infinite a, finite .. => infinite a
  | finite .., infinite b => infinite b
  | finite a m e, finite b n f =>
    -- both mantissas at the smaller of the two exponents
    let exponent := min e f
    let sum := signed a (m * Nat.pow 2 (e - exponent).toNat)
      + signed b (n * Nat.pow 2 (f - exponent).toNat)
    if sum = 0 then zero (a && b) else ofDyadic (sum < 0) sum.natAbs exponent

instance : Mul Binary64 := ⟨mul⟩

instance : Add Binary64 := ⟨add⟩

/-- The largest integer that is not above the quotient of a finite number and a natural number. -/
def floorDiv? (x : Binary64) (divisor : Nat) : Option Int :=
  match x with
  | finite negative mantissa exponent =>
    let numerator := signed negative (mantissa * Nat.pow 2 exponent.toNat)
    some (numerator.fdiv (divisor * Nat.pow 2 (-exponent).toNat : Nat))
  | _ => none

end EmojiText.Binary64
