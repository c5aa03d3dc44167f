import EmojiText.Text.Layout
import EmojiText.Text.Uppercase

/-!
Layouts of integers: the base, the notation and the column in which an integer is written.

The kind of a layout is a letter: `d` and `n` stand for decimal, `b`, `o`, `x` and `X` for other
bases, `c` for the character with the number, `f` for decimals behind a point, `%` for hundredths,
`e` for a power of ten, and `g` for the shorter of the last two. `integerIn` writes an integer as a
layout says.
-/

namespace EmojiText.IntegerLayout

/-- The parts of a written number, without its sign: the mark of its base, the digits in front of
the point, and what follows them. -/
structure Parts where
  mark : Text := []
  digits : Text
  rest : Text := []

/-! ### Whole numbers -/

/-- The base that a kind stands for, with the mark of the base. -/
def base? (kind : CodePoint) : Option (Nat × Text) :=
  if kind.val = 0x64 || kind.val = 0x6E then some (10, [])
  else if kind.val = 0x62 then some (2, "0b")
  else if kind.val = 0x6F then some (8, "0o")
  else if kind.val = 0x78 then some (16, "0x")
  else if kind.val = 0x58 then some (16, "0X")
  else none

/-- The number in the base of a kind. -/
def inBase (marks : LayoutMarks) (base : Nat) (mark : Text) (n : Nat) : Parts :=
  let digits : Text := (Nat.toDigits base n).map CodePoint.ofChar
  { mark := if marks.alternative then mark else []
    digits := if marks.kind.val = 0x58 then digits.capitals else digits }

/-- The kind of layouts that write the character with the number. -/
def characterKind : CodePoint := 0x63

/-- The character with the number. -/
def character (marks : LayoutMarks) (n : Int) : Except LayoutFault Parts := do
  if marks.sign.isSome then throw .signOfCharacter
  if marks.alternative then throw .alternativeCharacter
  match if 0 ≤ n then CodePoint.ofNat? n.toNat else none with
  | some c => return { digits := [], rest := [c] }
  | none => throw .noCharacter

/-! ### Numbers with a point -/

/-- Decimals behind a point, which is left out with them unless it is asked for. -/
def pointed (marks : LayoutMarks) (decimals : Text) : Text :=
  if decimals.isEmpty && !marks.alternative then [] else "." ++ decimals

/-- The number rounded to so many digits, a half to the even neighbour, and the power of ten of the
first digit. -/
def rounded (count n : Nat) : Text × Nat :=
  let digits := Text.ofNat n
  if digits.length ≤ count then
    (digits ++ List.replicate (count - digits.length) 0x30, digits.length - 1)
  else
    let unit := Nat.pow 10 (digits.length - count)
    let twice := 2 * (n % unit)
    let up := unit < twice || (twice = unit && n / unit % 2 = 1)
    let kept := Text.ofNat (if up then n / unit + 1 else n / unit)
    -- a number of nines gets one more digit
    (kept.take count, digits.length - 1 + (kept.length - count))

/-- The digits of a number in front of a power of ten, the first one in front of the point. -/
def scientific (marks : LayoutMarks) (capital : Bool) (digits : Text) (exponent : Nat) : Parts where
  digits := digits.take 1
  rest := pointed marks (digits.drop 1) ++ (if capital then "E+" else "e+")
    ++ Text.zeroPadded 2 exponent

/-- The digits without zeros at their end, which stay if the point is asked for. -/
def shortened (marks : LayoutMarks) (digits : Text) : Text :=
  if marks.alternative then digits else digits.trimEnd (· = 0x30)

/-- The number with a point as a kind says, with so many digits behind it or in all. -/
def withPoint? (marks : LayoutMarks) (limit n : Nat) : Option Parts :=
  let fixed (n : Nat) : Parts :=
    { digits := Text.ofNat n, rest := pointed marks (List.replicate limit 0x30) }
  let general (capital : Bool) : Parts :=
    let count := max 1 limit
    let (digits, exponent) := rounded count n
    if exponent < count then
      { digits := digits.take (exponent + 1)
        rest := pointed marks (shortened marks (digits.drop (exponent + 1))) }
    else
      scientific marks capital (digits.take 1 ++ shortened marks (digits.drop 1)) exponent
  let power (capital : Bool) : Parts :=
    let (digits, exponent) := rounded (limit + 1) n
    scientific marks capital digits exponent
  if marks.kind.val = 0x66 || marks.kind.val = 0x46 then some (fixed n)
  else if marks.kind.val = 0x25 then
    let parts := fixed (100 * n)
    some { parts with rest := parts.rest ++ "%" }
  else if marks.kind.val = 0x65 then some (power false)
  else if marks.kind.val = 0x45 then some (power true)
  else if marks.kind.val = 0x67 then some (general false)
  else if marks.kind.val = 0x47 then some (general true)
  else none

/-! ### Columns -/

/-- How many digits stand between separators. -/
def groupSize (kind : CodePoint) : Nat := if kind ∈ underscoredKinds then 4 else 3

/-- Digits from the last one on in groups, with zeros up to a width. -/
def grouped (size : Nat) (separator : CodePoint) (width : Nat) (digits : Text) : Text :=
  let count := min (size + 1) (max (max digits.length width) 1)
  let group := (digits.take count).rightpad count 0x30
  if _ : (digits.drop count).isEmpty && width - count = 0 then group
  else group ++ separator :: grouped size separator (width - count - 1) (digits.drop count)
termination_by digits.length + width
decreasing_by
  simp only [Bool.and_eq_true, List.isEmpty_iff, decide_eq_true_eq, List.drop_eq_nil_iff] at *
  simp only [List.length_drop]
  omega

/-- The sign of a number. -/
def signOf (marks : LayoutMarks) (n : Int) : Text :=
  if n < 0 then "-" else (marks.sign.filter (·.val ≠ 0x2D)).toList

/-- The parts of a number in their column. -/
def set (marks : LayoutMarks) (sign : Text) (parts : Parts) : Except LayoutFault Text :=
  let fill := marks.fill.getD (if marks.zero then 0x30 else 0x20)
  let alignment := marks.alignment.getD (if marks.zero then .inside else .right)
  let width := marks.width.getD 0
  let front := sign ++ parts.mark
  let digits := match marks.separator with
    | none => parts.digits
    | some separator =>
      let zeros := fill = 0x30 && alignment = .inside
      let least := if zeros then width - front.length - parts.rest.length else 0
      (grouped (groupSize marks.kind - 1) separator least parts.digits.reverse).reverse
  if Layout.lengthLimit ≤ width then .error .tooLong
  else
    let layout : Layout := { fill, alignment, width := width - front.length }
    let whole : Layout := { fill, alignment, width }
    .ok (if alignment = .inside then front ++ layout.set (digits ++ parts.rest)
      else whole.set (front ++ digits ++ parts.rest))

/-- How many digits stand behind a point if a layout does not say so. -/
def usualLimit : Nat := 6

/-- The largest number of digits behind a point. -/
def maxLimit : Nat := 0x7FFFFFFF

/-- An integer as a layout says. -/
def integerIn (layout : Text) (n : Int) : Except LayoutFault Text := do
  if layout.isEmpty then return Text.ofInt n
  let marks ← LayoutMarks.ofText .integer layout
  let checkWhole : Except LayoutFault Unit := do
    if marks.limit.isSome then throw .limitOfInteger
    if marks.positiveZero then throw (.positiveZero .integer)
  if marks.kind = characterKind then
    checkWhole
    set marks [] (← character marks n)
  else if let some (base, mark) := base? marks.kind then
    checkWhole
    set marks (signOf marks n) (inBase marks base mark n.natAbs)
  else
    let limit := marks.limit.getD usualLimit
    if separatedKinds.contains marks.kind && maxLimit < limit then throw .tooPrecise
    match withPoint? marks limit n.natAbs with
    | some parts => set marks (signOf marks n) parts
    | none => throw (.kind marks.kind .integer)

example : (integerIn "+,.1f" 9999).toOption = some "+9,999.0" := by decide +kernel

example : (integerIn "#07x" (-255)).toOption = some "-0x00ff" := by decide +kernel

end EmojiText.IntegerLayout
