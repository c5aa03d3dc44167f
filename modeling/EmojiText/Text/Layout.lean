import EmojiText.Text.Numeral
import EmojiText.Text.Quoted

/-!
Layouts: how a text is cut off and set into a column.

A layout is written as a text: a code point to fill up with and an alignment (`*^`), a width (`20`)
and, behind a point, the most code points that are kept (`.7`). The same writing serves numbers too,
so it has marks that a text refuses: a sign, a separator of thousands, a kind other than `s`.
`LayoutMarks.ofText` reads what is written, and `Layout.ofMarks` checks that a text can have it.
-/

namespace EmojiText

/-- The side of a column at which a text stands. -/
inductive Alignment where
  | left
  | right
  | center
  /-- Between sign and digits, which only a number can. -/
  | inside
deriving DecidableEq, Repr

/-- The marks of a layout as they are written. -/
structure LayoutMarks where
  fill : Option CodePoint
  alignment : Option Alignment
  sign : Option CodePoint
  positiveZero : Bool
  alternative : Bool
  /-- Whether zeros fill up. -/
  zero : Bool
  width : Option Nat
  separator : Option CodePoint
  limit : Option Nat
  kind : CodePoint
deriving DecidableEq, Repr

/-- How a text is cut off and set into a column. -/
structure Layout where
  fill : CodePoint := 0x20
  alignment : Alignment := .left
  width : Nat := 0
  limit : Option Nat := none
deriving DecidableEq, Repr

/-- What a layout is for. -/
inductive LayoutSubject where
  | text
  | integer
deriving DecidableEq, Repr

/-- Why a layout is refused. -/
inductive LayoutFault where
  | tooManyDigits
  | noLimit
  | malformed (layout : Text) (subject : LayoutSubject)
  | twoSeparators
  | separator (separator kind : CodePoint)
  | kind (kind : CodePoint) (subject : LayoutSubject)
  | blankForSign
  | sign
  | positiveZero (subject : LayoutSubject)
  | alternative
  | inside
  | limitOfInteger
  | signOfCharacter
  | alternativeCharacter
  | noCharacter
  | tooPrecise
  | tooLong
deriving DecidableEq, Repr

namespace LayoutSubject

/-- The name of what a layout is for. -/
def name : LayoutSubject → Text
  | text => "str"
  | integer => "int"

/-- The kind of layouts that name none. -/
def usualKind : LayoutSubject → CodePoint
  | text => 0x73
  | integer => 0x64

end LayoutSubject

/-- The kinds of layouts of numbers with a separator of thousands. -/
def separatedKinds : Text := "deEfFgG%"

/-- The kinds of layouts of numbers in which only an underscore can separate. -/
def underscoredKinds : Text := "boxX"

/-- A code point as it is named in a refusal: as itself if it is ASCII and can be shown. -/
def CodePoint.shown (last : Nat) (c : CodePoint) : Text :=
  if 0x20 < c.val && c.val ≤ last then [c]
  else "\\x" ++ (Nat.toDigits 16 c.val).map CodePoint.ofChar

/-- The wording of a refusal. A text that would be too long is refused without a word. -/
def LayoutFault.message : LayoutFault → Text
  | tooManyDigits => "Too many decimal digits in format string"
  | noLimit => "Format specifier missing precision"
  | malformed layout subject =>
    "Invalid format specifier '" ++ layout ++ "' for object of type '" ++ subject.name ++ "'"
  | twoSeparators => "Cannot specify both ',' and '_'."
  | .separator mark code =>
    "Cannot specify '" ++ [mark] ++ "' with '" ++ code.shown 0x7F ++ "'."
  | .kind code subject =>
    "Unknown format code '" ++ code.shown 0x7F ++ "' for object of type '" ++ subject.name ++ "'"
  | blankForSign => "Space not allowed in string format specifier"
  | sign => "Sign not allowed in string format specifier"
  | positiveZero .text => "Negative zero coercion (z) not allowed in string format specifier"
  | positiveZero .integer => "Negative zero coercion (z) not allowed in integer format specifier"
  | alternative => "Alternate form (#) not allowed in string format specifier"
  | .inside => "'=' alignment not allowed in string format specifier"
  | limitOfInteger => "Precision not allowed in integer format specifier"
  | signOfCharacter => "Sign not allowed with integer format specifier 'c'"
  | alternativeCharacter => "Alternate form (#) not allowed with integer format specifier 'c'"
  | noCharacter => "%c arg not in range(0x110000)"
  | tooPrecise => "precision too big"
  | tooLong => ""

namespace LayoutMarks

/-- The largest number in a layout. -/
def maxNumber : Nat := 0x7FFFFFFFFFFFFFFF

/-- The alignment that a code point stands for. -/
def alignment? (c : CodePoint) : Option Alignment :=
  if c.val = 0x3C then some .left
  else if c.val = 0x3E then some .right
  else if c.val = 0x5E then some .center
  else if c.val = 0x3D then some .inside
  else none

/-- The alignment in front of a text with the code point to fill up with, and what follows. -/
def readAlignment : Text → Option CodePoint × Option Alignment × Text
  | c :: d :: rest =>
    match alignment? d, alignment? c with
    | some alignment, _ => (some c, some alignment, rest)
    | none, some alignment => (none, some alignment, d :: rest)
    | none, none => (none, none, c :: d :: rest)
  | [c] => if (alignment? c).isSome then (none, alignment? c, []) else (none, none, [c])
  | [] => (none, none, [])

/-- Takes the first code point if it is one of the given ones. -/
def readMark (marks : Text) : Text → Option CodePoint × Text
  | c :: rest => if c ∈ marks then (some c, rest) else (none, c :: rest)
  | [] => (none, [])

/-- The number in front of a text, and what follows it. -/
def readNumber (t : Text) : Except LayoutFault (Option Nat × Text) :=
  let (number, rest) := t.numberAhead
  if number.any (maxNumber < ·) then .error .tooManyDigits else .ok (number, rest)

/-- Checks that separators of thousands go with a kind. -/
def checkSeparator (separator : Option CodePoint) (kind : CodePoint) : Except LayoutFault Unit :=
  match separator with
  | none => .ok ()
  | some mark =>
    if kind ∈ separatedKinds || (mark = Text.underscore && kind ∈ underscoredKinds) then .ok ()
    else .error (.separator mark kind)

/-- The marks of the layout that a text denotes. -/
def ofText (subject : LayoutSubject) (t : Text) : Except LayoutFault LayoutMarks := do
  let (fill, alignment, rest) := readAlignment t
  let (sign, rest) := readMark "+- " rest
  let (positiveZero, rest) := readMark "z" rest
  let (alternative, rest) := readMark "#" rest
  -- a zero in front of the width fills up
  let (zero, rest) := if fill.isSome then (none, rest) else readMark "0" rest
  let (width, rest) ← readNumber rest
  let (comma, rest) := readMark "," rest
  let (underscore, rest) := readMark "_" rest
  if underscore.isSome && (comma.isSome || (readMark "," rest).1.isSome) then throw .twoSeparators
  let (point, rest) := readMark "." rest
  let (limit, rest) ← if point.isSome then readNumber rest else pure (none, rest)
  if point.isSome && limit.isNone then throw .noLimit
  if 1 < rest.length then throw (.malformed t subject)
  let kind := rest.head?.getD subject.usualKind
  checkSeparator (comma <|> underscore) kind
  return {
    fill, alignment, sign
    positiveZero := positiveZero.isSome
    alternative := alternative.isSome
    zero := zero.isSome
    width
    separator := comma <|> underscore
    limit, kind }

end LayoutMarks

namespace Layout

/-- The length that no text in a layout reaches. -/
def lengthLimit : Nat := 0x100000000

/-- The layout of a text that the marks denote. -/
def ofMarks (marks : LayoutMarks) : Except LayoutFault Layout := do
  if marks.kind ≠ LayoutSubject.text.usualKind then throw (.kind marks.kind .text)
  if let some mark := marks.sign then throw (if mark.val = 0x20 then .blankForSign else .sign)
  if marks.positiveZero then throw (.positiveZero .text)
  if marks.alternative then throw .alternative
  if marks.alignment = some .inside then throw .inside
  let width := marks.width.getD 0
  if lengthLimit ≤ width then throw .tooLong
  return {
    fill := marks.fill.getD (if marks.zero then 0x30 else 0x20)
    alignment := marks.alignment.getD .left
    width
    limit := marks.limit }

/-- The layout of a text that a text denotes. -/
def ofText (t : Text) : Except LayoutFault Layout := LayoutMarks.ofText .text t >>= ofMarks

/-- The blanks on the left of a text that leaves so many free. -/
def leftMargin (alignment : Alignment) (free : Nat) : Nat :=
  match alignment with
  | .left => 0
  | .right | .inside => free
  | .center => free / 2

/-- A text in the column of the layout. -/
def set (layout : Layout) (t : Text) : Text :=
  let free := layout.width - t.length
  let left := leftMargin layout.alignment free
  List.replicate left layout.fill ++ t ++ List.replicate (free - left) layout.fill

/-- A text in its layout. -/
def apply (layout : Layout) (t : Text) : Text :=
  layout.set (match layout.limit with
    | some limit => t.take limit
    | none => t)

example : ((ofText "*^7.3").toOption.map (apply · "abcd")) = some "**abc**" := by decide +kernel

end Layout

end EmojiText
