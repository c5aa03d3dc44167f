import EmojiText.Logging.Pattern
import EmojiText.Value.Part
import EmojiText.Value.Written

/-!
Patterns expanded: texts in the place of the fields.

The name of a field starts with the one of the time at which a file is opened. Selectors follow,
each of which goes on from a value to a part of it (`.month`) or an item (`[0]`). `expand` writes
what the fields name; a field that stands in front of a fault fails before it, and so does a
selector.
-/

namespace EmojiText.Logging

/-! ### Names -/

/-- A step from a value to another. -/
inductive Selector where
  | part (name : Text)
  | item (key : Text)
  | itemAt (position : Nat)
deriving DecidableEq, Repr

/-- Whether a number in front of a text is too long for a position. -/
def startsTooLong (t : Text) : Bool := t.numberAhead.1.any (LayoutMarks.maxNumber < ·)

namespace Selector

/-- The selector of an item: a number stands for a position. -/
def ofItem (key : Text) : Selector :=
  match key.numberAhead with
  | (some position, []) => itemAt position
  | _ => item key

/-- The value to which a selector goes. -/
def select (selector : Selector) (value : Value) : Except PatternFault Value :=
  (match selector with
    | part name => value.part name
    | item key => value.itemOf key
    | itemAt position => value.itemAt position).mapError .value

end Selector

/-- Whether a code point ends the name of a part. -/
def endsPart (c : CodePoint) : Bool := c.val = 0x2E || c = openingBracket

/-- The selectors that a text denotes in front of its first fault, and that fault if there is one.
-/
def selectorsOf : Text → List Selector × Option PatternFault
  | [] => ([], none)
  | c :: rest =>
    if c = openingBracket then
      let key := rest.takeWhile (· ≠ closingBracket)
      if startsTooLong key then ([], some .tooManyDigits)
      else if key.isEmpty then ([], some .emptySelector)
      else
        let (selectors, fault) := selectorsOf ((rest.dropWhile (· ≠ closingBracket)).drop 1)
        (.ofItem key :: selectors, fault)
    else if endsPart c then
      let name := rest.takeWhile (!endsPart ·)
      if name.isEmpty then ([], some .emptySelector)
      else
        let (selectors, fault) := selectorsOf (rest.dropWhile (!endsPart ·))
        (.part name :: selectors, fault)
    else ([], some .strayAfterItem)
termination_by t => t.length
decreasing_by
  · have := (List.dropWhile_suffix (l := rest) (· ≠ closingBracket)).length_le
    simp only [List.length_drop, List.length_cons]
    omega
  · have := (List.dropWhile_suffix (l := rest) (!endsPart ·)).length_le
    simp only [List.length_cons]
    omega

/-- The name of the fields that stand for the time. -/
def timeName : Text := "time"

/-- The value that a name stands for at a moment. -/
def valueOf (moment : Moment) (name : Text) : Except PatternFault Value := do
  let (first, rest) := name.span (!endsPart ·)
  if startsTooLong first then throw .tooManyDigits
  -- a number, or nothing, stands for a position
  if (Text.numberAhead first).2.isEmpty then throw .positional
  if first ≠ timeName then throw (.unknownName first)
  let (selectors, fault) := selectorsOf rest
  let value ← selectors.foldlM (fun value selector => selector.select value) (.opening moment)
  match fault with
  | some fault => throw fault
  | none => return value

/-! ### Fields -/

/-- A value as a mark says: described, or as a text on its own. -/
def marked (mark : CodePoint) (value : Value) : Except PatternFault Value :=
  if mark.val = 0x73 then .ok (.text value.plain)
  -- all descriptions are in ASCII, to which one of the marks restricts them
  else if mark.val = 0x72 || mark.val = 0x61 then .ok (.text value.description)
  else .error (.unknownMark mark)

/-- The text of a field, given how to expand its format. -/
def Field.expand (expandFormat : Text → Except PatternFault Text) (moment : Moment)
    (field : Field) : Except PatternFault Text := do
  let value ← valueOf moment field.name
  let value ← match field.mark with
    | some mark => marked mark value
    | none => pure value
  let format ←
    if field.format.contains openingBrace then expandFormat field.format else pure field.format
  (value.written format).mapError .value

/-- How deep fields stand in formats of others: not in those of fields that stand in one already. -/
def maxDepth : Nat := 2

/-- The text of a pattern, given how deep its fields may stand. -/
def expandTo (moment : Moment) : Nat → Text → Except PatternFault Text
  | 0, _ => .error .tooDeep
  | depth + 1, t => do
    let pattern := Pattern.ofText t
    let texts ← pattern.pieces.mapM fun
      | .code c => pure [c]
      | .field field => field.expand (expandTo moment depth) moment
    match pattern.fault with
    | some fault => throw fault
    | none => return texts.flatten

/-- The text of a pattern at a moment. -/
def expand (moment : Moment) (t : Text) : Except PatternFault Text := expandTo moment maxDepth t

example : (selectorsOf ".a[01][b].").1 = [.part "a", .itemAt 1, .item "b"] := by decide +kernel

example : (expand .last "\x7btime:hh\x7d\x7d\x7d").toOption = some "11\x7d" := by decide +kernel

end EmojiText.Logging
