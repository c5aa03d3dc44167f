import EmojiText.Value.Fault

/-!
Patterns of the paths of log files: texts with fields in braces that stand for the time at which a
file is opened, or for a part of it.

A field has a name, perhaps a mark behind `!` for a description of what it names, and a format
behind `:`, which may hold fields itself. Two equal braces stand for one. `Pattern.ofText` reads a
text up to its first fault; a field that stands in front of a fault fails before it.
-/

namespace EmojiText.Logging

/-- Why a pattern is refused. -/
inductive PatternFault where
  | loneOpeningBrace
  | loneClosingBrace
  | braceInName
  | noMark
  | noFormat
  | openFormat
  | openField
  | positional
  | unknownName (name : Text)
  | emptySelector
  | strayAfterItem
  | tooManyDigits
  | unknownMark (mark : CodePoint)
  | tooDeep
  | value (fault : Value.Fault)
deriving DecidableEq, Repr

/-- The wording of a refusal. -/
def PatternFault.message : PatternFault → Text
  | loneOpeningBrace => "Single '\x7b' encountered in format string"
  | loneClosingBrace => "Single '\x7d' encountered in format string"
  | braceInName => "unexpected '\x7b' in field name"
  | noMark => "end of string while looking for conversion specifier"
  | noFormat => "expected ':' after conversion specifier"
  | openFormat => "unmatched '\x7b' in format spec"
  | openField => "expected '\x7d' before end of string"
  | positional => "Format string contains positional fields"
  | unknownName name => name.quoted
  | emptySelector => "Empty attribute in format string"
  | strayAfterItem => "Only '.' or '[' may follow ']' in format field specifier"
  | tooManyDigits => LayoutFault.tooManyDigits.message
  | unknownMark mark => "Unknown conversion specifier " ++ mark.shown 0x7E
  | tooDeep => "Max string recursion exceeded"
  | .value fault => fault.message

/-- A field of a pattern: its name, the mark for a description, and its format. -/
structure Field where
  name : Text
  mark : Option CodePoint := none
  format : Text := []
deriving DecidableEq, Repr

/-- A piece of a pattern: a code point that stands for itself, or a field. -/
inductive Piece where
  | code (c : CodePoint)
  | field (field : Field)
deriving DecidableEq, Repr

/-- The pieces of a text in front of its first fault, and that fault if there is one. -/
structure Pattern where
  pieces : List Piece
  fault : Option PatternFault
deriving DecidableEq, Repr

/-! ### Reading -/

/-- The brace that opens a field. -/
def openingBrace : CodePoint := 0x7B

/-- The brace that closes a field. -/
def closingBrace : CodePoint := 0x7D

/-- The bracket that opens an item of a name. -/
def openingBracket : CodePoint := 0x5B

/-- The bracket that closes an item of a name. -/
def closingBracket : CodePoint := 0x5D

/-- How far a pattern is read: between fields, behind a brace that may be the first of two, or in a
part of a field. -/
inductive PatternState where
  | between
  | opened
  | closed
  | name (name : Text)
  | item (name : Text)
  | mark (name : Text)
  | marked (name : Text) (mark : CodePoint)
  /-- In the format, with so many fields of its own open. -/
  | format (field : Field) (depth : Nat)
deriving DecidableEq, Repr

namespace PatternState

/-- The state behind one more code point in the name of a field, and the field if it ends. -/
def nextInName (read : Text) (c : CodePoint) : Except PatternFault (List Piece × PatternState) :=
  if c = openingBrace then .error .braceInName
  else if c = closingBrace then .ok ([.field { name := read }], between)
  else if c.val = 0x3A then .ok ([], .format { name := read } 0)
  else if c.val = 0x21 then .ok ([], .mark read)
  else if c = openingBracket then .ok ([], item (read ++ [c]))
  else .ok ([], .name (read ++ [c]))

/-- The state behind one more code point, and the pieces that it ends. -/
def next (c : CodePoint) : PatternState → Except PatternFault (List Piece × PatternState)
  | between =>
    if c = openingBrace then .ok ([], opened)
    else if c = closingBrace then .ok ([], closed)
    else .ok ([.code c], between)
  | opened => if c = openingBrace then .ok ([.code c], between) else nextInName [] c
  | closed => if c = closingBrace then .ok ([.code c], between) else .error .loneClosingBrace
  | .name read => nextInName read c
  -- in brackets only the closing one has a meaning
  | item read =>
    .ok ([], if c = closingBracket then .name (read ++ [c]) else item (read ++ [c]))
  | .mark read => .ok ([], marked read c)
  | marked read code =>
    let field : Field := { name := read, mark := some code }
    if c = closingBrace then .ok ([.field field], between)
    else if c.val = 0x3A then .ok ([], .format field 0)
    else .error .noFormat
  | .format field depth =>
    let longer : Field := { field with format := field.format ++ [c] }
    if c = openingBrace then .ok ([], .format longer (depth + 1))
    else if c = closingBrace then
      match depth with
      | 0 => .ok ([.field field], between)
      | depth + 1 => .ok ([], .format longer depth)
    else .ok ([], .format longer depth)

/-- The fault of a pattern that ends in a state. -/
def fault? : PatternState → Option PatternFault
  | between => none
  | opened => some .loneOpeningBrace
  | closed => some .loneClosingBrace
  | .name _ | item _ => some .openField
  | .mark _ => some .noMark
  | marked .. | .format .. => some .openFormat

end PatternState

namespace Pattern

/-- The pattern that the rest of a text denotes. -/
def readFrom (state : PatternState) : Text → Pattern
  | [] => ⟨[], state.fault?⟩
  | c :: rest =>
    match state.next c with
    | .error fault => ⟨[], some fault⟩
    | .ok (pieces, state) =>
      let pattern := readFrom state rest
      { pattern with pieces := pieces ++ pattern.pieces }

/-- The pattern that a text denotes. -/
def ofText (t : Text) : Pattern := readFrom .between t

example : ofText "\x7d\x7d\x7ba!r:b\x7d\x7b" =
    ⟨[.code closingBrace, .field ⟨"a", some 0x72, "b"⟩], some .loneOpeningBrace⟩ := by
  decide +kernel

end Pattern

end EmojiText.Logging
