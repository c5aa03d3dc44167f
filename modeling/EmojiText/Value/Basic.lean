import EmojiText.Moment.Plain
import EmojiText.Text.Quoted
import EmojiText.Value.Note

/-!
The values that the name of a field can reach, from the opening of a file on: its moment, the
numbers of that moment, spans and zones, and whatever these tell of themselves.

Every value has a kind. A value is written in two ways: as itself, and in a description that tells
it apart from values of other kinds.
-/

namespace EmojiText

/-- A value that the name of a field can reach. -/
inductive Value where
  | nothing
  | integer (n : Int)
  | text (t : Text)
  | row (items : List Value)
  | table (entries : List (Text × Value))
  | view (entries : List (Text × Value))
  /-- The opening of a file at a moment. -/
  | opening (moment : Moment)
  | moment (moment : Moment)
  /-- The day of a moment. -/
  | day (moment : Moment)
  | span (span : Span)
  | zone (zone : Zone)
  | kind (k : Kind)
  /-- A member on its own. -/
  | member (member : Member)
  /-- A member with the value to which it belongs. -/
  | bound (owner : Value) (member : Member)
  /-- What a function does. -/
  | code (function : Member)

namespace Value

/-- The kind of a value. -/
def kindOf : Value → Kind
  | nothing => .nothing
  | integer _ => .integer
  | .text _ => .text
  | row _ => .row
  | table _ => .table
  | view _ => .view
  | opening _ => .opening
  | moment m => if m.zoned then .zonedMoment else .moment
  | day _ => .day
  | .span _ => .span
  | .zone _ => .zone
  | .kind _ => .kind
  | member m =>
    match m.sort with
    | .function => .function
    | .operator => .operator
    | .method => .method
    | .kindMethod => .kindMethod
    | .free => .boundMethod
    | .property => .property
    | .slot => .slot
    | .constant => .anything
  | bound _ m =>
    match m.sort with
    | .function => .boundFunction
    | .operator => .boundOperator
    | _ => .boundMethod
  | code _ => .code

/-! ### Writing -/

/-- The place in memory that descriptions name. -/
def place : Text := "0x7f0000000000"

/-- The description of a value by its kind and its place. -/
def placed (k : Kind) : Text := k.label ++ " object at " ++ place

/-- The description of a kind. -/
def kindDescription (k : Kind) : Text := "<class '" ++ k.fullName ++ "'>"

/-- The description of a member on its own. -/
def memberDescription (member : Member) : Text :=
  let described (sort : Text) : Text :=
    "<" ++ sort ++ " '" ++ member.name ++ "' of '" ++ member.home.label ++ "' objects>"
  match member.sort with
  | .function => "<function " ++ member.nameBehind member.home ++ " at " ++ place ++ ">"
  | .operator => described "slot wrapper"
  | .property => described "attribute"
  | .slot => described "member"
  | _ => described "method"

/-- The description of a table from those of its entries. -/
def tableDescription (entries : List Text) : Text := "\x7b" ++ Text.join ", " entries ++ "\x7d"

mutual

/-- The description of a value. -/
def description : Value → Text
  | nothing => "None"
  | integer n => Text.ofInt n
  | .text t => Text.quoted t
  | row [item] => "(" ++ item.description ++ ",)"
  | row items => "(" ++ Text.join ", " (descriptions items) ++ ")"
  | table entries => tableDescription (entryDescriptions entries)
  | view entries => "mappingproxy(" ++ tableDescription (entryDescriptions entries) ++ ")"
  | opening _ => "<" ++ Kind.opening.fullName ++ " object at " ++ place ++ ">"
  | moment m => m.description
  | day m => m.dayDescription
  | span s => s.description
  | zone z => z.description
  | .kind k => kindDescription k
  | member m => memberDescription m
  | bound owner m =>
    match m.sort with
    | .function =>
      "<bound method " ++ m.nameBehind m.home ++ " of " ++ owner.description ++ ">"
    | .operator =>
      "<method-wrapper '" ++ m.name ++ "' of " ++ placed owner.kindOf ++ ">"
    | _ => "<built-in method " ++ m.name ++ " of " ++ placed owner.kindOf ++ ">"
  | code function =>
    "<code object " ++ function.name ++ " at " ++ place ++ ">"

/-- The descriptions of values. -/
def descriptions : List Value → List Text
  | [] => []
  | item :: items => item.description :: descriptions items

/-- The descriptions of entries with their keys. -/
def entryDescriptions : List (Text × Value) → List Text
  | [] => []
  | (key, value) :: entries =>
    (Text.quoted key ++ ": " ++ value.description) :: entryDescriptions entries

end

/-- A value as it is written. -/
def plain : Value → Text
  | .text t => t
  | moment m => m.plain
  | day m => m.plainDay
  | span s => s.plain
  | zone z => z.plain
  | view entries => tableDescription (entryDescriptions entries)
  | value => value.description

end Value

end EmojiText
