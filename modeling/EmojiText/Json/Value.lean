import EmojiText.Table
import EmojiText.Binary64.Decimal
import EmojiText.Text.Quoted

/-!
Values of the JSON data format.

Numbers without a fraction and an exponent are integers of any size, all others are binary64
numbers. The members of an object keep the order in which their names were first written.
-/

namespace EmojiText

/-- A JSON value. -/
inductive Json where
  | null
  | bool (value : Bool)
  | int (value : Int)
  | float (value : Binary64)
  | string (value : Text)
  | array (items : List Json)
  | object (members : List (Text × Json))
deriving Repr, Inhabited

namespace Json

/-- The object that results from writing the members one after the other. -/
def ofMembers (members : List (Text × Json)) : Json :=
  .object (members.foldl (fun pairs member => insertPair member.1 member.2 pairs) [])

/-- The value of a member of an object. -/
def member? (name : Text) : Json → Option Json
  | .object members => findPair? name members
  | _ => none

/-- The name of the kind of a value in messages. -/
def kind : Json → Text
  | .null => "NoneType"
  | .bool _ => "bool"
  | .int _ => "int"
  | .float _ => "float"
  | .string _ => "str"
  | .array _ => "list"
  | .object _ => "dict"

mutual

/-- The value as it is listed in messages: strings are quoted. -/
def listed : Json → Text
  | .null => "None"
  | .bool true => "True"
  | .bool false => "False"
  | .int n => Text.ofInt n
  | .float x => x.text
  | .string t => t.quoted
  | .array items => "[" ++ Text.join ", " (listedItems items) ++ "]"
  | .object members => "\x7b" ++ Text.join ", " (listedMembers members) ++ "\x7d"

/-- The items of an array, each as it is listed. -/
def listedItems : List Json → List Text
  | [] => []
  | item :: items => listed item :: listedItems items

/-- The members of an object, each as it is listed. -/
def listedMembers : List (Text × Json) → List Text
  | [] => []
  | (name, value) :: members => (name.quoted ++ ": " ++ listed value) :: listedMembers members

end

/-- The value as a text of its own: a string stands for itself. -/
def plain : Json → Text
  | .string t => t
  | value => value.listed

end Json

end EmojiText
