import EmojiText.Json.Value
import EmojiText.Text.Encoding

/-!
Checks of values that come from outside.

A check either gives a value or lists everything that is wrong, and the checks of the fields of a
structure are combined so that the problems of all fields are listed, in the order of the fields.
-/

namespace EmojiText

/-- A step from a value to a part of it. -/
inductive PathStep where
  | field (name : Text)
  | index (position : Nat)
deriving DecidableEq, Repr

/-- The ways in which a value can be wrong. -/
inductive ProblemKind where
  | notText
  | surrogateText
  | notList
  | notObject
  | notEntry
  | notFlag
  | unknownFlag
  | notInteger
  | unknownInteger
  | hugeInteger
  | fractionalInteger
  | notFinite
  | notNumber
  | unknownNumber
  | refused (reason : Text)
deriving DecidableEq, Repr

namespace ProblemKind

/-- The short name of a problem. -/
def tag : ProblemKind → Text
  | notText => "string_type"
  | surrogateText => "string_unicode"
  | notList => "list_type"
  | notObject => "dict_type"
  | notEntry => "model_type"
  | notFlag => "bool_type"
  | unknownFlag => "bool_parsing"
  | notInteger => "int_type"
  | unknownInteger => "int_parsing"
  | hugeInteger => "int_parsing_size"
  | fractionalInteger => "int_from_float"
  | notFinite => "finite_number"
  | notNumber => "float_type"
  | unknownNumber => "float_parsing"
  | refused _ => "value_error"

/-- The wording of a problem. -/
def message : ProblemKind → Text
  | notText => "Input should be a valid string"
  | surrogateText =>
    "Input should be a valid string, unable to parse raw data as a unicode string"
  | notList => "Input should be a valid list"
  | notObject => "Input should be a valid dictionary"
  | notEntry => "Input should be a valid dictionary or instance of EmojiEntry"
  | notFlag => "Input should be a valid boolean"
  | unknownFlag => "Input should be a valid boolean, unable to interpret input"
  | notInteger => "Input should be a valid integer"
  | unknownInteger => "Input should be a valid integer, unable to parse string as an integer"
  | hugeInteger => "Unable to parse input string as an integer, exceeded maximum size"
  | fractionalInteger => "Input should be a valid integer, got a number with a fractional part"
  | notFinite => "Input should be a finite number"
  | notNumber => "Input should be a valid number"
  | unknownNumber => "Input should be a valid number, unable to parse string as a number"
  | refused reason => "Value error, " ++ reason

end ProblemKind

/-- Something wrong at a place in a value. -/
structure Problem where
  path : List PathStep
  kind : ProblemKind
  input : Json
deriving Repr

namespace Problem

/-- Stands for the address of a page about a problem. -/
def helpAddress : Text := "<help>"

/-- The most bytes of a value that are shown whole. -/
def shownBytes : Nat := 50

/-- The code points at the start of a text that fit into a number of bytes. -/
def fitting : Nat → Text → Text
  | _, [] => []
  | space, c :: rest =>
    let size := (Encoding.encodeUtf8 c).length
    if size ≤ space then c :: fitting (space - size) rest else []

/-- A long text with its middle cut out. -/
def abridged (t : Text) : Text :=
  if shownBytes < (Encoding.encode t).length then
    -- the three points stand for what is left out
    fitting 25 t ++ "..." ++ (fitting 24 t.reverse).reverse
  else t

/-- The place of a problem in messages. -/
def place (problem : Problem) : Text :=
  Text.join "." (problem.path.map fun
    | .field name => name
    | .index position => Text.ofNat position)

/-- The lines about one problem. -/
def lines (problem : Problem) : Text :=
  problem.place ++ "\n  " ++ problem.kind.message ++ " [type=" ++ problem.kind.tag
    ++ ", input_value=" ++ abridged problem.input.listed
    ++ ", input_type=" ++ problem.input.kind
    ++ "]\n    For further information visit " ++ helpAddress

/-- The report on all problems of a value with the given name. -/
def report (subject : Text) (problems : List Problem) : Text :=
  let plural : Text := if problems.length = 1 then [] else "s"
  Text.join "\n" <|
    (Text.ofNat problems.length ++ " validation error" ++ plural ++ " for " ++ subject)
      :: problems.map lines

end Problem

/-- The result of a check. -/
inductive Checked (α : Type) where
  | valid (value : α)
  | invalid (first : Problem) (others : List Problem)
deriving Repr

namespace Checked

variable {α β : Type}

/-- All problems that were found. -/
def problems : Checked α → List Problem
  | valid _ => []
  | invalid first others => first :: others

/-- The value, if nothing is wrong. -/
def value? : Checked α → Option α
  | valid value => some value
  | invalid .. => none

/-- The check that finds one problem with a value as a whole. -/
def fail (kind : ProblemKind) (input : Json) : Checked α := invalid ⟨[], kind, input⟩ []

/-- The result for a value as the result for a part of a larger one. -/
def under (step : PathStep) : Checked α → Checked α
  | valid value => valid value
  | invalid first others =>
    let extend (problem : Problem) : Problem := { problem with path := step :: problem.path }
    invalid (extend first) (others.map extend)

/-- Applies a checked function to a checked value and keeps the problems of both. -/
def apply (f : Checked (α → β)) (a : Checked α) : Checked β :=
  match f, a with
  | valid f, valid a => valid (f a)
  | valid _, invalid first others => invalid first others
  -- the problems of earlier fields come first
  | invalid first others, a => invalid first (others ++ a.problems)

/-- Applies a function to a checked value. -/
def map (f : α → β) : Checked α → Checked β
  | valid a => valid (f a)
  | invalid first others => invalid first others

instance : Applicative Checked where
  map := map
  pure := valid
  seq f a := apply f (a ())

/-- A further check of a value that passed the checks so far. -/
def andThen (a : Checked α) (next : α → Checked β) : Checked β :=
  match a with
  | valid value => next value
  | invalid first others => invalid first others

/-- Checks all items of a list, each at its position. -/
def items (check : Json → Checked α) (position : Nat) : List Json → Checked (List α)
  | [] => valid []
  | item :: rest =>
    List.cons <$> (check item).under (.index position) <*> items check (position + 1) rest

end Checked

namespace Json

/-- A string. -/
def checkText : Json → Checked Text
  | .string t => .valid t
  | input => .fail .notText input

/-- A string, or null for none. -/
def checkOptionalText : Json → Checked (Option Text)
  | .null => .valid none
  | input => some <$> input.checkText

/-- A list of strings. -/
def checkTexts : Json → Checked (List Text)
  | .array items => .items checkText 0 items
  | input => .fail .notList input

/-- An object, or null for an empty one. -/
def checkMembers : Json → Checked (List (Text × Json))
  | .object members => .valid members
  | .null => .valid []
  | input => .fail .notObject input

/-- The words for a set flag. -/
def flagWordsTrue : List Text := ["1", "on", "t", "true", "y", "yes"]

/-- The words for a cleared flag. -/
def flagWordsFalse : List Text := ["0", "off", "f", "false", "n", "no"]

/-- The first integer that needs more than 64 bits. -/
def wordLimit : Int := 0x8000000000000000

/-- The integers of 64 bits. -/
def isWord (n : Int) : Bool := -wordLimit ≤ n && n < wordLimit

/-- The integers of 64 bits without the least one, as far as numbers with a point reach. -/
def isInnerWord (n : Int) : Bool := -wordLimit < n && n < wordLimit

/-- A flag given as a number: zero and one are flags, other numbers of 64 bits are not understood.
-/
def checkFlagNumber (n : Int) (input : Json) : Checked Bool :=
  if n = 0 then .valid false
  else if n = 1 then .valid true
  else .fail (if isWord n then .unknownFlag else .notFlag) input

/-- A flag: a truth value, a number or a word for one in any letter case. -/
def checkFlag : Json → Checked Bool
  | .bool value => .valid value
  | .int n => checkFlagNumber n (.int n)
  | .float x =>
    match x.toInt? with
    | some n => if isInnerWord n then checkFlagNumber n (.float x) else .fail .notFlag (.float x)
    | none => .fail .notFlag (.float x)
  | .string t =>
    let word := t.asciiLowercase
    if t.any CodePoint.isSurrogate then .fail .surrogateText (.string t)
    else if word ∈ flagWordsTrue then .valid true
    else if word ∈ flagWordsFalse then .valid false
    else .fail .unknownFlag (.string t)
  | input => .fail .notFlag input

/-- Checks a member of an object, which has a default where it is missing. -/
def checkMember {α : Type} (members : List (Text × Json)) (name : Text) (default : α)
    (check : Json → Checked α) : Checked α :=
  match findPair? name members with
  | none => .valid default
  | some value => (check value).under (.field name)

end Json

end EmojiText
