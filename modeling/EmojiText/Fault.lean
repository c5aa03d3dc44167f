import EmojiText.Log
import EmojiText.Text.Numeral
import EmojiText.Text.Quoted

/-!
What can be wrong with a dataset, and what is announced about it.

A fault that ends the work is announced in the log when it arises. A fault of a single code or of a
single key of variations is left to whoever drops the entry.
-/

namespace EmojiText

/-- A fault with what it is about, which may be missing, and with a remark on the circumstances
where there is one. -/
inductive Fault where
  /-- A fault of no particular kind. -/
  | general (message : Option Text) (details : Option Text)
  /-- A fault of a dataset. -/
  | dataset (message : Option Text) (details : Option Text)
  /-- A dataset that is not read at all. -/
  | unreadable (source : Option Text) (details : Option Text)
  /-- A code that lists no code points. -/
  | malformedCode (code : Option Text) (details : Option Text)
  /-- A key of variations without a known tone. -/
  | unknownTones (key : Option Text)
deriving DecidableEq, Repr

/-- The kinds of faults. -/
inductive FaultKind where
  | general
  | dataset
  | unreadable
  | malformedCode
  | unknownTones
deriving DecidableEq, Repr

namespace FaultKind

/-- All kinds. -/
def all : List FaultKind := [general, dataset, unreadable, malformedCode, unknownTones]

/-- The name of a kind. -/
def label : FaultKind → Text
  | general => "EmojiCoreError"
  | dataset => "DatasetError"
  | unreadable => "DatasetParseError"
  | malformedCode => "CodepointParseError"
  | unknownTones => "ToneResolutionError"

/-- The kind with the given name. -/
def ofLabel? (name : Text) : Option FaultKind := all.find? (·.label = name)

/-- The kinds that a kind belongs to, the nearest one first. -/
def ancestors : FaultKind → List FaultKind
  | general => []
  | dataset => [general]
  | _ => [dataset, general]

/-- The kind whose arguments a kind takes. -/
def maker : FaultKind → FaultKind
  | dataset => general
  | kind => kind

/-- The name of the argument that every fault of a kind is made with. -/
def firstArgument : FaultKind → Text
  | general => "message"
  | dataset => "message"
  | unreadable => "source"
  | malformedCode => "code"
  | unknownTones => "tone_key"

/-- Whether a kind also takes a remark. -/
def takesDetails (kind : FaultKind) : Bool := kind ≠ unknownTones

end FaultKind

/-- Arguments from which no fault of a kind can be made. -/
inductive ArgumentFault where
  | missing (kind : FaultKind)
  | tooMany (kind : FaultKind) (count : Nat)
deriving DecidableEq, Repr

/-- The wording of wrong arguments. The fault itself counts as one of those that are given. -/
def ArgumentFault.message : ArgumentFault → Text
  | missing kind =>
    kind.maker.label ++ ".__init__() missing 1 required positional argument: '"
      ++ kind.firstArgument ++ "'"
  | tooMany kind count =>
    let taken : Text := if kind.takesDetails then "from 2 to 3" else "2"
    kind.maker.label ++ ".__init__() takes " ++ taken ++ " positional arguments but "
      ++ Text.ofNat (count + 1) ++ " were given"

namespace Fault

/-- The kind of a fault. -/
def kind : Fault → FaultKind
  | general .. => .general
  | dataset .. => .dataset
  | unreadable .. => .unreadable
  | malformedCode .. => .malformedCode
  | unknownTones _ => .unknownTones

/-- The fault of a kind with the given arguments: what it is about, and perhaps a remark. -/
def ofArguments (kind : FaultKind) (arguments : List (Option Text)) : Except ArgumentFault Fault :=
  match arguments with
  | [] => .error (.missing kind)
  | first :: rest =>
    -- one argument is what the fault is about
    if (if kind.takesDetails then 1 else 0) < rest.length then
      .error (.tooMany kind arguments.length)
    else
      let details := rest.head?.join
      .ok <| match kind with
        | .general => general first details
        | .dataset => dataset first details
        | .unreadable => unreadable first details
        | .malformedCode => malformedCode first details
        | .unknownTones => unknownTones first

/-- The part of the program that announces faults. -/
def origin : Text := "exceptions"

/-- The word for something that is missing. -/
def missingWord : Text := "None"

/-- What a fault is about, or the word for nothing. -/
def subject : Fault → Option Text
  | general message _ => message
  | dataset message _ => message
  | unreadable source _ => source
  | malformedCode code _ => code
  | unknownTones key => key

/-- The wording of a fault. A code is quoted in it. -/
def message : Fault → Text
  | general message _ => message.getD missingWord
  | dataset message _ => message.getD missingWord
  | unreadable source _ => "Не удалось разобрать датасет эмодзи: " ++ source.getD missingWord
  | malformedCode code _ =>
    "Некорректная строка кодпоинтов: " ++ (code.map Text.quoted).getD missingWord
  | unknownTones key => "Ключ вариации тона не распознан: " ++ key.getD missingWord

/-- The remark on a fault. -/
def details : Fault → Option Text
  | general _ details => details
  | dataset _ details => details
  | unreadable _ details => details
  | malformedCode _ details => details
  | unknownTones _ => none

/-- The level at which a fault is announced when it arises, if it is. -/
def level? : Fault → Option Level
  | malformedCode .. => none
  | unknownTones _ => none
  | _ => some .error

/-- The wording of the announcement. An empty remark counts as none. -/
def announcementText (fault : Fault) : Text :=
  let start : Text := "EmojiCoreError: " ++ fault.message
  match fault.details with
  | none | some [] => start
  | some details => start ++ " | Детали: " ++ details

/-- The records written when a fault arises. -/
def announcement (fault : Fault) : List LogRecord :=
  match fault.level? with
  | some level => [⟨level, some origin, fault.announcementText⟩]
  | none => []

/-- The wording together with the remark, if there is one that is not empty. -/
def summary (fault : Fault) : Text :=
  match fault.details with
  | none | some [] => fault.message
  | some details => fault.message ++ ": " ++ details

end Fault

end EmojiText
