import EmojiText.Text.Encoding

/-!
Paths of files, and what can be wrong with a file.

A path is a list of names below a root or below the working directory. Its text has no empty names
and no names for the place itself, so different spellings have one text.
-/

namespace EmojiText

/-- Where a path starts: in the working directory, at the root, or at the second root that two
slashes stand for. -/
inductive PathRoot where
  | workingDirectory
  | root
  | secondRoot
deriving DecidableEq, Repr

/-- A path of a file or a directory. -/
structure Path where
  root : PathRoot
  names : List Text
deriving DecidableEq, Repr

namespace Path

/-- The slash between names. -/
def slash : CodePoint := 0x2F

/-- The text of a root. -/
def rootText : PathRoot → Text
  | .workingDirectory => []
  | .root => [slash]
  | .secondRoot => [slash, slash]

/-- The root of a path that starts with so many slashes. -/
def rootOfSlashes : Nat → PathRoot
  | 0 => .workingDirectory
  | 2 => .secondRoot
  | _ => .root

/-- Whether a piece between slashes names something. -/
def isName (piece : Text) : Bool := !(piece = [] || piece = ("." : Text))

/-- The path that a text denotes. -/
def ofText (t : Text) : Path where
  root := rootOfSlashes (t.takeWhile (· = slash)).length
  names := (t.split slash).filter isName

/-- The text of a path. -/
def text (path : Path) : Text :=
  match rootText path.root ++ Text.join [slash] path.names with
  | [] => "."
  | t => t

/-- The path with one more name. -/
def child (path : Path) (name : Text) : Path := { path with names := path.names ++ [name] }

/-- The path without its last name. -/
def parent (path : Path) : Path := { path with names := path.names.dropLast }

/-- The name of the directory that a directory stands in. -/
def parentName : Text := ".."

/-- One more name behind others: the name of the parent takes the last one away, if there is one. -/
def collapseName (base : PathRoot) (names : List Text) (name : Text) : List Text :=
  if name ≠ parentName then names ++ [name]
  else
    match names.getLast?, base with
    | none, .workingDirectory => [name]
    | none, _ => []
    | some last, _ => if last = parentName then names ++ [name] else names.dropLast

/-- The path without names that are taken back by the name of the parent. -/
def collapsed (path : Path) : Path :=
  { path with names := path.names.foldl (collapseName path.root) [] }

/-- Whether the path holds the code point zero, which no path may. -/
def holdsZero (path : Path) : Bool := path.names.any (·.contains 0)

end Path

/-- The reasons for which the system keeps a file or a directory from being used. -/
inductive SystemFault where
  | accessDenied
  | noSpace
  | readOnly
  | other (number : Nat) (message : Text)
deriving DecidableEq, Repr

/-- The ways in which an operation on a file can fail. -/
inductive FileFault where
  | notFound
  | exists
  | notDirectory
  | isDirectory
  | nameTooLong
  | system (fault : SystemFault)
deriving DecidableEq, Repr

namespace FileFault

/-- The number of a fault. -/
def number : FileFault → Nat
  | notFound => 2
  | .exists => 17
  | notDirectory => 20
  | isDirectory => 21
  | nameTooLong => 36
  | system .accessDenied => 13
  | system .noSpace => 28
  | system .readOnly => 30
  | system (.other number _) => number

/-- The wording of a fault. -/
def message : FileFault → Text
  | notFound => "No such file or directory"
  | .exists => "File exists"
  | notDirectory => "Not a directory"
  | isDirectory => "Is a directory"
  | nameTooLong => "File name too long"
  | system .accessDenied => "Permission denied"
  | system .noSpace => "No space left on device"
  | system .readOnly => "Read-only file system"
  | system (.other _ message) => message

end FileFault

/-- Why an operation on a file failed: for a fault of the file, or for its path, which is refused
before the file is looked at. -/
inductive FileError where
  | fault (fault : FileFault) (path : Path)
  | loneSurrogates (surrogates : LoneSurrogates)
  | zeroInPath
deriving DecidableEq, Repr

/-- The wording of a failure. -/
def FileError.message : FileError → Text
  | fault reason path =>
    "[Errno " ++ Text.ofNat reason.number ++ "] " ++ reason.message ++ ": " ++ path.text.quoted
  | loneSurrogates surrogates => surrogates.message
  | zeroInPath => "embedded null byte"

/-- Why a path is refused: for surrogates that no bytes stand for, which are noticed first, or for
the code point zero. -/
def Path.refusal? (path : Path) : Option FileError :=
  match Encoding.loneSurrogates? path.text with
  | some surrogates => some (.loneSurrogates surrogates)
  | none => if path.holdsZero then some .zeroInPath else none

end EmojiText
