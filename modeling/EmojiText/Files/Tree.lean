import EmojiText.Files.Path
import EmojiText.Table

/-!
Files and directories.

A place is known by the names that lead to it from the root; names count as different if their texts
do. A path is walked name by name, from the root or from the working directory, and every place on
the way has to be a directory. The working directory and those above it are always there.

The system may guard places: a guarded file is neither read nor written, and nothing is created in a
guarded directory.
-/

namespace EmojiText

/-- What a path can lead to. -/
inductive FileNode where
  | file (content : Bytes)
  | directory
deriving DecidableEq, Repr

/-- The names that lead to a place from the root. -/
abbrev Place : Type := List Text

/-- Files and directories, each at its place, and the places that the system guards. -/
structure FileTree where
  workingDirectory : Place
  nodes : Table Place FileNode
  guarded : Table Place SystemFault := ∅

namespace FileTree

/-- An empty working directory. -/
def empty (workingDirectory : Place) : FileTree := { workingDirectory, nodes := ∅ }

/-- The most bytes that a name may have. -/
def maxNameBytes : Nat := 255

/-- The number of bytes from which on a path is too long. -/
def maxPathBytes : Nat := 4096

/-- What stands at a place. -/
def node? (tree : FileTree) (place : Place) : Option FileNode :=
  if place.isPrefixOf tree.workingDirectory then some .directory else tree.nodes.find? place

/-- The place of a name in a directory. -/
def placeOf (directory : Place) (name : Text) : Place :=
  if name = Path.parentName then directory.dropLast else directory ++ [name]

/-- Goes from a place to the one that a name in it leads to. -/
def enter (tree : FileTree) (place : Place) (name : Text) : Except FileFault Place :=
  match tree.node? place with
  | some .directory =>
    -- a name that is too long is refused before it is looked for
    if maxNameBytes < (Encoding.encodeName name).length then .error .nameTooLong
    else if name = Path.parentName || (tree.node? (placeOf place name)).isSome then
      .ok (placeOf place name)
    else .error .notFound
  | _ => .error .notDirectory

/-- Where a path starts. -/
def start (tree : FileTree) : PathRoot → Place
  | .workingDirectory => tree.workingDirectory
  | _ => []

/-- Whether a path is too long. -/
def isTooLong (path : Path) : Bool := maxPathBytes ≤ (Encoding.encodeName path.text).length

/-- The place that a path leads to. -/
def walk (tree : FileTree) (path : Path) : Except FileFault Place :=
  if isTooLong path then .error .nameTooLong
  else path.names.foldlM tree.enter (tree.start path.root)

/-- The path from the root to the working directory. -/
def workingPath (tree : FileTree) : Path := ⟨.root, tree.workingDirectory⟩

/-- The path from the root that leads to the same place, without names of the parent. -/
def absolute (tree : FileTree) (path : Path) : Path :=
  match path.root with
  | .workingDirectory => (Path.mk .root (tree.workingDirectory ++ path.names)).collapsed
  | _ => path.collapsed

/-- The outcome of an operation on a path, unless the path is refused. -/
def refuse {α : Type} (path : Path) (outcome : Except FileFault α) : Except FileError α :=
  match path.refusal? with
  | some error => .error error
  | none => outcome.mapError (.fault · path)

/-- The outcome of an operation on a place, unless the system guards the place. -/
def unlessGuarded {α : Type} (tree : FileTree) (place : Place) (a : α) : Except FileFault α :=
  match tree.guarded.find? place with
  | some fault => .error (.system fault)
  | none => .ok a

/-- What a path leads to. -/
def lookup (tree : FileTree) (path : Path) : Except FileFault FileNode :=
  match tree.walk path with
  | .error fault => .error fault
  | .ok place =>
    match tree.node? place with
    | some node => .ok node
    | none => .error .notFound

/-- The content of a file. -/
def read (tree : FileTree) (path : Path) : Except FileError Bytes :=
  refuse path do
    match ← tree.lookup path with
    | .file content => tree.unlessGuarded (← tree.walk path) content
    | .directory => throw .isDirectory

/-- Whether a path leads to a node that satisfies a condition. A name that is too long is an error,
every other failure means no. -/
def leadsTo (tree : FileTree) (condition : FileNode → Bool) (path : Path) : Except FileError Bool :=
  if path.refusal?.isSome then .ok false
  else
    match tree.lookup path with
    | .ok node => .ok (condition node)
    | .error .nameTooLong => .error (.fault .nameTooLong path)
    | .error _ => .ok false

/-- Whether a path leads to a file. -/
def isFile (tree : FileTree) (path : Path) : Except FileError Bool :=
  tree.leadsTo (fun | .file _ => true | .directory => false) path

/-- Whether a path leads to a directory. -/
def isDirectory (tree : FileTree) (path : Path) : Except FileError Bool :=
  tree.leadsTo (fun | .file _ => false | .directory => true) path

/-- Puts a node at a place. -/
def put (tree : FileTree) (place : Place) (node : FileNode) : FileTree :=
  { tree with nodes := tree.nodes.insert place node }

end FileTree

end EmojiText
