import EmojiText.Files.Tree

/-!
Changes of files: creating directories, opening a file to append to it, writing a file.

A `FileChange` may fail, and what it changed before it failed stays changed. There are two ways to
create a directory with those on the way to it: `makeDirectories` tries it first and goes back to
the directories that are missing, `makeMissing` goes on from the last one that is there. They differ
in the path that a failure names.
-/

namespace EmojiText

/-- A change of files, which may fail on the way. -/
abbrev FileChange (α : Type) : Type := ExceptT FileError (StateM FileTree) α

/-- The outcome of a change and the files after it. -/
def FileTree.change {α : Type} (tree : FileTree) (change : FileChange α) :
    Except FileError α × FileTree :=
  StateT.run (ExceptT.run change) tree

namespace FileChange

/-! ### Directories -/

/-- What creating one directory in a directory that is there leads to. -/
def withDirectory (tree : FileTree) (path : Path) : Except FileFault FileTree :=
  match path.names.getLast? with
  | none => .error .exists
  | some name =>
    match if FileTree.isTooLong path then .error .nameTooLong else tree.walk path.parent with
    | .error fault => .error fault
    | .ok place =>
      match tree.enter place name with
      | .ok _ => .error .exists
      | .error .notFound =>
        tree.unlessGuarded place (tree.put (FileTree.placeOf place name) .directory)
      | .error fault => .error fault

/-- Creates one directory, or accepts the one that is there already. -/
def makeDirectory (path : Path) : FileChange Unit := do
  if let some error := path.refusal? then throw error
  let tree ← get
  match withDirectory tree path with
  | .ok tree => set tree
  | .error fault =>
    match tree.isDirectory path with
    | .ok true => return
    | .ok false => throw (.fault fault path)
    | .error error => throw error

/-- Creates a directory, given its names in reverse, and those on the way to it that are missing. -/
def makeDirectoriesUpTo (base : PathRoot) : List Text → FileChange Unit
  | [] => return
  | name :: names => do
    let path : Path := ⟨base, (name :: names).reverse⟩
    match withDirectory (← get) path with
    -- the directory that this one stands in is missing
    | .error .notFound =>
      makeDirectoriesUpTo base names
      makeDirectory path
    | _ => makeDirectory path

/-- Creates a directory and those on the way to it that are missing. -/
def makeDirectories (path : Path) : FileChange Unit :=
  match path.refusal? with
  | some error => throw error
  | none => makeDirectoriesUpTo path.root path.names.reverse

/-- Creates a directory, given its names in reverse, and before it the one that it stands in if that
is missing. -/
def makeMissingUpTo (base : PathRoot) : List Text → FileChange Unit
  | [] => return
  | name :: names => do
    let path : Path := ⟨base, (name :: names).reverse⟩
    match (← get).lookup path.parent with
    | .ok _ => makeDirectory path
    | .error _ =>
      makeMissingUpTo base names
      makeDirectory path

/-- Creates the directories that are missing on the way to a path and the one that it leads to, from
the root on. -/
def makeMissing (path : Path) : FileChange Unit := makeMissingUpTo path.root path.names.reverse

/-! ### Files -/

/-- The place at which a file can be written, and its content so far. -/
def writable (tree : FileTree) (path : Path) : Except FileFault (Place × Bytes) := do
  match tree.lookup path, path.names.getLast? with
  | .ok (.file content), _ =>
    let place ← tree.walk path
    tree.unlessGuarded place (place, content)
  | .error .notFound, some name =>
    let directory ← tree.walk path.parent
    tree.unlessGuarded directory (FileTree.placeOf directory name, [])
  | .error fault, _ => throw fault
  | .ok .directory, _ => throw .isDirectory

/-- Opens a file to append to it. It is created if it is missing. -/
def openToAppend (path : Path) : FileChange Unit := do
  let tree ← get
  let (place, content) ← FileTree.refuse path (writable tree path)
  set (tree.put place (.file content))

/-- Writes a file, with the directories on the way to it. -/
def write (path : Path) (content : Bytes) : FileChange Unit := do
  makeDirectories path.parent
  let tree ← get
  let (place, _) ← FileTree.refuse path (writable tree path)
  set (tree.put place (.file content))

end FileChange

end EmojiText
