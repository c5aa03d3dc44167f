import EmojiText.Command

/-!
The program: gathers what a run depends on, runs it, and writes what it gives.
-/

namespace EmojiText.Program

/-- What stands at a path, if it can be read. -/
def node? (path : String) : IO (Option FileNode) := do
  try
    return some (.file (← IO.FS.readBinFile path).toList)
  catch
    | .inappropriateType .. => return some .directory
    | _ => return none

/-- The text of a file that can be read. -/
def readText (path : String) : IO Text := do
  match ← node? path with
  | some (.file content) => return ((Encoding.utf8.decode true content).toOption).getD []
  | _ => return []

/-- Adds what stands at a place to what is known of the files. -/
def look (tree : FileTree) (place : Place) : IO FileTree := do
  match Text.toString? (Path.text ⟨.root, place⟩) with
  | none => return tree
  | some path =>
    match ← node? path with
    | some node => return tree.put place node
    | none => return tree

/-- Adds what stands on the way of a path to what is known of the files. -/
def explore (tree : FileTree) (path : Path) : IO FileTree := do
  let (tree, _) ← path.names.foldlM
    (fun (tree, place) name => do
      let place := FileTree.placeOf place name
      return (← look tree place, place))
    (tree, tree.start path.root)
  return tree

/-- The variables of the environment. -/
def environment : IO (Table Text Text) := do
  let assignments := (← readText "/proc/self/environ").split 0
  return Table.ofList (assignments.filterMap fun assignment =>
    match assignment.span (· ≠ EnvFile.equalsSign) with
    | (name, _ :: value) => some (name, value)
    | (_, []) => none)

/-- The number in the field of a text that follows a word. -/
def numberAfter (word t : Text) : Nat :=
  let spaced : Text := t.map fun c => if c.isBlank then 0x20 else c
  let fields : List Text := ((spaced.split 0x20).dropWhile (· ≠ word)).drop 1
  (Binary64.digitRun (Binary64.spanDigits (fields.head?.getD [])).1).1

/-- The present moment. -/
def now : IO Moment := do
  let start := numberAfter "btime" (← readText "/proc/stat")
  let running := numberAfter "up" ("up " ++ (← readText "/proc/uptime"))
  return { seconds := start + running }

/-- Adds what stands on the way of the paths that a set-up of the log uses to what is known of the
files. -/
def exploreLog (moment : Moment) (options : Logging.Options) (tree : FileTree) : IO FileTree := do
  let files := [options.recordsFile, options.errorsFile]
  let paths := files.filterMap fun file => (file.path moment tree).toOption
  (options.directoryPath :: paths).foldlM explore tree

/-- The session that a run starts with: everything that it can depend on. -/
def startSession : IO Session := do
  let workingDirectory := Path.ofText (Text.ofString (← IO.currentDir).toString)
  let environment ← environment
  let moment ← now
  let tree ← explore (.empty workingDirectory.names) Config.envFilePath
  let config := ((Config.load [] environment tree).toOption).getD {}
  let tree ← explore tree config.datasetFile
  let tree ← exploreLog moment (.ofConfig config) tree
  let tree ← exploreLog moment {} tree
  return { environment, files := tree, moment }

/-- Creates a directory that the run created. -/
def createDirectory (place : Place) : IO Unit := do
  if let some path := Text.toString? (Path.text ⟨.root, place⟩) then
    IO.FS.createDirAll path

/-- Adds a text to the end of a file. -/
def append (path : Path) (content : Text) : IO Unit := do
  if let some path := Text.toString? path.text then
    let handle ← IO.FS.Handle.mk path .append
    handle.write ⟨(Encoding.encode content).toArray⟩

/-- Writes a text to a stream. -/
def print (stream : IO.FS.Stream) (t : Text) : IO Unit := do
  stream.write ⟨(Encoding.encode t).toArray⟩
  stream.flush

/-- Runs the program and gives its exit code. -/
def run (arguments : List String) : IO UInt32 := do
  let session ← startSession
  let input ← if arguments.isEmpty then (← IO.getStdin).readToEnd else pure ""
  let invocation : Invocation := ⟨arguments.map Text.ofString, Text.ofString input⟩
  let (result, session) := (invocation.script.runIn session).value
  session.files.nodes.pairs.forM fun (place, node) =>
    if node = .directory then createDirectory place else pure ()
  session.logbook.files.pairs.forM fun (path, lines) =>
    append path (Logging.textOfLines lines)
  print (← IO.getStderr) (Logging.textOfLines session.logbook.console)
  match result with
  | .ok outcome =>
    print (← IO.getStdout) outcome.output
    return UInt32.ofNat outcome.exitCode
  | .error _ => return 1

end EmojiText.Program

def main (arguments : List String) : IO UInt32 := EmojiText.Program.run arguments
