import EmojiText.Table
import EmojiText.Text.Blank

/-!
Files of variables, one assignment `NAME=value` a line.

A name may have `export` in front of it or stand between single quotes, and may come without a
value. A value may stand between single or double quotes, where it may hold line ends and escapes;
else it ends before a comment or with the line. A line that is no assignment is skipped from the
place where it stops being one.

`${NAME}` in a value stands for the value that a variable has at this place: the last one that the
file has set so far, before one of the environment. `${NAME:-text}` stands for a text if there is no
such variable.
-/

namespace EmojiText.EnvFile

/-- A blank that does not end the line. -/
def isGap (c : CodePoint) : Bool := c.isBlank && c ≠ Text.lineFeed

/-- The equals sign. -/
def equalsSign : CodePoint := 0x3D

/-- The sign that starts a comment. -/
def hash : CodePoint := 0x23

/-- The backslash. -/
def backslash : CodePoint := 0x5C

/-- A reader gives what it read and what follows, or what is left at the place where it stopped. -/
abbrev Reading (α : Type) : Type := Except Text (α × Text)

/-! ### Quoted values -/

/-- The body of a quoted value behind its opening quote, and what follows the closing one. A
backslash takes the code point behind it along, whatever that is, so an escaped quote closes
nothing. There is no going back: a value whose last quote is escaped is not closed, and its line is
none. -/
def quotedBody? (quote : CodePoint) : Text → Option (Text × Text)
  | [] => none
  | [c] => if c = quote then some ([], []) else none
  | c :: d :: rest =>
    if c = quote then some ([], d :: rest)
    else if c = backslash then
      (quotedBody? quote rest).map fun (body, after) => (c :: d :: body, after)
    else (quotedBody? quote (d :: rest)).map fun (body, after) => (c :: body, after)

/-- What the escapes between single quotes stand for. -/
def singleEscapes : List (CodePoint × CodePoint) := [(0x5C, 0x5C), (0x27, 0x27)]

/-- What the escapes between double quotes stand for. -/
def doubleEscapes : List (CodePoint × CodePoint) := [
  (0x5C, 0x5C), (0x27, 0x27), (0x22, 0x22), (0x61, 0x07), (0x62, 0x08), (0x66, 0x0C), (0x6E, 0x0A),
  (0x72, 0x0D), (0x74, 0x09), (0x76, 0x0B)]

/-- The text with its escapes replaced. -/
def unescape (escapes : List (CodePoint × CodePoint)) : Text → Text
  | [] => []
  | [c] => [c]
  | c :: d :: rest =>
    match if c = backslash then escapes.lookup d else none with
    | some image => image :: unescape escapes rest
    | none => c :: unescape escapes (d :: rest)

/-! ### Assignments -/

/-- The text up to a comment, which starts with a sign behind blanks. -/
def beforeComment : Text → Text
  | [] => []
  | c :: rest =>
    if c.isBlank && (rest.dropWhile CodePoint.isBlank).head? = some hash then []
    else c :: beforeComment rest

/-- An unquoted value, which takes the rest of the line. -/
def plainValue (line : Text) : Text := (beforeComment line).trim CodePoint.isBlank

/-- Reads the value behind an equals sign. -/
def readValue (t : Text) : Reading Text :=
  let start := t.dropWhile isGap
  let quoted (escapes : List (CodePoint × CodePoint)) (quote : CodePoint) (rest : Text) :=
    match quotedBody? quote rest with
    | some (body, after) => Except.ok (unescape escapes body, after)
    | none => .error start
  match start with
  | [] => .ok ([], [])
  | c :: rest =>
    if c.val = 0x27 then quoted singleEscapes c rest
    else if c.val = 0x22 then quoted doubleEscapes c rest
    -- the blanks in front count, so that a comment may take the place of the value
    else .ok (plainValue (t.takeWhile (· ≠ Text.lineFeed)), t.dropWhile (· ≠ Text.lineFeed))

/-- Reads a name; a comment has none. -/
def readName (t : Text) : Reading (Option Text) :=
  match t with
  | [] => .error t
  | c :: rest =>
    if c = hash then .ok (none, t)
    -- between single quotes a name may hold everything but a single quote
    else if c.val = 0x27 then
      match rest.span (·.val ≠ 0x27) with
      | ([], _) => .error t
      | (_, []) => .error t
      | (name, _ :: after) => .ok (some name, after)
    else
      match t.span fun c => !(c = equalsSign || c = hash || c.isBlank) with
      | ([], _) => .error t
      | (name, after) => .ok (some name, after)

/-- The text behind the word `export` and the blanks after it, if it starts with them. -/
def skipExport (t : Text) : Text :=
  let word : Text := "export"
  let after := t.drop word.length
  if word.isPrefixOf t && after.head?.any isGap then after.dropWhile isGap else t

/-- The text behind a comment, if it starts with one. -/
def skipComment (t : Text) : Text :=
  if (t.dropWhile isGap).head? = some hash then t.dropWhile (· ≠ Text.lineFeed) else t

/-- Reads the end of a line. -/
def readLineEnd (t : Text) : Reading Unit :=
  match t.dropWhile isGap with
  | [] => .ok ((), [])
  | c :: rest => if c = Text.lineFeed then .ok ((), rest) else .error t

/-- A name, unless the statement is a comment, with its value if it has one. -/
abbrev Statement : Type := Option Text × Option Text

/-- Reads a statement. -/
def readStatement (t : Text) : Except Text (Statement × Text) := do
  let (name, t) ← readName (skipExport t)
  let (value, t) ← match t.dropWhile isGap with
    | c :: rest =>
      if c = equalsSign then
        let (value, t) ← readValue rest
        pure (some value, t)
      -- a name without an equals sign has no value
      else pure (none, c :: rest)
    | [] => pure (none, [])
  let (_, t) ← readLineEnd (skipComment t)
  return ((name, value), t)

/-- The rest of a text behind its first line end. -/
def nextLine (t : Text) : Text := (t.dropWhile (· ≠ Text.lineFeed)).drop 1

/-- The statements of a text, those that are no assignments left out. -/
def statements (t : Text) : List Statement :=
  match t.dropWhile CodePoint.isBlank with
  | [] => []
  | start =>
    let (found, rest) : List Statement × Text := match readStatement start with
      | .ok (statement, rest) => ([statement], rest)
      -- a reader may have stopped some lines further down, in a quoted value
      | .error stopped => ([], nextLine stopped)
    if _ : rest.length < t.length then found ++ statements rest else found
termination_by t.length

/-- The text behind a byte order mark. It is the reader of assignments that leaves the mark out,
since the bytes of the file are decoded as plain UTF-8. -/
def skipMark : Text → Text
  | [] => []
  | c :: rest => if c = Text.byteOrderMark then rest else c :: rest

/-- The assignments of a text in their order, their values as they are written there. -/
def assignments (t : Text) : List (Text × Option Text) :=
  (statements (skipMark t)).filterMap fun (name, value) => name.map (·, value)

/-! ### Variables in values -/

/-- A reference to a variable behind its opening brace: the name, the text that stands in for a
missing variable, and what follows. -/
def reference? (t : Text) : Option ((Text × Text) × Text) :=
  let (name, rest) := t.span fun c => !(c.val = 0x7D || c.val = 0x3A)
  match rest with
  | [] => none
  | c :: after =>
    if c.val = 0x7D then some ((name, []), after)
    else
      match after with
      | d :: tail =>
        if d.val = 0x2D then
          match tail.span (·.val ≠ 0x7D) with
          | (_, []) => none
          | (fallback, _ :: after) => some ((name, fallback), after)
        else none
      | [] => none

/-- The text with its references replaced, in so many steps at most. -/
def expandFrom (lookup : Text → Option Text) : Nat → Text → Text
  | 0, t => t
  | _ + 1, [] => []
  | count + 1, c :: rest =>
    let reference := match rest with
      | d :: tail => if c.val = 0x24 && d.val = 0x7B then reference? tail else none
      | [] => none
    match reference with
    | some ((name, fallback), after) =>
      (lookup name).getD fallback ++ expandFrom lookup count after
    | none => c :: expandFrom lookup count rest

/-- The text with its references replaced. -/
def expand (lookup : Text → Option Text) (t : Text) : Text := expandFrom lookup t.length t

/-- The value of a variable that was set earlier in the file, or in the environment. One that was
set without a value is empty. -/
def lookup (environment : Table Text Text) (set : Table Text (Option Text)) (name : Text) :
    Option Text :=
  match set.find? name with
  | some value => some (value.getD [])
  | none => environment.find? name

/-- The variables that a file sets, their references replaced. -/
def bindings (environment : Table Text Text) (t : Text) : Table Text (Option Text) :=
  (assignments (Text.unifyLineEnds t)).foldl
    (fun set (name, value) => set.insert name (value.map (expand (lookup environment set))))
    Table.empty

end EmojiText.EnvFile
