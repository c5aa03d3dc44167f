import EmojiText.Value.Fault

/-!
Parts and items of values. A part has a name, and the members of the kind of a value say which parts
there are; an item has a position in a row or in a text, or a key in a table.
-/

namespace EmojiText.Value

/-! ### Members seen from values and kinds -/

/-- The kinds on the way from a kind to its farthest ancestor, as values. -/
def lineage (k : Kind) : Value := row (k.lineage.map kind)

/-- The value of a text that may be missing. -/
def ofText? : Option Text → Value
  | some t => text t
  | none => nothing

/-- The member of a kind that is the same for all its values. -/
def constant (member : Member) : Value :=
  let named : List (Text × Value) :=
    match member.home with
    | .moment => [("min", moment .first), ("max", moment .last), ("resolution", span .step)]
    | .day => [("min", day .first), ("max", day .last), ("resolution", span ⟨1, 0, 0⟩)]
    | .span => [("min", span .least), ("max", span .greatest), ("resolution", span .step)]
    | .zone => [("utc", zone .unnamed), ("min", zone .earliest), ("max", zone .latest)]
    | _ => []
  let common : List (Text × Value) :=
    [("__doc__", ofText? member.home.note), ("__module__", text member.home.home)]
  ((named ++ common).lookup member.name).getD nothing

/-- A member as it is seen from a value. -/
def bind (value : Value) (member : Member) : Value :=
  match member.sort with
  | .constant => constant member
  | .free => bound (kind member.home) member
  | .kindMethod => bound (kind value.kindOf) member
  | _ => bound value member

/-- A member as it is seen from a kind. -/
def unbound (k : Kind) (member : Member) : Value :=
  match member.sort with
  | .constant => constant member
  | .free => bound (kind member.home) member
  | .kindMethod => bound (kind k) member
  | _ => .member member

/-- The members that a kind adds to those of its ancestors, as values. -/
def ownMembers (k : Kind) : List (Text × Value) :=
  k.ownMembers.map fun m => (m.name, if m.sort = .kindMethod then member m else unbound k m)

/-! ### What values tell of themselves -/

/-- What a kind tells of itself. -/
def kindParts (k : Kind) : List (Text × Value) :=
  let parents := (k.ancestors.take 1).map kind
  let noteName : Text := "__doc__"
  let note := match k.note, k.ownMembers.find? (·.name = noteName) with
    | none, some m => unbound k m
    | note, _ => ofText? note
  let parts : List (Text × Value) := [("__name__", text k.name), ("__qualname__", text k.name),
    ("__module__", text k.home), ("__doc__", note), ("__text_signature__", ofText? k.signature),
    ("__base__", parents.head?.getD nothing), ("__bases__", row parents), ("__mro__", lineage k),
    ("__dict__", view (ownMembers k)),
    ("__annotations__", table [])]
  -- only what a program defines has annotations
  if k.isDefined then parts else parts.dropLast

/-- What a function tells of itself. -/
def functionParts (member : Member) : List (Text × Value) :=
  let isInit : Bool := member.name = "__init__"
  [("__name__", text member.name), ("__qualname__", text (member.nameBehind member.home)),
    ("__module__", text member.home.home), ("__doc__", nothing), ("__closure__", nothing),
    ("__kwdefaults__", nothing), ("__defaults__", if isInit then row [nothing] else nothing),
    ("__annotations__", table []), ("__dict__", table []), ("__builtins__", table []),
    ("__globals__", table [("__name__", text member.home.home), ("__doc__", nothing),
      ("__package__", text (member.home.home.takeWhile (·.val ≠ 0x2E)))]),
    ("__code__", code member)]

/-- What a member tells of itself, given whose name stands in front of its own. -/
def memberParts (member : Member) (front : Kind) : List (Text × Value) :=
  [("__name__", text member.name), ("__qualname__", text (member.nameBehind front)),
    ("__doc__", ofText? member.note), ("__text_signature__", ofText? member.signature),
    ("__objclass__", kind member.home)]

/-- The kind behind whose name the name of a bound method stands. -/
def frontOf : Value → Kind
  | kind k => k
  | value => value.kindOf

/-- The numbers of the day of a moment. -/
def dayParts (m : Moment) : List (Text × Value) :=
  [("year", integer m.day.year), ("month", integer m.day.month), ("day", integer m.day.day)]

/-- What a moment tells of itself besides its day. -/
def clockParts (m : Moment) : List (Text × Value) :=
  [("hour", integer m.hour), ("minute", integer m.minute), ("second", integer m.second),
    ("microsecond", integer m.microsecond), ("fold", integer 0),
    ("tzinfo", if m.zoned then zone .named else nothing), ("__dict__", table []),
    ("__weakref__", nothing)]

/-- What a value tells of itself, besides its kind. -/
def ownParts : Value → List (Text × Value)
  | integer n => [("real", integer n), ("imag", integer 0), ("numerator", integer n),
      ("denominator", integer 1)]
  | opening m => [("__dict__", table [("datetime", moment m)]), ("__weakref__", nothing)]
  | moment m => dayParts m ++ clockParts m
  | day m => dayParts m
  | span s => [("days", integer s.days), ("seconds", integer s.seconds),
      ("microseconds", integer s.microseconds)]
  | kind k => kindParts k
  | member m => if m.sort = .function then functionParts m else memberParts m m.home
  | bound owner m =>
    match m.sort with
    | .function => [("__func__", member m), ("__self__", owner), ("__doc__", nothing)]
    | .operator => ("__self__", owner) :: memberParts m m.home
    | _ => ("__self__", owner) :: ("__module__", nothing) :: memberParts m (frontOf owner)
  | code function => [("co_name", text function.name),
      ("co_qualname", text (function.nameBehind function.home)), ("co_argcount", integer 2),
      ("co_posonlyargcount", integer 0), ("co_kwonlyargcount", integer 0)]
  | _ => []

/-- A member that tells of a value, as the value tells it. -/
def told? (value : Value) (member : Member) : Option Value :=
  if member.home = .anything then some (kind value.kindOf) else value.ownParts.lookup member.name

/-! ### Parts and items -/

/-- The part of a value that a member is, if the value has the member. -/
def memberPart? (value : Value) (name : Text) : Option Value :=
  (value.kindOf.member? name).bind fun member =>
    if member.isData then value.told? member else some (value.bind member)

/-- The part of a value with a name. -/
def part? (value : Value) (name : Text) : Option Value :=
  match value with
  | kind k =>
    -- what kinds tell of themselves comes before their members, and the rest after them
    if (Kind.kind.member? name).any (·.isData) then value.memberPart? name
    else ((k.member? name).map (unbound k)) <|> value.memberPart? name
  | opening m =>
    if name = "datetime" then some (moment m) else value.memberPart? name
  | bound _ m =>
    value.memberPart? name
      <|> if m.sort = .function then (member m).memberPart? name else none
  | value => value.memberPart? name

/-- The kind that a refusal names for a part that is missing: a bound function looks for its parts
in the function. -/
def partKind (value : Value) : Kind :=
  if value.kindOf = .boundFunction then .function else value.kindOf

/-- The part of a value with a name, which is refused if there is none. -/
def part (value : Value) (name : Text) : Except Fault Value :=
  match value.part? name, value with
  | some part, _ => .ok part
  | none, kind k => .error (.noPartOfKind k name)
  | none, _ => .error (.noPart value.partKind name)

/-- The refusal of an item of a value without items. -/
def noItems : Value → Fault
  | kind k => .noItemsOfKind k
  | value => .noItems value.kindOf

/-- The item of a value at a position. -/
def itemAt (value : Value) (position : Nat) : Except Fault Value :=
  match value with
  | text t =>
    match t[position]? with
    | some c => .ok (text [c])
    | none => .error (.outside .text)
  | row items =>
    match items[position]? with
    | some item => .ok item
    | none => .error (.outside .row)
  | table _ | view _ => .error (.noPosition position)
  | value => .error value.noItems

/-- The item of a value with a key. -/
def itemOf (value : Value) (key : Text) : Except Fault Value :=
  match value with
  | table entries | view entries =>
    match entries.lookup key with
    | some item => .ok item
    | none => .error (.noKey key)
  | text _ => .error .keyOfText
  | row _ => .error .keyOfRow
  | value => .error value.noItems

example : ((opening .last).part? "datetime").map plain = some Moment.last.plain := by
  decide +kernel

end EmojiText.Value
