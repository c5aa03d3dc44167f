import EmojiText.Moment.Format
import EmojiText.Text.IntegerLayout
import EmojiText.Value.Fault

/-!
Values as a format says. Moments and openings of files take formats of moments, numbers and texts
take layouts, and all other values take none.
-/

namespace EmojiText.Value

/-- The format of the opening of a file without one. -/
def openingFormat : Text := "%Y-%m-%d_%H-%M-%S_%f"

/-- A moment in a format that tokens may be in. -/
def writtenMoment (m : Moment) (format : Text) : Except Fault Text :=
  match m.formatted? format with
  | some t => .ok t
  | none => .error .tooPrecise

/-- A text in a layout. -/
def writtenText (t layout : Text) : Except Fault Text :=
  match Layout.ofText layout with
  | .ok layout => .ok (layout.apply t)
  | .error fault => .error (.layout fault)

/-- A value as a format says. -/
def written (value : Value) (format : Text) : Except Fault Text :=
  match value with
  | opening m => writtenMoment m (if format.isEmpty then openingFormat else format)
  | moment m =>
    if m.zoned then writtenMoment m format
    else .ok (if format.isEmpty then m.plain else m.directed format)
  | day m => .ok (if format.isEmpty then m.plainDay else m.directed format)
  | integer n => (IntegerLayout.integerIn format n).mapError .layout
  | text t => writtenText t format
  | value => if format.isEmpty then .ok value.plain else .error (.noLayouts value.kindOf)

end EmojiText.Value
