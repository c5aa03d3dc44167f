import EmojiText.Text.Layout
import EmojiText.Value.Basic

/-!
Why a part, an item or a written form of a value is refused.
-/

namespace EmojiText.Value

/-- Why a part, an item or a written form of a value is refused. -/
inductive Fault where
  | noPart (k : Kind) (part : Text)
  | noPartOfKind (k : Kind) (part : Text)
  | noItems (k : Kind)
  | noItemsOfKind (k : Kind)
  | noKey (key : Text)
  | noPosition (position : Nat)
  /-- A position behind the end of a text or a row. -/
  | outside (k : Kind)
  | keyOfText
  | keyOfRow
  | noLayouts (k : Kind)
  | layout (fault : LayoutFault)
  /-- More digits behind the second than a moment has. -/
  | tooPrecise
deriving DecidableEq, Repr

/-- The name of a kind with positions in refusals. -/
def positionsName (k : Kind) : Text := if k = .text then "string" else k.name

/-- The wording of a refusal. -/
def Fault.message : Fault → Text
  | noPart k part => "'" ++ k.label ++ "' object has no attribute '" ++ part ++ "'"
  | noPartOfKind k part => "type object '" ++ k.label ++ "' has no attribute '" ++ part ++ "'"
  | noItems k => "'" ++ k.label ++ "' object is not subscriptable"
  | noItemsOfKind k => "type '" ++ k.label ++ "' is not subscriptable"
  | noKey key => Text.quoted key
  | noPosition position => Text.ofNat position
  | outside k => positionsName k ++ " index out of range"
  | keyOfText => "string indices must be integers, not 'str'"
  | keyOfRow => "tuple indices must be integers or slices, not str"
  | noLayouts k => "unsupported format string passed to " ++ k.label ++ ".__format__"
  | .layout fault => fault.message
  | tooPrecise =>
    "Invalid time format: the provided format string contains more than six successive "
      ++ "'S' characters. This may be due to an attempt to use nanosecond precision, which "
      ++ "is not supported."

end EmojiText.Value
