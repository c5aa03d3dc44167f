import EmojiText.Text.Basic

/-!
Maps between letter cases. Most letters move by a fixed distance together with their neighbours, so
a map is a short list of ranges with a stride; a few letters expand to several code points.
-/

namespace EmojiText

/-- Code points from `first` to `last` in steps of `stride`, each moved by `shift`. -/
structure CaseRange where
  first : Nat
  last : Nat
  stride : Nat
  shift : Int
deriving Repr, DecidableEq

/-- Whether the range holds the number. -/
def CaseRange.holds (range : CaseRange) (n : Nat) : Bool :=
  range.first ≤ n && n ≤ range.last && (n - range.first) % range.stride == 0

/-- A map that sends each code point to a text. -/
structure CaseMap where
  ranges : List CaseRange
  expansions : List (Nat × List Nat)

/-- The image of one code point: its expansion, else its shifted form, else itself. -/
def CaseMap.apply (map : CaseMap) (c : CodePoint) : Text :=
  match map.expansions.lookup c.val with
  | some ns => Text.ofNats ns
  | none =>
    match map.ranges.find? (·.holds c.val) with
    | some range => Text.ofNats [(c.val + range.shift).toNat]
    | none => [c]

end EmojiText
