/-!
Texts as sequences of code points.

A text may hold surrogate code points on their own, which no `String` can, so texts are lists of
code points and a position counts code points. The operations are those of lists; this module adds
splitting at a separator, trimming at both ends, and the order by code point.
-/

namespace EmojiText

/-- A number of the Unicode code space, surrogates included. -/
abbrev CodePoint : Type := Fin 0x110000

/-- A sequence of code points. -/
abbrev Text : Type := List CodePoint

namespace CodePoint

-- numerals and decidable membership rest on these, whatever else a module imports

/-- The code space is not empty, so numerals denote code points. -/
instance : @NeZero Nat Zero.ofOfNat0 0x110000 := ⟨by decide⟩

/-- Code points are equal if a comparison says so. -/
instance : LawfulBEq CodePoint := inferInstance

/-- Texts are equal if a comparison says so. -/
instance : LawfulBEq Text := inferInstance

/-- The code point of a character. -/
def ofChar (c : Char) : CodePoint :=
  ⟨c.toNat, by
    have h := c.valid
    simp only [UInt32.isValidChar, Nat.isValidChar] at h
    show c.val.toNat < 0x110000
    omega⟩

/-- The code point with the given number, if there is one. -/
def ofNat? (n : Nat) : Option CodePoint :=
  if h : n < 0x110000 then some ⟨n, h⟩ else none

/-- The second unit of a surrogate pair: it continues a character and starts none. -/
def isTrailing (c : CodePoint) : Bool := 0xDC00 ≤ c.val && c.val ≤ 0xDFFF

/-- The first unit of a surrogate pair. -/
def isLeading (c : CodePoint) : Bool := 0xD800 ≤ c.val && c.val ≤ 0xDBFF

/-- A unit of a surrogate pair, which denotes no character on its own. -/
def isSurrogate (c : CodePoint) : Bool := 0xD800 ≤ c.val && c.val ≤ 0xDFFF

/-- A Unicode scalar value. -/
def isScalar (c : CodePoint) : Bool := !c.isSurrogate

/-- Membership in a list of closed intervals. -/
def inRanges (ranges : List (Nat × Nat)) (c : CodePoint) : Bool :=
  ranges.any fun range => range.1 ≤ c.val && c.val ≤ range.2

theorem isSurrogate_eq (c : CodePoint) : c.isSurrogate = (c.isLeading || c.isTrailing) := by
  rw [Bool.eq_iff_iff]
  simp only [isSurrogate, isLeading, isTrailing, Bool.and_eq_true, Bool.or_eq_true,
    decide_eq_true_eq]
  omega

end CodePoint

namespace Text

/-- The code points of a string, none of which is a surrogate. -/
def ofString (s : String) : Text := s.toList.map CodePoint.ofChar

instance : Coe String Text := ⟨ofString⟩

/-- Numbers that are code points become the text of those code points; others are skipped. -/
def ofNats (ns : List Nat) : Text := ns.filterMap CodePoint.ofNat?

/-- The string with the same code points, unless the text holds a surrogate. -/
def toString? (t : Text) : Option String :=
  if t.any CodePoint.isSurrogate then none
  else some (String.ofList (t.map fun c => Char.ofNat c.val))

/-- The pieces between the occurrences of a separator; a text without it is one piece. -/
def split (separator : CodePoint) : Text → List Text
  | [] => [[]]
  | c :: rest =>
    if c = separator then [] :: split separator rest
    else match split separator rest with
      | [] => [[c]]
      | piece :: pieces => (c :: piece) :: pieces

/-- The pieces with the separator between neighbours. -/
def join (separator : Text) : List Text → Text
  | [] => []
  | [piece] => piece
  | piece :: pieces => piece ++ separator ++ join separator pieces

/-- The text without the longest tail of code points that satisfy `p`. -/
def trimEnd (p : CodePoint → Bool) (t : Text) : Text := (t.reverse.dropWhile p).reverse

/-- The text without the code points that satisfy `p` at both ends. -/
def trim (p : CodePoint → Bool) (t : Text) : Text := trimEnd p (t.dropWhile p)

/-- Texts are ordered by their first differing code point, a prefix before its extensions. -/
def le : Text → Text → Bool
  | [], _ => true
  | _ :: _, [] => false
  | c :: s, d :: t => if c = d then le s t else c.val < d.val

/-- A list of texts in ascending order. -/
def sorted (ts : List Text) : List Text := ts.mergeSort le

/-- The ASCII letters of a text in lower case, all else as it is. -/
def asciiLowercase (t : Text) : Text :=
  t.map fun c => if 0x41 ≤ c.val && c.val ≤ 0x5A then c + 0x20 else c

/-- The line feed, which ends a line. -/
def lineFeed : CodePoint := 0x0A

/-- The carriage return. -/
def carriageReturn : CodePoint := 0x0D

/-- The byte order mark, which may stand in front of a text. -/
def byteOrderMark : CodePoint := 0xFEFF

/-- The text with a line feed for every carriage return, and one for the two of them together. -/
def unifyLineEnds : Text → Text
  | [] => []
  | [c] => [if c = carriageReturn then lineFeed else c]
  | c :: d :: rest =>
    if c = carriageReturn then
      -- the two of them together end one line
      if d = lineFeed then lineFeed :: unifyLineEnds rest else lineFeed :: unifyLineEnds (d :: rest)
    else c :: unifyLineEnds (d :: rest)

/-- Whether the text ends with the given suffix. -/
def endsWith (t suffix : Text) : Bool := suffix.isSuffixOf t

/-- Whether the code points of another text stand somewhere in the text one after the other. -/
def holds : Text → Text → Bool
  | [], part => part.isEmpty
  | c :: rest, part => part.isPrefixOf (c :: rest) || holds rest part

/-- The part of a text, or of any list, before a limit. A negative limit counts from the end, and
no limit takes everything. -/
def upTo {α : Type} (limit : Option Int) (xs : List α) : List α :=
  match limit with
  | none => xs
  | some n => if 0 ≤ n then xs.take n.toNat else xs.take (xs.length - (-n).toNat)

theorem split_ne_nil (separator : CodePoint) (t : Text) : split separator t ≠ [] := by
  cases t with
  | nil => simp [split]
  | cons c rest =>
    rw [split]
    split
    · simp
    · split <;> simp

/-- Splitting loses only the separators. -/
theorem join_split (separator : CodePoint) (t : Text) :
    join [separator] (split separator t) = t := by
  induction t with
  | nil => rfl
  | cons c rest ih =>
    rw [split]
    split
    · rename_i h
      cases hs : split separator rest with
      | nil => exact absurd hs (split_ne_nil separator rest)
      | cons piece pieces =>
        rw [hs] at ih
        simp only [join, List.nil_append, List.singleton_append, ih, h]
    · split
      · rename_i hs
        exact absurd hs (split_ne_nil separator rest)
      · rename_i piece pieces hs
        rw [hs] at ih
        cases pieces <;> simp_all [join]

end Text

end EmojiText
