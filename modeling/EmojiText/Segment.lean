import EmojiText.Handle

/-!
Segments of texts: runs of plain text, and emoji.

A text is scanned from left to right. At each place, the longest text of a record that starts there
becomes an emoji, and of several records with that text the first one is taken; no emoji starts at a
trailing surrogate. What lies between two emoji is one run of plain text.
-/

namespace EmojiText

/-- A part of a text. -/
inductive Segment where
  | plain (text : Text)
  | emoji (record : Record) (handle : Option Handle)
deriving DecidableEq, Repr

namespace Segment

/-- The text that a segment covers. -/
def text : Segment → Text
  | plain text => text
  | emoji record _ => record.text

/-- The record of an emoji. -/
def record? : Segment → Option Record
  | plain _ => none
  | emoji record _ => some record

/-- A run of plain text, collected in reverse, in front of other segments. -/
def consPlain (run : Text) (segments : List Segment) : List Segment :=
  if run.isEmpty then segments else plain run.reverse :: segments

end Segment

namespace Index

variable (index : Index)

/-- The first candidate for the start of a text whose own text starts there. -/
def matchStart : Text → Option index.Id
  | [] => none
  | unit :: rest =>
    (index.candidates unit).find? fun id => (index.text id).isPrefixOf (unit :: rest)

/-- The first candidate for the start of a text, those with more code points than remain passed
over. -/
def matchStartWithin (remaining : Int) : Text → Option index.Id
  | [] => none
  | unit :: rest =>
    (index.candidates unit).find? fun id =>
      (index.text id).length ≤ remaining && (index.text id).isPrefixOf (unit :: rest)

/-- The record whose text starts at a position of a text. A negative position counts from the end,
and then the length that remains is not bounded by the text. -/
def matchAt (text : Text) (position : Int) : Except Failure (Option index.Id) :=
  let fromStart := if position < 0 then position + text.length else position
  if fromStart < 0 || (text.length : Int) ≤ fromStart then .error .noPosition
  else .ok (index.matchStartWithin (text.length - position) (text.drop fromStart.toNat))

/-- The emoji at the start of a text. -/
def emojiAtStart? (text : Text) : Option index.Id :=
  if text.head?.any CodePoint.isTrailing then none else index.matchStart text

/-- The segments of a text behind a run of plain text, which is given in reverse. -/
def scanFrom (handleOf : index.Id → Option Handle) (run : Text) (text : Text) : List Segment :=
  match text with
  | [] => Segment.consPlain run []
  | unit :: rest =>
    match index.emojiAtStart? (unit :: rest) with
    | none => scanFrom handleOf (unit :: run) rest
    | some id =>
      -- what the emoji covers is not looked at again
      Segment.consPlain run
        (.emoji (index.record id) (handleOf id)
          :: scanFrom handleOf [] ((unit :: rest).drop (index.text id).length))
termination_by text.length
decreasing_by
  · simp
  · have h := List.length_pos_iff.2 (index.text_id_ne_nil id)
    simp only [List.length_drop, List.length_cons]
    omega

/-- The segments of a text. -/
def scan (handleOf : index.Id → Option Handle) (text : Text) : List Segment :=
  index.scanFrom handleOf [] text

/-- The records of the emoji in a text. -/
def findEmoji (text : Text) : List Record :=
  (index.scan (fun _ => none) text).filterMap Segment.record?

end Index

/-- Whether the only code point of a text is a trailing surrogate. -/
def Text.isTrailingUnit : Text → Except Failure Bool
  | [unit] => .ok unit.isTrailing
  | t => .error (.notSingle t.length)

end EmojiText
