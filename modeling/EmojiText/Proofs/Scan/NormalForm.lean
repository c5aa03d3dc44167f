import EmojiText.Proofs.Scan.Match
import Mathlib.Data.List.Chain

/-!
# Lossless scans in normal form

A scan cuts a text into segments without losing or doubling a code point. Its segments are in normal
form: none of them is empty, and no run of plain text stands beside another one. The main statements
are `flat_map_text_scan` and `normal_form_scan`.
-/

namespace EmojiText

namespace Segment

/-- Whether a segment is a run of plain text. -/
def isPlain : Segment → Bool
  | plain _ => true
  | emoji .. => false

/-- No segment is empty, and of two neighbours one is an emoji. -/
structure NormalForm (segments : List Segment) : Prop where
  text_ne_nil : ∀ segment ∈ segments, segment.text ≠ []
  separated : segments.IsChain fun first second => ¬ (first.isPlain ∧ second.isPlain)

/-- A run in front of segments stands in front of their texts. -/
theorem flat_map_text_cons_plain (run : Text) (segments : List Segment) :
    (consPlain run segments).flatMap text = run.reverse ++ segments.flatMap text := by
  unfold consPlain
  split
  · rename_i hrun
    simp [List.isEmpty_iff.1 hrun]
  · simp [text]

/-- An emoji may stand in front of any segments. -/
theorem NormalForm.cons_emoji {record : Record} {handle : Option Handle} {segments : List Segment}
    (h : NormalForm segments) (htext : record.text ≠ []) :
    NormalForm (emoji record handle :: segments) where
  text_ne_nil := by
    intro segment hmem
    rcases List.mem_cons.1 hmem with rfl | hmem
    · exact htext
    · exact h.text_ne_nil segment hmem
  separated := by
    refine h.separated.cons ?_
    rintro _ _ ⟨hplain, _⟩
    cases hplain

/-- A run may stand in front of an emoji, and an empty one adds no segment. -/
theorem NormalForm.cons_plain {record : Record} {handle : Option Handle}
    {segments : List Segment} (run : Text) (h : NormalForm (emoji record handle :: segments)) :
    NormalForm (consPlain run (emoji record handle :: segments)) := by
  unfold consPlain
  split
  · exact h
  · rename_i hrun
    refine ⟨?_, ?_⟩
    · intro segment hmem
      rcases List.mem_cons.1 hmem with rfl | hmem
      · simpa [text] using hrun
      · exact h.text_ne_nil segment hmem
    · refine h.separated.cons ?_
      intro second hsecond
      obtain rfl : emoji record handle = second := by simpa using hsecond
      simp [isPlain]

/-- A run alone is in normal form. -/
theorem NormalForm.of_run (run : Text) : NormalForm (consPlain run []) := by
  unfold consPlain
  split
  · exact ⟨by simp, .nil⟩
  · rename_i hrun
    exact ⟨by simpa [text] using hrun, .singleton _⟩

end Segment

namespace Index

variable {index : Index} (handleOf : index.Id → Option Handle)

/-- The segments behind a run cover the run and the text. -/
theorem flat_map_text_scan_from (run text : Text) :
    (index.scanFrom handleOf run text).flatMap Segment.text = run.reverse ++ text := by
  fun_induction scanFrom with
  | case1 run => simp [Segment.flat_map_text_cons_plain]
  | case2 run unit rest hnone ih => simpa using ih
  | case3 run unit rest id hsome ih =>
      rw [Segment.flat_map_text_cons_plain, List.flatMap_cons, ih]
      exact congrArg (run.reverse ++ ·) (text_append_drop hsome)

/-- The segments behind a run are in normal form. -/
theorem normal_form_scan_from (run text : Text) :
    Segment.NormalForm (index.scanFrom handleOf run text) := by
  fun_induction scanFrom with
  | case1 run => exact .of_run run
  | case2 run unit rest hnone ih => exact ih
  | case3 run unit rest id hsome ih =>
      exact (ih.cons_emoji (index.text_id_ne_nil id)).cons_plain run

/-- The texts of the segments, one after the other, are the text. -/
theorem flat_map_text_scan (text : Text) :
    (index.scan handleOf text).flatMap Segment.text = text :=
  flat_map_text_scan_from handleOf [] text

/-- The segments of a text are in normal form. -/
theorem normal_form_scan (text : Text) : Segment.NormalForm (index.scan handleOf text) :=
  normal_form_scan_from handleOf [] text

end Index

end EmojiText
