import EmojiText.Proofs.Dataset.Findable
import EmojiText.Proofs.Index.Records
import EmojiText.Proofs.Scan.Match
import EmojiText.Proofs.Scan.NormalForm
import EmojiText.Proofs.Text.Parts
import Mathlib.Data.List.Permutation

/-!
# Scanning on both sides of a separator

A code point that no record has in its text separates a text: no emoji reaches over it, and none
starts at it. What matches in front of it does not depend on what stands behind, which is
`Separates.emoji_at_start_append`, and the scan of the whole text is that of the part in front as
far as it goes, with the separator in the run of plain text between the parts. The main statement is
`scan_splits_at_separator`.
-/

namespace EmojiText

namespace Segment

/-- The emoji among segments, with their records and handles. -/
def emojiOf (segments : List Segment) : List Segment := segments.filter (!·.isPlain)

@[simp] theorem emoji_of_append (segments others : List Segment) :
    emojiOf (segments ++ others) = emojiOf segments ++ emojiOf others := List.filter_append ..

/-- A run of plain text has no emoji. -/
@[simp] theorem emoji_of_cons_plain (run : Text) (segments : List Segment) :
    emojiOf (consPlain run segments) = emojiOf segments := by
  unfold consPlain
  split
  · rfl
  · rfl

/-- A run stands in front of the first of two parts. -/
theorem cons_plain_append (run : Text) (segments others : List Segment) :
    consPlain run segments ++ others = consPlain run (segments ++ others) := by
  unfold consPlain
  split
  · rfl
  · rfl

/-- The records of segments are those of the emoji among them. -/
theorem filter_map_record_emoji_of (segments : List Segment) :
    (emojiOf segments).filterMap record? = segments.filterMap record? := by
  induction segments with
  | nil => rfl
  | cons segment segments ih =>
      cases segment with
      | plain text => exact ih
      | emoji record handle =>
          show record :: (emojiOf segments).filterMap record? = _
          rw [ih]
          rfl

end Segment

namespace Index

variable {index : Index} {handleOf : index.Id → Option Handle} {c : CodePoint}

/-- The code point stands in no text of a record. -/
def Separates (index : Index) (c : CodePoint) : Prop := ∀ record ∈ index.records, c ∉ record.text

/-- No record has the separator in its text. -/
theorem Separates.not_mem_text (h : index.Separates c) (id : index.Id) : c ∉ index.text id :=
  h (index.record id) (Array.getElem_mem _)

/-- What matches at the start of a text matches there in front of a separator, too. -/
theorem Separates.match_start_append (h : index.Separates c) (unit : CodePoint)
    (rest behind : Text) :
    index.matchStart (unit :: rest ++ c :: behind) = index.matchStart (unit :: rest) := by
  show (index.candidates unit).find? _ = (index.candidates unit).find? _
  congr 1
  funext id
  rw [Bool.eq_iff_iff, List.isPrefixOf_iff_prefix, List.isPrefixOf_iff_prefix]
  exact Text.prefix_append_separator (h.not_mem_text id) (unit :: rest) behind

/-- Nothing matches at a separator. -/
theorem Separates.match_start_eq_none (h : index.Separates c) (behind : Text) :
    index.matchStart (c :: behind) = none := by
  show (index.candidates c).find? _ = none
  rw [List.find?_eq_none]
  intro id _ hstarts
  rw [List.isPrefixOf_iff_prefix] at hstarts
  have hnil := (Text.prefix_append_separator (h.not_mem_text id) [] behind).1 hstarts
  exact index.text_id_ne_nil id (List.prefix_nil.1 hnil)

/-- The emoji at the start of a text does not depend on what stands behind a separator. -/
theorem Separates.emoji_at_start_append (h : index.Separates c) (front behind : Text) :
    index.emojiAtStart? (front ++ c :: behind) = index.emojiAtStart? front := by
  cases front with
  | nil =>
      show index.emojiAtStart? (c :: behind) = none
      unfold emojiAtStart?
      split
      · rfl
      · exact h.match_start_eq_none behind
  | cons unit rest =>
      unfold emojiAtStart?
      rw [h.match_start_append]
      rfl

/-- Up to a separator the scan goes as it would without it: it gives the same segments, and the
separator joins the run of plain text in which it ends. -/
theorem Separates.scan_from_append (h : index.Separates c) (handleOf : index.Id → Option Handle)
    (run front behind : Text) :
    ∃ segments last,
      index.scanFrom handleOf run front = segments ++ Segment.consPlain last [] ∧
      index.scanFrom handleOf run (front ++ c :: behind)
        = segments ++ index.scanFrom handleOf (c :: last) behind := by
  have hstart := fun front : Text => h.emoji_at_start_append front behind
  fun_induction scanFrom index handleOf run front with
  | case1 run => exact ⟨[], run, rfl, scan_from_of_none (hstart [])⟩
  | case2 run unit rest hnone ih =>
      obtain ⟨segments, last, hfront, hwhole⟩ := ih
      have hwholeNone : index.emojiAtStart? (unit :: (rest ++ c :: behind)) = none :=
        (hstart (unit :: rest)).trans hnone
      refine ⟨segments, last, hfront, ?_⟩
      rw [List.cons_append, scan_from_of_none hwholeNone]
      exact hwhole
  | case3 run unit rest id hsome ih =>
      obtain ⟨segments, last, hfront, hwhole⟩ := ih
      refine ⟨Segment.consPlain run (.emoji (index.record id) (handleOf id) :: segments), last,
        ?_, ?_⟩
      · rw [hfront, Segment.cons_plain_append, List.cons_append]
      · -- the emoji ends in front of the separator
        have hle := (prefix_of_match_start (emoji_at_start_eq_some.1 hsome).2).length_le
        have hdrop : (unit :: (rest ++ c :: behind)).drop (index.text id).length
            = (unit :: rest).drop (index.text id).length ++ c :: behind := by
          rw [← List.cons_append, List.drop_append_of_le_length hle]
        have hwholeSome : index.emojiAtStart? (unit :: (rest ++ c :: behind)) = some id :=
          (hstart (unit :: rest)).trans hsome
        rw [List.cons_append, scan_from_of_some hwholeSome, hdrop, hwhole,
          Segment.cons_plain_append, List.cons_append]

/-- Which emoji follow a run of plain text does not depend on the run. -/
theorem emoji_of_scan_from (run other text : Text) :
    Segment.emojiOf (index.scanFrom handleOf run text)
      = Segment.emojiOf (index.scanFrom handleOf other text) := by
  fun_induction scanFrom index handleOf run text generalizing other with
  | case1 run => simp [scanFrom]
  | case2 run unit rest hnone ih =>
      rw [scan_from_of_none hnone]
      exact ih (unit :: other)
  | case3 run unit rest id hsome ih =>
      rw [scan_from_of_some hsome, Segment.emoji_of_cons_plain, Segment.emoji_of_cons_plain]

/-- The emoji of a whole text are those in front of a separator, followed by those behind it. -/
theorem Separates.emoji_of_scan (h : index.Separates c) (handleOf : index.Id → Option Handle)
    (front behind : Text) :
    Segment.emojiOf (index.scan handleOf (front ++ c :: behind))
      = Segment.emojiOf (index.scan handleOf front)
        ++ Segment.emojiOf (index.scan handleOf behind) := by
  obtain ⟨segments, last, hfront, hwhole⟩ :=
    h.scan_from_append handleOf [] front behind
  calc
    Segment.emojiOf (index.scan handleOf (front ++ c :: behind))
      = Segment.emojiOf segments
          ++ Segment.emojiOf (index.scanFrom handleOf (c :: last) behind) := by
        rw [scan, hwhole, Segment.emoji_of_append]
    _ = Segment.emojiOf segments ++ Segment.emojiOf (index.scan handleOf behind) := by
        rw [scan, emoji_of_scan_from (c :: last) [] behind]
    _ = Segment.emojiOf (index.scan handleOf front)
          ++ Segment.emojiOf (index.scan handleOf behind) := by
        rw [scan, scan, hfront, Segment.emoji_of_append, Segment.emoji_of_cons_plain]
        simp [Segment.emojiOf]

/-- No record of a dataset that loads has a surrogate in its text. -/
theorem separates_of_loads {records : List Record} (h : Dataset.Loads records)
    (hc : c.isSurrogate = true) : (ofRecords records).Separates c := by
  intro record hmem hcontains
  have hscalar := (h.findable record (mem_of_mem_records hmem)).scalar c hcontains
  rw [hc] at hscalar
  cases hscalar

/-- Scanning works on both sides of the code point alone: the records that are found in the whole
text are those found in front of it and then those found behind, and so are the emoji with their
handles. -/
def SplitsAt (index : Index) (c : CodePoint) : Prop :=
  ∀ (handleOf : index.Id → Option Handle) (front behind : Text),
    index.findEmoji (front ++ c :: behind) = index.findEmoji front ++ index.findEmoji behind ∧
    Segment.emojiOf (index.scan handleOf (front ++ c :: behind))
      = Segment.emojiOf (index.scan handleOf front)
        ++ Segment.emojiOf (index.scan handleOf behind)

/-- Over every index, scanning works alone on both sides of a code point that stands in no text of
a record. Over the index of a dataset that loads, every surrogate is such a code point. -/
theorem scan_splits_at_separator :
    (∀ (index : Index) (c : CodePoint), (∀ record ∈ index.records, c ∉ record.text) →
      index.SplitsAt c) ∧
    ∀ records, Dataset.Loads records → ∀ c : CodePoint, c.isSurrogate = true →
      (build records).value.SplitsAt c := by
  have hsplits : ∀ (index : Index) (c : CodePoint), index.Separates c → index.SplitsAt c := by
    intro index c h handleOf front behind
    refine ⟨?_, h.emoji_of_scan handleOf front behind⟩
    have hemoji := h.emoji_of_scan (fun _ => none) front behind
    have hrecords := congrArg (List.filterMap Segment.record?) hemoji
    simp only [List.filterMap_append, Segment.filter_map_record_emoji_of] at hrecords
    exact hrecords
  exact ⟨hsplits, fun records h c hc => hsplits _ c (separates_of_loads h hc)⟩

/-- Without the hyphen a longer record would be found, and behind the trailing surrogate the scan
starts anew. -/
theorem scan_splits_at_separator_inside_longer :
    let entry (name code : Text) : Json := .object [
      ("short_names", .array [.string name]), ("unified", .string code)]
    let items : List Json := [entry "a" "61", entry "b" "61-62"]
    let short : Record := ⟨["a"], "61", [0x61], none, ∅⟩
    let long : Record := ⟨["b"], "61-62", [0x61, 0x62], none, ∅⟩
    let index := (build [short, long]).value
    ((∀ record ∈ index.records, 0x2D ∉ record.text) ∧
      index.findEmoji [0x61, 0x2D, 0x62] = [short]) ∧
    (Dataset.load .standard "a" (.value (.array items))).outcome = .ok [short, long] ∧
    CodePoint.isSurrogate 0xDC00 = true ∧
    index.findEmoji [0x61, 0xDC00, 0x61, 0x62] = [short, long] := by
  intro entry items short long index
  obtain ⟨hindex, hloads⟩ := scan_splits_at_separator
  have hfree : ∀ record ∈ index.records, 0x2D ∉ record.text := by decide +kernel
  have hentries : (Dataset.ofEntries .standard "a" (items.map .value)).value = [short, long] := by
    decide +kernel
  have hloaded : (Dataset.load .standard "a" (.value (.array items))).outcome
      = .ok [short, long] := congrArg Except.ok hentries
  have hshort : index.findEmoji [0x61] = [short] := by cbv
  have hlong : index.findEmoji [0x61, 0x62] = [long] := by cbv
  have hnone : index.findEmoji [0x62] = [] := by cbv
  have hhyphen := (hindex index 0x2D hfree (fun _ => none) [0x61] [0x62]).1
  have hsurrogate := (hloads [short, long] (.data hloaded) 0xDC00 (by decide) (fun _ => none)
    [0x61] [0x61, 0x62]).1
  rw [hshort, hnone] at hhyphen
  rw [hshort, hlong] at hsurrogate
  exact ⟨⟨hfree, hhyphen⟩, hloaded, by decide, hsurrogate⟩

end Index

end EmojiText
