import EmojiText.Proofs.Index.LeadingUnit
import EmojiText.Proofs.Index.Records
import EmojiText.Proofs.Scan.Match
import Mathlib

/-!
# Scanning takes the longest match

A reference scan that knows no index: at every position it compares all records with the text, takes
the longest one that stands there, and of several records with that text the first one.
`reference_scan_iff` says that the scan over the index of the records finds exactly its emoji. The
step to it is `is_longest_of_match`, by which the first candidate that stands at the start of a text
is the longest of all records that do.
-/

namespace EmojiText

/-- A search through all records finds this one at the start of a text: its text stands there, no
record with a longer text does, and it is the first record with that text. -/
structure Record.IsLongest (records : List Record) (text : Text) (record : Record) : Prop where
  ne_nil : record.text ≠ []
  starts : record.text <+: text
  longest : ∀ other ∈ records, other.text <+: text → other.text.length ≤ record.text.length
  first : records.find? (fun other => other.text = record.text) = some record

/-- The emoji that a search through all records finds in a text from a position on, each with the
position at which it starts. -/
inductive ReferenceScan (records : List Record) : Nat → Text → List (Nat × Record) → Prop where
  | done {position} : ReferenceScan records position [] []
  | trailing {position unit rest found} :
      unit.isTrailing = true → ReferenceScan records (position + 1) rest found →
      ReferenceScan records position (unit :: rest) found
  | skip {position unit rest found} :
      unit.isTrailing = false →
      (∀ record ∈ records, record.text ≠ [] → ¬ record.text <+: unit :: rest) →
      ReferenceScan records (position + 1) rest found →
      ReferenceScan records position (unit :: rest) found
  | take {position unit rest record found} :
      unit.isTrailing = false → record.IsLongest records (unit :: rest) →
      ReferenceScan records (position + record.text.length)
        ((unit :: rest).drop record.text.length) found →
      ReferenceScan records position (unit :: rest) ((position, record) :: found)

/-- The emoji among segments, each with its position if the first segment starts at the given one.
-/
def Segment.emojiPlaces : Nat → List Segment → List (Nat × Record)
  | _, [] => []
  | position, plain text :: rest => emojiPlaces (position + text.length) rest
  | position, emoji record _ :: rest =>
    (position, record) :: emojiPlaces (position + record.text.length) rest

/-- A run in front of segments moves their emoji by its length. -/
theorem Segment.emoji_places_cons_plain (position : Nat) (run : Text) (segments : List Segment) :
    emojiPlaces position (consPlain run segments)
      = emojiPlaces (position + run.length) segments := by
  unfold consPlain
  split
  · rename_i hrun
    simp [List.isEmpty_iff.1 hrun]
  · simp [emojiPlaces]

/-- A search through all records finds one record at most. -/
theorem Record.IsLongest.unique {records : List Record} {text : Text} {record other : Record}
    (h : record.IsLongest records text) (hother : other.IsLongest records text) :
    record = other := by
  have hlength : record.text.length = other.text.length :=
    Nat.le_antisymm
      (hother.longest _ (List.mem_of_find?_eq_some h.first) h.starts)
      (h.longest _ (List.mem_of_find?_eq_some hother.first) hother.starts)
  have htext : record.text = other.text :=
    (List.prefix_of_prefix_length_le h.starts hother.starts hlength.le).eq_of_length hlength
  have hfirst := h.first
  rw [htext, hother.first] at hfirst
  exact (Option.some.inj hfirst).symm

/-- A reference scan of a text finds one list of emoji only. -/
theorem ReferenceScan.unique {records : List Record} {position : Nat} {text : Text}
    {found other : List (Nat × Record)} (h : ReferenceScan records position text found)
    (hother : ReferenceScan records position text other) : found = other := by
  induction h generalizing other with
  | done =>
      cases hother
      rfl
  | trailing htrailing _ ih =>
      cases hother with
      | trailing _ h => exact ih h
      | skip hunit _ _ => simp [htrailing] at hunit
      | take hunit _ _ => simp [htrailing] at hunit
  | skip hunit hnone _ ih =>
      cases hother with
      | trailing htrailing _ => simp [htrailing] at hunit
      | skip _ _ h => exact ih h
      | take _ hlongest _ =>
          exact absurd hlongest.starts
            (hnone _ (List.mem_of_find?_eq_some hlongest.first) hlongest.ne_nil)
  | take hunit hlongest _ ih =>
      cases hother with
      | trailing htrailing _ => simp [htrailing] at hunit
      | skip _ hnone _ =>
          exact absurd hlongest.starts
            (hnone _ (List.mem_of_find?_eq_some hlongest.first) hlongest.ne_nil)
      | take _ hotherLongest h =>
          obtain rfl := hlongest.unique hotherLongest
          rw [ih h]

namespace Index

variable {index : Index} {text : Text} {id : index.Id}

/-- A text that starts with the text of a record starts with its leading unit. -/
theorem leading_unit_of_starts {unit : CodePoint} {rest : Text}
    (h : index.text id <+: unit :: rest) : index.leadingUnit id = unit :=
  List.IsPrefix.head h (index.text_id_ne_nil id)

/-- In a built index, the records that stand at the start of a text are exactly the candidates that
do. -/
theorem Built.starts_iff (h : index.Built) {unit : CodePoint} {rest : Text} :
    index.text id <+: unit :: rest ↔
      id ∈ index.candidates unit ∧ (index.text id).isPrefixOf (unit :: rest) = true := by
  rw [h.mem_candidates, List.isPrefixOf_iff_prefix]
  exact ⟨fun hstarts => ⟨leading_unit_of_starts hstarts, hstarts⟩, fun hboth => hboth.2⟩

/-- Nothing matches exactly if no record stands at the start of the text. -/
theorem Built.match_start_eq_none_iff (h : index.Built) :
    index.matchStart text = none ↔ ∀ id : index.Id, ¬ index.text id <+: text := by
  cases text with
  | nil => simp [matchStart, index.text_id_ne_nil]
  | cons unit rest =>
      simp only [matchStart, List.find?_eq_none]
      constructor
      · intro hnone id hstarts
        obtain ⟨hmem, hfits⟩ := h.starts_iff.1 hstarts
        exact hnone id hmem hfits
      · intro hnone id hmem hfits
        exact hnone id (h.starts_iff.2 ⟨hmem, hfits⟩)

/-- The match precedes every other record that stands at the start of the text. -/
theorem Built.eq_or_precedes (h : index.Built) (hmatch : index.matchStart text = some id)
    {other : index.Id} (hother : index.text other <+: text) :
    other = id ∨ index.Precedes id other := by
  cases text with
  | nil => simp [matchStart] at hmatch
  | cons unit rest =>
      obtain ⟨_, before, behind, hsplit, hbefore⟩ := List.find?_eq_some_iff_append.1 hmatch
      obtain ⟨hmem, hfits⟩ := h.starts_iff.1 hother
      have hpairs := h.pairwise_candidates unit
      rw [hsplit] at hmem hpairs
      rcases List.mem_append.1 hmem with hmem | hmem
      · -- a candidate in front of the match would have been found before it
        simpa [hfits] using hbefore other hmem
      · rcases List.mem_cons.1 hmem with rfl | hmem
        · exact .inl rfl
        · exact .inr (List.rel_of_pairwise_cons (List.pairwise_append.1 hpairs).2.1 hmem)

/-- The match is the longest of all records that stand at the start of the text, and of those with
its text the first. -/
theorem Built.match_start_eq_some (h : index.Built) (hmatch : index.matchStart text = some id) :
    (∀ other, index.text other <+: text →
      (index.text other).length ≤ (index.text id).length) ∧
    ∀ other, index.text other = index.text id → id ≤ other := by
  have hstands := prefix_of_match_start hmatch
  refine ⟨?_, ?_⟩
  · intro other hother
    rcases h.eq_or_precedes hmatch hother with rfl | hlt | ⟨heq, _⟩
    · exact Nat.le_refl _
    · exact Nat.le_of_lt hlt
    · exact heq.ge
  · intro other htext
    rcases h.eq_or_precedes hmatch (htext ▸ hstands) with rfl | hlt | ⟨_, hlt⟩
    · exact Fin.le_refl _
    · rw [htext] at hlt
      exact absurd hlt (Nat.lt_irrefl _)
    · exact Fin.le_of_lt hlt

/-! ### The index of a list of records -/

variable {records : List Record}

/-- Over the index of records, a match is what a search through all of them finds. -/
theorem is_longest_of_match {id : (ofRecords records).Id}
    (h : (ofRecords records).matchStart text = some id) :
    ((ofRecords records).record id).IsLongest records text := by
  obtain ⟨hlongest, hfirst⟩ := (built_of_records records).match_start_eq_some h
  refine ⟨(ofRecords records).text_id_ne_nil id, prefix_of_match_start h, ?_, find_record hfirst⟩
  intro other hmem hstarts
  by_cases htext : other.text = []
  · simp [htext]
  · obtain ⟨id', rfl⟩ := exists_id hmem htext
    exact hlongest id' hstarts

/-- Over the index of records, nothing matches only if none of them stands there. -/
theorem not_starts_of_no_match (h : (ofRecords records).matchStart text = none) :
    ∀ record ∈ records, record.text ≠ [] → ¬ record.text <+: text := by
  intro record hmem htext
  obtain ⟨id, rfl⟩ := exists_id hmem htext
  exact (built_of_records records).match_start_eq_none_iff.1 h id

/-- The emoji behind a run are those of a reference scan that starts behind it. -/
theorem reference_scan_from (handleOf : (ofRecords records).Id → Option Handle) (run text : Text)
    (position : Nat) :
    ReferenceScan records (position + run.length) text
      (Segment.emojiPlaces position ((ofRecords records).scanFrom handleOf run text)) := by
  fun_induction scanFrom generalizing position with
  | case1 run =>
      rw [Segment.emoji_places_cons_plain]
      exact .done
  | case2 run unit rest hnone ih =>
      have hrest := ih position
      rw [List.length_cons, ← Nat.add_assoc] at hrest
      by_cases htrailing : unit.isTrailing = true
      · exact .trailing htrailing hrest
      · have hmatch : (ofRecords records).matchStart (unit :: rest) = none := by
          simpa [emojiAtStart?, htrailing] using hnone
        exact .skip (by simpa using htrailing) (not_starts_of_no_match hmatch) hrest
  | case3 run unit rest id hsome ih =>
      obtain ⟨htrailing, hmatch⟩ := emoji_at_start_eq_some.1 hsome
      rw [Segment.emoji_places_cons_plain]
      exact .take (by simpa using htrailing) (is_longest_of_match hmatch) (ih _)

end Index

/-- Over the index of any records, the scan finds exactly the emoji of the reference scan, and each
of them carries the handle of the first record with its text. Moreover a look-up at a position that
counts from the end finds what the same place counted from the start does. -/
theorem reference_scan_iff (records : List Record)
    (handleOf : (Index.build records).value.Id → Option Handle) (text : Text) :
    let index := (Index.build records).value
    (∀ found, ReferenceScan records 0 text found ↔
      found = Segment.emojiPlaces 0 (index.scan handleOf text)) ∧
    (∀ record handle, .emoji record handle ∈ index.scan handleOf text →
      ∃ id, index.record id = record ∧ handleOf id = handle ∧
        ∀ other, index.text other = record.text → id ≤ other) ∧
    ∀ position : Int, position < 0 → 0 ≤ position + text.length →
      index.matchAt text position = index.matchAt text (position + text.length) := by
  intro index
  have hscan : ReferenceScan records 0 text (Segment.emojiPlaces 0 (index.scan handleOf text)) :=
    Index.reference_scan_from handleOf [] text 0
  refine ⟨?_, ?_, fun position hneg hstart => Index.match_at_neg hneg hstart⟩
  · intro found
    constructor
    · intro hfound
      exact hfound.unique hscan
    · rintro rfl
      exact hscan
  · intro record handle hmem
    obtain ⟨id, part, _, hfound, hrecord, hhandle⟩ := Index.emoji_of_mem_scan_from hmem
    obtain ⟨_, hmatch⟩ := Index.emoji_at_start_eq_some.1 hfound
    obtain ⟨_, hfirst⟩ := (Index.built_of_records records).match_start_eq_some hmatch
    refine ⟨id, hrecord, hhandle, ?_⟩
    intro other htext
    rw [← hrecord] at htext
    exact hfirst other htext

/-- Of a prefix and two records with one longer text, the first longer one is found, and the same
place counted from the end finds it as well. -/
theorem reference_scan_takes_first_longest :
    let first : Record := ⟨[[0x78]], [], [0x61, 0x62], none, ∅⟩
    let records : List Record :=
      [⟨[], [], [0x61], none, ∅⟩, first, ⟨[[0x79]], [], [0x61, 0x62], none, ∅⟩]
    let handle : Handle := ⟨[0x61, 0x62], [], [], .nan⟩
    let index := (Index.build records).value
    let handleOf : index.Id → Option Handle := fun id => if id.val = 1 then some handle else none
    let text : Text := [0x63, 0x61, 0x62]
    (.emoji first (some handle) ∈ index.scan handleOf text ∧
      ∃ id, index.record id = first ∧ handleOf id = some handle ∧
        ∀ other, index.text other = first.text → id ≤ other) ∧
    (0 : Int) ≤ -2 + text.length ∧
      index.matchAt text (-2) = index.matchAt text (-2 + text.length) := by
  intro first records handle index handleOf text
  have hscan : index.scan handleOf text = [.plain [0x63], .emoji first (some handle)] := by cbv
  have hmem : .emoji first (some handle) ∈ index.scan handleOf text := by simp [hscan]
  have hstart : (0 : Int) ≤ -2 + text.length := by decide
  obtain ⟨_, hhandles, hplaces⟩ := reference_scan_iff records handleOf text
  exact ⟨⟨hmem, hhandles first (some handle) hmem⟩, hstart, hplaces (-2) (by decide) hstart⟩

end EmojiText
