import EmojiText.Proofs.Scan.Longest
import EmojiText.Proofs.Scan.NormalForm

/-!
# Scanning a segment on its own

A segment does not depend on what stands around it: scanning its text alone gives this segment back.
For an emoji this is so because no other record was in question for its own text either, and for a
run of plain text because a record that stands inside the run also stands there in the whole text,
where it would have been found. The main statement is `scan_segment_alone`.
-/

namespace EmojiText.Index

variable {index : Index} {handleOf : index.Id → Option Handle} {run text part behind : Text}
  {id : index.Id}

/-! ### The text of a record -/

/-- The first record with a text is the match at the start of just this text. -/
theorem Built.match_start_text (h : index.Built)
    (hfirst : ∀ other, index.text other = index.text id → id ≤ other) :
    index.matchStart (index.text id) = some id := by
  cases hmatch : index.matchStart (index.text id) with
  | none => exact absurd List.prefix_rfl (h.match_start_eq_none_iff.1 hmatch id)
  | some other =>
      obtain ⟨hlongest, hother⟩ := h.match_start_eq_some hmatch
      have htext : index.text other = index.text id :=
        (prefix_of_match_start hmatch).eq_of_length_le (hlongest id List.prefix_rfl)
      rw [Fin.le_antisymm (hother id htext.symm) (hfirst other htext)]

/-- Scanning the text of a record gives one emoji, the first record with this text, unless the text
starts with a trailing surrogate. -/
theorem Built.scan_text (h : index.Built)
    (hfirst : ∀ other, index.text other = index.text id → id ≤ other)
    (hhead : (index.text id).head?.any CodePoint.isTrailing = false) :
    index.scan handleOf (index.text id) = [.emoji (index.record id) (handleOf id)] := by
  have hemoji := emoji_at_start_eq_some.2 ⟨hhead, h.match_start_text hfirst⟩
  obtain ⟨unit, rest, htext⟩ := List.exists_cons_of_ne_nil (index.text_id_ne_nil id)
  have hnil : (unit :: rest).drop (index.text id).length = [] := by
    rw [htext, List.drop_length]
  rw [htext] at hemoji ⊢
  rw [scan, scan_from_of_some hemoji, hnil, scanFrom]
  rfl

/-- Scanning the text of an emoji that was found gives this emoji. -/
theorem Built.scan_emoji (h : index.Built) (hemoji : index.emojiAtStart? part = some id) :
    index.scan handleOf (index.text id) = [.emoji (index.record id) (handleOf id)] := by
  obtain ⟨htrailing, hmatch⟩ := emoji_at_start_eq_some.1 hemoji
  refine h.scan_text (h.match_start_eq_some hmatch).2 ?_
  -- the text of the emoji starts with the code point with which the place starts
  obtain ⟨unit, rest, htext⟩ := List.exists_cons_of_ne_nil (index.text_id_ne_nil id)
  obtain ⟨after, hafter⟩ := prefix_of_match_start hmatch
  rw [← hafter, htext] at htrailing
  rw [htext]
  exact htrailing

/-! ### A run of plain text -/

/-- Where no emoji starts, none starts if what follows is cut off. -/
theorem Built.emoji_at_start_of_append (h : index.Built)
    (hnone : index.emojiAtStart? (part ++ behind) = none) : index.emojiAtStart? part = none := by
  cases hemoji : index.emojiAtStart? part with
  | none => rfl
  | some id =>
      obtain ⟨htrailing, hmatch⟩ := emoji_at_start_eq_some.1 hemoji
      have hstands := prefix_of_match_start hmatch
      cases part with
      | nil => exact absurd (List.prefix_nil.1 hstands) (index.text_id_ne_nil id)
      | cons unit rest =>
          have hmatch' : index.matchStart (unit :: rest ++ behind) = none := by
            simpa [emojiAtStart?, show unit.isTrailing = false by simpa using htrailing] using hnone
          exact absurd (hstands.trans (List.prefix_append _ _))
            (h.match_start_eq_none_iff.1 hmatch' id)

/-- No emoji starts inside the run, given in reverse, as long as the text stands behind it. -/
def Quiet (index : Index) (run text : Text) : Prop :=
  ∀ part, part <:+ run.reverse → part ≠ [] → index.emojiAtStart? (part ++ text) = none

/-- A code point at which no emoji starts may join the run. -/
theorem Quiet.cons {unit : CodePoint} {rest : Text} (h : index.Quiet run (unit :: rest))
    (hnone : index.emojiAtStart? (unit :: rest) = none) : index.Quiet (unit :: run) rest := by
  intro part hpart hne
  rw [List.reverse_cons, List.suffix_concat_iff] at hpart
  obtain rfl | ⟨front, rfl, hfront⟩ := hpart
  · exact absurd rfl hne
  · rw [List.append_assoc, List.singleton_append]
    by_cases hnil : front = []
    · rw [hnil]
      exact hnone
    · exact h front hfront hnil

/-- In a run among the segments no emoji starts, not even if the run is cut out. -/
theorem Built.none_starts_in_run (h : index.Built) (hquiet : index.Quiet run text) {plain : Text}
    (hmem : .plain plain ∈ index.scanFrom handleOf run text) :
    ∀ part, part <:+ plain → index.emojiAtStart? part = none := by
  -- the run that is collected is quiet before what is left; an emoji behind it changes nothing
  have hcut : ∀ {run text}, index.Quiet run text →
      ∀ part, part <:+ run.reverse → index.emojiAtStart? part = none := by
    intro run text hquiet part hpart
    by_cases hnil : part = []
    · rw [hnil]
      rfl
    · exact h.emoji_at_start_of_append (hquiet part hpart hnil)
  fun_induction scanFrom with
  | case1 run =>
      rcases Segment.mem_cons_plain hmem with heq | hmem
      · cases heq
        exact hcut hquiet
      · cases hmem
  | case2 run unit rest hnone ih => exact ih (hquiet.cons hnone) hmem
  | case3 run unit rest id hsome ih =>
      rcases Segment.mem_cons_plain hmem with heq | hmem
      · cases heq
        exact hcut hquiet
      · rcases List.mem_cons.1 hmem with heq | hmem
        · cases heq
        · refine ih ?_ hmem
          intro part hpart hne
          exact absurd (List.suffix_nil.1 hpart) hne

/-! ### The index of a list of records -/

/-- Over the index of any records, each segment of a text is what scanning its own text gives, so
scanning all these texts one after the other gives the segments of the text again. -/
theorem scan_segment_alone (records : List Record)
    (handleOf : (build records).value.Id → Option Handle) (text : Text) :
    let index := (build records).value
    (∀ segment ∈ index.scan handleOf text, index.scan handleOf segment.text = [segment]) ∧
    (index.scan handleOf text).flatMap (fun segment => index.scan handleOf segment.text)
      = index.scan handleOf text := by
  intro index
  have hbuilt : index.Built := built_of_records records
  have halone : ∀ segment ∈ index.scan handleOf text,
      index.scan handleOf segment.text = [segment] := by
    intro segment hmem
    cases segment with
    | plain plain =>
        have hquiet : index.Quiet [] text := by
          intro part hpart hne
          exact absurd (List.suffix_nil.1 hpart) hne
        have hne : plain ≠ [] := (normal_form_scan handleOf text).text_ne_nil _ hmem
        show index.scan handleOf plain = [.plain plain]
        rw [scan, scan_from_of_none_starts (hbuilt.none_starts_in_run hquiet hmem),
          List.append_nil, Segment.consPlain]
        simp [hne]
    | emoji record handle =>
        obtain ⟨id, part, _, hemoji, rfl, rfl⟩ := emoji_of_mem_scan_from hmem
        exact hbuilt.scan_emoji hemoji
  refine ⟨halone, ?_⟩
  calc (index.scan handleOf text).flatMap (fun segment => index.scan handleOf segment.text)
      = (index.scan handleOf text).flatMap (fun segment => [segment]) :=
        List.flatMap_congr halone
    _ = index.scan handleOf text := List.flatMap_singleton' _

/-- A record found where a longer one is cut off, and the plain text behind it, are found alone too.
-/
theorem scan_segment_alone_before_longer :
    let short : Record := ⟨[], [], [0x61], none, ∅⟩
    let records : List Record := [⟨[], [], [0x61, 0x62, 0x63], none, ∅⟩, short]
    let index := (build records).value
    let handleOf : index.Id → Option Handle := fun _ => none
    let text : Text := [0x61, 0x62, 0xDC00]
    (.emoji short none ∈ index.scan handleOf text ∧
      index.scan handleOf [0x61] = [.emoji short none]) ∧
    .plain [0x62, 0xDC00] ∈ index.scan handleOf text ∧
      index.scan handleOf [0x62, 0xDC00] = [.plain [0x62, 0xDC00]] := by
  intro short records index handleOf text
  have hscan : index.scan handleOf text = [.emoji short none, .plain [0x62, 0xDC00]] := by cbv
  have hemoji : .emoji short none ∈ index.scan handleOf text := by simp [hscan]
  have hplain : .plain [0x62, 0xDC00] ∈ index.scan handleOf text := by simp [hscan]
  obtain ⟨halone, _⟩ := scan_segment_alone records handleOf text
  exact ⟨⟨hemoji, halone _ hemoji⟩, hplain, halone _ hplain⟩

end EmojiText.Index
