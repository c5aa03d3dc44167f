import EmojiText.Proofs.Scan.Longest

/-!
# Which records a scan depends on

Of all records a scan depends on few: for each text that stands in the scanned one, on the first
record with it. Lists of records that agree on these records give the same segments, whatever else
they hold and in whatever order. Only the numbers of the records differ, and with them the handles,
which `Segment.bare` leaves out. The step from lists to scans is `record_match_start_iff`, and the
main statement is `scan_of_agreeing_records`.
-/

namespace EmojiText

/-- The segment without the handle of its emoji. -/
def Segment.bare : Segment → Segment
  | plain text => plain text
  | emoji record _ => emoji record none

/-- Leaving out handles leaves a run of plain text as it is. -/
theorem Segment.map_bare_cons_plain (run : Text) (segments : List Segment) :
    (consPlain run segments).map bare = consPlain run (segments.map bare) := by
  unfold consPlain
  split
  · rfl
  · rfl

namespace Record

/-- Two lists of records agree on a text: for every part of the text that is not empty, the first
record with this part as its text is the same in both, or there is none in either. -/
def Agree (records others : List Record) (text : Text) : Prop :=
  ∀ part, part ≠ [] → part <:+: text →
    records.find? (·.text = part) = others.find? (·.text = part)

variable {records others : List Record} {record : Record} {text part : Text}

theorem Agree.symm (h : Agree records others text) : Agree others records text := by
  intro part hne hpart
  exact (h part hne hpart).symm

/-- Lists that agree on a text agree on every end of it. -/
theorem Agree.of_suffix (h : Agree records others text) (hsuffix : part <:+ text) :
    Agree records others part := by
  intro inner hne hinner
  exact h inner hne (hinner.trans hsuffix.isInfix)

/-- Lists that agree on a text have the same texts that stand in it. -/
theorem Agree.exists_of_mem (h : Agree records others text) (hmem : record ∈ others)
    (hne : record.text ≠ []) (hpart : record.text <:+: text) :
    ∃ same ∈ records, same.text = record.text := by
  have hsome : (others.find? (·.text = record.text)).isSome = true := by
    rw [List.find?_isSome]
    exact ⟨record, hmem, by simp⟩
  rw [← h record.text hne hpart, List.find?_isSome] at hsome
  obtain ⟨same, hsame, htext⟩ := hsome
  exact ⟨same, hsame, by simpa using htext⟩

/-- Lists that agree on a text give the same result of a search at its start. -/
theorem IsLongest.of_agree (h : record.IsLongest records text)
    (hagree : Agree records others text) : record.IsLongest others text where
  ne_nil := h.ne_nil
  starts := h.starts
  longest := by
    intro other hmem hstarts
    by_cases hne : other.text = []
    · simp [hne]
    · obtain ⟨same, hsame, htext⟩ := hagree.exists_of_mem hmem hne hstarts.isInfix
      rw [← htext] at hstarts ⊢
      exact h.longest same hsame hstarts
  first := by
    rw [← hagree record.text h.ne_nil h.starts.isInfix]
    exact h.first

/-! ### Lists that agree -/

/-- In a list of records with different texts, a record is the first with its text. -/
theorem find_text_eq_some_iff (hnodup : (records.map Record.text).Nodup) :
    records.find? (·.text = part) = some record ↔ record ∈ records ∧ record.text = part := by
  constructor
  · intro h
    exact ⟨List.mem_of_find?_eq_some h, by simpa using List.find?_some h⟩
  · rintro ⟨hmem, rfl⟩
    cases hfind : records.find? (·.text = record.text) with
    | none =>
        rw [List.find?_eq_none] at hfind
        exact absurd (decide_eq_true rfl) (hfind record hmem)
    | some first =>
        have htext : first.text = record.text := by simpa using List.find?_some hfind
        rw [List.inj_on_of_nodup_map hnodup (List.mem_of_find?_eq_some hfind) hmem htext]

/-- Records with different texts may stand in any order. -/
theorem agree_of_perm (hperm : records.Perm others) (hnodup : (records.map Record.text).Nodup)
    (text : Text) : Agree records others text := by
  intro part _ _
  have hothers : (others.map Record.text).Nodup := (hperm.map Record.text).nodup_iff.1 hnodup
  apply Option.ext
  intro record
  rw [find_text_eq_some_iff hnodup, find_text_eq_some_iff hothers, hperm.mem_iff]

/-- A record whose text does not stand in the text may be put in anywhere. -/
theorem agree_of_absent (before after : List Record) (h : ¬ record.text <:+: text) :
    Agree (before ++ after) (before ++ record :: after) text := by
  intro part _ hpart
  have hother : record.text ≠ part := by
    rintro rfl
    exact h hpart
  rw [List.find?_append, List.find?_append, List.find?_cons_of_neg (by simpa using hother)]

/-- A record with the text of an earlier one may be put at the end. -/
theorem agree_of_repeated (h : ∃ other ∈ records, other.text = record.text) (text : Text) :
    Agree records (records ++ [record]) text := by
  intro part _ _
  rw [List.find?_append]
  by_cases hpart : record.text = part
  · obtain ⟨other, hmem, htext⟩ := h
    have hsome : (records.find? (·.text = part)).isSome = true := by
      rw [List.find?_isSome]
      exact ⟨other, hmem, by simp [htext, hpart]⟩
    obtain ⟨first, hfirst⟩ := Option.isSome_iff_exists.1 hsome
    rw [hfirst]
    rfl
  · have hnone : [record].find? (·.text = part) = none := by simp [hpart]
    rw [hnone, Option.or_none]

end Record

namespace Index

variable {records others : List Record} {record : Record} {text : Text}

/-- Over the index of records, the record that is matched at the start of a text is the one that a
search through all of them finds. -/
theorem record_match_start_iff :
    ((ofRecords records).matchStart text).map (ofRecords records).record = some record ↔
      record.IsLongest records text := by
  constructor
  · intro h
    obtain ⟨id, hmatch, rfl⟩ := Option.map_eq_some_iff.1 h
    exact is_longest_of_match hmatch
  · intro h
    cases hmatch : (ofRecords records).matchStart text with
    | none =>
        have hmem := List.mem_of_find?_eq_some h.first
        exact absurd h.starts (not_starts_of_no_match hmatch record hmem h.ne_nil)
    | some id =>
        rw [Option.map_some, (is_longest_of_match hmatch).unique h]

/-- Over lists that agree on a text, the same record is the emoji at its start. -/
theorem record_emoji_at_start_of_agree (h : Record.Agree records others text) :
    ((ofRecords records).emojiAtStart? text).map (ofRecords records).record
      = ((ofRecords others).emojiAtStart? text).map (ofRecords others).record := by
  unfold emojiAtStart?
  split
  · rfl
  · apply Option.ext
    intro record
    rw [record_match_start_iff, record_match_start_iff]
    exact ⟨fun hlongest => hlongest.of_agree h, fun hlongest => hlongest.of_agree h.symm⟩

/-- Over lists that agree on a text, scanning it behind a run gives the same segments. -/
theorem scan_from_of_agree (h : Record.Agree records others text)
    (handleOf : (ofRecords records).Id → Option Handle)
    (otherHandleOf : (ofRecords others).Id → Option Handle) (run : Text) :
    ((ofRecords records).scanFrom handleOf run text).map Segment.bare
      = ((ofRecords others).scanFrom otherHandleOf run text).map Segment.bare := by
  fun_induction scanFrom (ofRecords records) handleOf run text with
  | case1 run => simp [scanFrom, Segment.map_bare_cons_plain]
  | case2 run unit rest hnone ih =>
      have hstart := record_emoji_at_start_of_agree h
      rw [hnone, Option.map_none, eq_comm, Option.map_eq_none_iff] at hstart
      rw [scan_from_of_none hstart]
      exact ih (h.of_suffix (List.suffix_cons unit rest))
  | case3 run unit rest id hsome ih =>
      have hstart := record_emoji_at_start_of_agree h
      rw [hsome, Option.map_some, eq_comm, Option.map_eq_some_iff] at hstart
      obtain ⟨other, hother, hrecord⟩ := hstart
      -- both scans go on behind the same text
      have htext : (ofRecords others).text other = (ofRecords records).text id :=
        congrArg Record.text hrecord
      rw [scan_from_of_some hother, Segment.map_bare_cons_plain, Segment.map_bare_cons_plain,
        List.map_cons, List.map_cons, htext, ih (h.of_suffix (List.drop_suffix _ _))]
      simp only [Segment.bare, hrecord]

/-- Over the indexes of both lists, scanning the text gives the same segments, handles aside. -/
def ScanAlike (records others : List Record) (text : Text) : Prop :=
  ∀ (handleOf : (build records).value.Id → Option Handle)
    (otherHandleOf : (build others).value.Id → Option Handle),
    ((build records).value.scan handleOf text).map Segment.bare
      = ((build others).value.scan otherHandleOf text).map Segment.bare

/-- Lists of records that agree on a text give the same segments of it. So they do if one has the
records of the other in another order and their texts are all different, if one has a record more
whose text does not stand in the scanned one, wherever this record stands, and if one has a record
more at its end whose text some other record has. -/
theorem scan_of_agreeing_records (text : Text) :
    (∀ records others, Record.Agree records others text → ScanAlike records others text) ∧
    (∀ records others, records.Perm others → (records.map Record.text).Nodup →
      ScanAlike records others text) ∧
    (∀ before after record, ¬ record.text <:+: text →
      ScanAlike (before ++ after) (before ++ record :: after) text) ∧
    ∀ records record, (∃ other ∈ records, other.text = record.text) →
      ScanAlike records (records ++ [record]) text := by
  have halike : ∀ records others, Record.Agree records others text →
      ScanAlike records others text := by
    intro records others h handleOf otherHandleOf
    exact scan_from_of_agree h handleOf otherHandleOf []
  refine ⟨halike, ?_, ?_, ?_⟩
  · intro records others hperm hnodup
    exact halike records others (Record.agree_of_perm hperm hnodup text)
  · intro before after record habsent
    exact halike _ _ (Record.agree_of_absent before after habsent)
  · intro records record hrepeated
    exact halike _ _ (Record.agree_of_repeated hrepeated text)

/-- A record that does not stand in the text and a second one with the longer text change nothing,
nor does it matter whether the longer or the shorter record comes first. -/
theorem scan_of_agreeing_records_with_longer :
    let long : Record := ⟨[[0x78]], [], [0x61, 0x62], none, ∅⟩
    let short : Record := ⟨[], [], [0x61], none, ∅⟩
    let absent : Record := ⟨[], [], [0x61, 0x63], none, ∅⟩
    let again : Record := ⟨[[0x79]], [], [0x61, 0x62], none, ∅⟩
    let text : Text := [0x61, 0x62]
    (Record.Agree [absent, long, again] [long] text ∧
      ScanAlike [absent, long, again] [long] text) ∧
    ([long, short].Perm [short, long] ∧ ([long, short].map Record.text).Nodup ∧
      ScanAlike [long, short] [short, long] text) ∧
    (¬ absent.text <:+: text ∧ ScanAlike [long, short] [long, absent, short] text) ∧
    ((∃ other ∈ [short, long], other.text = again.text) ∧
      ScanAlike [short, long] [short, long, again] text) := by
  intro long short absent again text
  obtain ⟨hagree, hperm, habsent, hrepeated⟩ := scan_of_agreeing_records text
  have hnot : ¬ absent.text <:+: text := by decide
  have hfirst : Record.Agree [absent, long, again] [long] text := by
    intro part _ hpart
    have hother : absent.text ≠ part := by
      rintro rfl
      exact hnot hpart
    rw [List.find?_cons_of_neg (by simpa using hother)]
    by_cases hlong : long.text = part
    · rw [List.find?_cons_of_pos (by simpa using hlong),
        List.find?_cons_of_pos (by simpa using hlong)]
    · have hagain : again.text ≠ part := hlong
      simp [hlong, hagain]
  have hswap : [long, short].Perm [short, long] := .swap short long []
  have hnodup : ([long, short].map Record.text).Nodup := by decide
  have hother : ∃ other ∈ [short, long], other.text = again.text := ⟨long, by simp, rfl⟩
  exact ⟨⟨hfirst, hagree _ _ hfirst⟩, ⟨hswap, hnodup, hperm _ _ hswap hnodup⟩,
    ⟨hnot, habsent [long] [short] absent hnot⟩, hother, hrepeated _ again hother⟩

end Index

end EmojiText
