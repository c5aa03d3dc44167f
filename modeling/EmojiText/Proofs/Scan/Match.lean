import EmojiText.Segment

/-!
# What matches at a place of a text

Facts about matches in any index. `prefix_of_match_start` says that a match covers what it was
compared with, `match_start_within` that candidates longer than what remains may be passed over,
and `match_at_of_lt` that a look-up inside a text cannot fail. A negative position counts from the
end, and `match_at_neg` says that it finds what the same place counted from the start does.
-/

namespace EmojiText

/-- A run in front of segments is the only one that it adds to them. -/
theorem Segment.mem_cons_plain {run : Text} {segments : List Segment} {segment : Segment}
    (h : segment ∈ consPlain run segments) : segment = plain run.reverse ∨ segment ∈ segments := by
  unfold consPlain at h
  split at h
  · exact .inr h
  · exact List.mem_cons.1 h

namespace Index

variable {index : Index} {text : Text} {id : index.Id}

/-- What is matched at the start of a text stands there. -/
theorem prefix_of_match_start (h : index.matchStart text = some id) : index.text id <+: text := by
  cases text with
  | nil => simp [matchStart] at h
  | cons unit rest =>
      have hstarts := List.find?_some h
      exact List.isPrefixOf_iff_prefix.1 hstarts

/-- The emoji at the start of a text is a match, and no trailing surrogate starts it. -/
theorem emoji_at_start_eq_some :
    index.emojiAtStart? text = some id ↔
      text.head?.any CodePoint.isTrailing = false ∧ index.matchStart text = some id := by
  unfold emojiAtStart?
  split <;> simp_all

/-- Taking the emoji off the start of a text leaves what stands behind it. -/
theorem text_append_drop (h : index.emojiAtStart? text = some id) :
    index.text id ++ text.drop (index.text id).length = text := by
  have hstarts := prefix_of_match_start (emoji_at_start_eq_some.1 h).2
  exact List.prefix_iff_eq_append.1 hstarts

/-- No match is longer than the text, so passing over longer candidates changes nothing. -/
theorem match_start_within {remaining : Int} (h : (text.length : Int) ≤ remaining) :
    index.matchStartWithin remaining text = index.matchStart text := by
  cases text with
  | nil => rfl
  | cons unit rest =>
      simp only [matchStartWithin, matchStart]
      congr 1
      funext id
      by_cases hstarts : (index.text id).isPrefixOf (unit :: rest) = true
      · have hle := (List.isPrefixOf_iff_prefix.1 hstarts).length_le
        have hbound : ((index.text id).length : Int) ≤ remaining := by omega
        simp [hstarts, hbound]
      · simp [hstarts]

/-- A look-up inside a text succeeds and finds what the rest of the text starts with. -/
theorem match_at_of_lt {position : Nat} (h : position < text.length) :
    index.matchAt text position = .ok (index.matchStart (text.drop position)) := by
  have hstart : ¬ ((position : Int) < 0) := by omega
  have hend : ¬ ((text.length : Int) ≤ position) := by omega
  have hbound : ((text.drop position).length : Int) ≤ text.length - position := by
    rw [List.length_drop]
    omega
  simp [matchAt, hstart, hend, match_start_within hbound]

/-- A look-up at a position that counts from the end finds what the same place counted from the
start does, although it passes over fewer candidates. -/
theorem match_at_neg {position : Int} (hneg : position < 0)
    (hstart : 0 ≤ position + text.length) :
    index.matchAt text position = index.matchAt text (position + text.length) := by
  obtain ⟨place, hplace⟩ := Int.eq_ofNat_of_zero_le hstart
  have hlt : place < text.length := by omega
  have hnot : ¬ (place : Int) < 0 := by omega
  have hend : ¬ ((text.length : Int) ≤ place) := by omega
  have hbound : ((text.drop place).length : Int) ≤ text.length - position := by
    rw [List.length_drop]
    omega
  rw [hplace, match_at_of_lt hlt]
  simp [matchAt, hneg, hplace, hnot, hend, match_start_within hbound]

variable {handleOf : index.Id → Option Handle} {run rest : Text} {unit : CodePoint}

/-- A code point at which no emoji starts joins the run of plain text. -/
theorem scan_from_of_none (h : index.emojiAtStart? (unit :: rest) = none) :
    index.scanFrom handleOf run (unit :: rest) = index.scanFrom handleOf (unit :: run) rest := by
  rw [scanFrom, h]

/-- An emoji ends the run of plain text, and the scan goes on behind it. -/
theorem scan_from_of_some (h : index.emojiAtStart? (unit :: rest) = some id) :
    index.scanFrom handleOf run (unit :: rest)
      = Segment.consPlain run (.emoji (index.record id) (handleOf id)
          :: index.scanFrom handleOf [] ((unit :: rest).drop (index.text id).length)) := by
  rw [scanFrom, h]

/-- Where no emoji starts at any place of a text, the run of plain text goes on to its end. -/
theorem scan_from_of_none_starts
    (h : ∀ part, part <:+ text → index.emojiAtStart? part = none) :
    index.scanFrom handleOf run text = Segment.consPlain (text.reverse ++ run) [] := by
  induction text generalizing run with
  | nil => simp [scanFrom]
  | cons unit rest ih =>
      rw [scan_from_of_none (h _ List.suffix_rfl),
        ih fun part hpart => h part (hpart.trans (List.suffix_cons unit rest)),
        List.reverse_cons, List.append_assoc]
      rfl

/-- An emoji among the segments was found at the start of some end of the text, under the number of
its record, and carries the handle for that number. -/
theorem emoji_of_mem_scan_from {record : Record} {handle : Option Handle}
    (h : .emoji record handle ∈ index.scanFrom handleOf run text) :
    ∃ id part, part <:+ text ∧ index.emojiAtStart? part = some id ∧
      index.record id = record ∧ handleOf id = handle := by
  fun_induction scanFrom with
  | case1 run =>
      rcases Segment.mem_cons_plain h with heq | hmem
      · cases heq
      · cases hmem
  | case2 run unit rest hnone ih =>
      obtain ⟨id, part, hpart, hfound⟩ := ih h
      exact ⟨id, part, hpart.trans (List.suffix_cons unit rest), hfound⟩
  | case3 run unit rest id hsome ih =>
      rcases Segment.mem_cons_plain h with heq | hmem
      · cases heq
      · rcases List.mem_cons.1 hmem with heq | hmem
        · cases heq
          exact ⟨id, unit :: rest, List.suffix_rfl, hsome, rfl, rfl⟩
        · obtain ⟨other, part, hpart, hfound⟩ := ih hmem
          exact ⟨other, part, hpart.trans (List.drop_suffix _ _), hfound⟩

end Index

end EmojiText
