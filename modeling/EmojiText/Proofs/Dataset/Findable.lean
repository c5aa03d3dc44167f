import EmojiText.Proofs.Code.Grammar
import EmojiText.Proofs.Dataset.Records

/-!
# Records that can be found

A code lists at least one code point, and scalar values only. So every record of a dataset has a
text, and this text holds no surrogate, which the scan would not start at; and short codes that are
empty are left out. The main statement is `Dataset.Loads.findable`.
-/

namespace EmojiText

/-- The record can be found: it has a text of scalar values, and no short code is empty. -/
structure Record.Findable (record : Record) : Prop where
  text_ne_nil : record.text ≠ []
  scalar : ∀ c ∈ record.text, c.isSurrogate = false
  short_code_ne_nil : ∀ code ∈ record.shortCodes, code ≠ []

/-- A record that can be found does not start with a trailing surrogate. -/
theorem Record.Findable.head_text {record : Record} (h : record.Findable) :
    record.text.head?.any CodePoint.isTrailing = false := by
  cases htext : record.text with
  | nil => rfl
  | cons unit rest =>
      have hscalar := h.scalar unit (by simp [htext])
      rw [CodePoint.isSurrogate_eq, Bool.or_eq_false_iff] at hscalar
      exact hscalar.2

/-- The short codes that an entry gives to its record are not empty. -/
theorem Entry.ne_nil_of_mem_short_codes {entry : Entry} {shortCode : Option Text} {code : Text}
    (h : code ∈ entry.shortCodes shortCode) : code ≠ [] := by
  rcases shortCode with _ | _ | ⟨c, rest⟩
  · exact of_decide_eq_true (List.mem_filter.1 h).2
  · exact of_decide_eq_true (List.mem_filter.1 h).2
  · cases List.mem_singleton.1 h
    exact List.cons_ne_nil c rest

/-- The record that an entry makes can be found. -/
theorem Entry.findable_of_record {entry : Entry} {shortCode : Option Text} {record : Record}
    (h : (entry.record shortCode).value = some record) : record.Findable := by
  obtain ⟨_, text, htext, rfl⟩ := record_eq_some.1 h
  obtain ⟨code, _, hcode⟩ := text_eq_ok.1 htext
  obtain ⟨hne, _, hscalar⟩ := Code.scalar_of_code_points hcode
  exact ⟨hne, fun c hmem => by simpa [CodePoint.isScalar] using hscalar c hmem,
    fun _ => ne_nil_of_mem_short_codes⟩

namespace Dataset

/-- The records are those of a dataset that loads: of a list of raw entries, of a document or a
value, or of a file. -/
inductive Loads : List Record → Prop where
  | entries (names source entries) : Loads (ofEntries names source entries).value
  | data {names source data room records} :
      (load names source data room).outcome = .ok records → Loads records
  | file {names files path room records} :
      (loadFile names files path room).outcome = .ok records → Loads records

/-- Every record of a dataset that loads can be found. -/
theorem Loads.findable {records : List Record} (h : Loads records) :
    ∀ record ∈ records, record.Findable := by
  have hmade : ∀ (entry : Entry) (shortCode : Option Text) (record : Record),
      (entry.record shortCode).value = some record → record.Findable :=
    fun _ _ _ => Entry.findable_of_record
  cases h with
  | entries names source entries => exact of_entries hmade entries
  | data hload => exact of_load hmade hload
  | file hload => exact of_load_file hmade hload

end Dataset

end EmojiText
