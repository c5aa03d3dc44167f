import EmojiText.Proofs.Dataset.Complete
import EmojiText.Proofs.Index.Representation

/-!
# Records behind unified codes

A bucket of an index keeps every record, but a unified code leads to one record only. A record from
a bucket is behind its code exactly if no later record has the same code, which is
`Built.exists_code_iff`. So all records of the buckets are behind codes exactly if their codes are
different, and otherwise a later record stands in for an earlier one. The main statement is
`last_behind_unified_code`; codes that coincide in upper case are enough to hide a record, as in
`unified_code_hides_record`.
-/

namespace EmojiText

namespace Arena

variable {arena : Arena} {id : arena.Id}

/-- The last of ascending numbers is the greatest of them. -/
theorem getLast_eq_some_iff {ids : List arena.Id} (h : ids.Pairwise (· < ·)) :
    ids.getLast? = some id ↔ id ∈ ids ∧ ∀ other ∈ ids, other ≤ id := by
  rcases List.eq_nil_or_concat' ids with rfl | ⟨front, last, rfl⟩
  · simp
  have hfront : ∀ other ∈ front, other < last := by
    intro other hother
    exact (List.pairwise_append.1 h).2.2 other hother last (List.mem_singleton_self last)
  have hgreatest : ∀ other ∈ front ++ [last], other ≤ last := by
    intro other hother
    rcases List.mem_append.1 hother with hother | hother
    · exact le_of_lt (hfront other hother)
    · exact le_of_eq (List.mem_singleton.1 hother)
  have hmem : last ∈ front ++ [last] := List.mem_append_right front (List.mem_singleton_self last)
  rw [List.getLast?_concat]
  constructor
  · intro hid
    obtain rfl := Option.some.inj hid
    exact ⟨hmem, hgreatest⟩
  · rintro ⟨hid, hle⟩
    exact congrArg some (le_antisymm (hle last hmem) (hgreatest id hid))

end Arena

namespace Index

variable {index : Index} {id : index.Id} {code : Text}

/-- No later record has the unified code of the record. -/
def LastWithCode (index : Index) (id : index.Id) : Prop :=
  ∀ later, id < later → (index.record later).unifiedCode ≠ (index.record id).unifiedCode

/-- The unified codes of the index are those of its records. -/
theorem Built.mem_keys_unified_code (h : index.Built) :
    code ∈ index.byUnifiedCode.keys ↔ ∃ record ∈ index.records, record.unifiedCode = code := by
  rw [h]
  exact Arena.mem_keys_unified_code

/-- A unified code leads to the last record that has it. -/
theorem Built.find_unified_code (h : index.Built) (code : Text) :
    index.byUnifiedCode.find? code
      = (index.ids.filter fun id => (index.record id).unifiedCode = code).getLast? := by
  rw [h]
  exact Arena.find_unified_code _ code

/-- The record behind a unified code has it, and no later record does. -/
theorem Built.find_code_eq_some_iff (h : index.Built) :
    index.byUnifiedCode.find? code = some id ↔
      (index.record id).unifiedCode = code ∧ index.LastWithCode id := by
  rw [h.find_unified_code, Arena.getLast_eq_some_iff (index.pairwise_ids.filter _)]
  simp only [Arena.ids, List.mem_filter, List.mem_finRange, true_and, decide_eq_true_eq]
  constructor
  · rintro ⟨rfl, hgreatest⟩
    refine ⟨rfl, ?_⟩
    intro later hlt hcode
    exact not_le_of_gt hlt (hgreatest later hcode)
  · rintro ⟨rfl, hlast⟩
    refine ⟨rfl, ?_⟩
    intro other hcode
    exact not_lt.1 fun hlt => hlast other hlt hcode

/-- A record is behind some unified code exactly if no later record has its own. -/
theorem Built.exists_code_iff (h : index.Built) :
    (∃ code, index.byUnifiedCode.find? code = some id) ↔ index.LastWithCode id := by
  simp only [h.find_code_eq_some_iff, exists_eq_left']

/-- Behind the unified code of a record there is the last one with this code. -/
theorem Built.exists_behind_code (h : index.Built) (id : index.Id) :
    ∃ last, index.byUnifiedCode.find? (index.record id).unifiedCode = some last ∧
      (index.record last).unifiedCode = (index.record id).unifiedCode ∧
      index.LastWithCode last := by
  have hkey : (index.record id).unifiedCode ∈ index.byUnifiedCode.keys :=
    h.mem_keys_unified_code.2 ⟨index.record id, Arena.exists_record_iff.1 ⟨id, rfl⟩, rfl⟩
  obtain ⟨last, hlast⟩ := Table.mem_keys_iff.1 hkey
  exact ⟨last, hlast, h.find_code_eq_some_iff.1 hlast⟩

/-- Every record is the last with its unified code exactly if no two records have the same. -/
theorem last_with_code_iff_nodup :
    (∀ id, index.LastWithCode id) ↔ (index.records.toList.map Record.unifiedCode).Nodup := by
  rw [← Arena.map_record_ids, List.map_map, Arena.ids,
    List.nodup_map_iff_inj_on (List.nodup_finRange _)]
  constructor
  · intro hlast id _ other _ hcode
    rcases lt_trichotomy id other with hlt | heq | hlt
    · exact absurd hcode.symm (hlast id other hlt)
    · exact heq
    · exact absurd hcode (hlast other id hlt)
  · intro hinjective id later hlt hcode
    have heq := hinjective later (List.mem_finRange _) id (List.mem_finRange _) hcode
    exact absurd heq.symm (ne_of_lt hlt)

/-- Every record is in some bucket. -/
theorem Built.exists_bucket (h : index.Built) (id : index.Id) :
    ∃ unit ids, (unit, ids) ∈ index.byLeadingUnit.pairs ∧ id ∈ ids := by
  have hmem : id ∈ index.byLeadingUnit.pairs.flatMap Prod.snd :=
    h.perm_buckets.mem_iff.2 (List.mem_finRange id)
  obtain ⟨⟨unit, ids⟩, hpair, hid⟩ := List.mem_flatMap.1 hmem
  exact ⟨unit, ids, hpair, hid⟩

/-- Over the index of a dataset that loads, the unified code of each record in a bucket leads to the
last record with this code, so the record itself is behind a code exactly if no later one has the
same. All records of the buckets are behind codes exactly if the records of the dataset have
different unified codes. -/
theorem last_behind_unified_code {records : List Record} (h : Dataset.Loads records) :
    let index := (build records).value
    (∀ unit ids, (unit, ids) ∈ index.byLeadingUnit.pairs → ∀ id ∈ ids,
      (∃ last, index.byUnifiedCode.find? (index.record id).unifiedCode = some last ∧
        (index.record last).unifiedCode = (index.record id).unifiedCode ∧
        index.LastWithCode last) ∧
      ((∃ code, index.byUnifiedCode.find? code = some id) ↔ index.LastWithCode id)) ∧
    ((∀ unit ids, (unit, ids) ∈ index.byLeadingUnit.pairs → ∀ id ∈ ids,
        ∃ code, index.byUnifiedCode.find? code = some id) ↔
      (records.map Record.unifiedCode).Nodup) := by
  intro index
  have hbuilt : index.Built := built_of_records records
  have htexts : ∀ record ∈ records, record.text ≠ [] :=
    fun record hmem => (h.findable record hmem).text_ne_nil
  have hrecords : index.records.toList = records := records_of_all_texts htexts
  refine ⟨?_, ?_⟩
  · intro unit ids _ id _
    exact ⟨hbuilt.exists_behind_code id, hbuilt.exists_code_iff⟩
  · rw [← hrecords, ← last_with_code_iff_nodup]
    constructor
    · intro hbuckets id
      obtain ⟨unit, ids, hpair, hid⟩ := hbuilt.exists_bucket id
      exact hbuilt.exists_code_iff.1 (hbuckets unit ids hpair id hid)
    · intro hlast unit ids _ id _
      exact hbuilt.exists_code_iff.2 (hlast id)

/-- The last two of three records have codes that differ in their letter case only. -/
theorem last_behind_unified_code_of_three :
    let entry (name code : String) : Json :=
      .object [("short_names", .array [.string name]), ("unified", .string code)]
    let raws : List RawEntry :=
      [.value (entry "a" "1F600"), .value (entry "b" "1F604"), .value (entry "c" "1f604")]
    let records : List Record := [⟨["a"], "1F600", [0x1F600], none, ∅⟩,
      ⟨["b"], "1F604", [0x1F604], none, ∅⟩, ⟨["c"], "1F604", [0x1F604], none, ∅⟩]
    let index := (build records).value
    ((Dataset.ofEntries ∅ "data" raws).value = records ∧ Dataset.Loads records) ∧
    ¬ (records.map Record.unifiedCode).Nodup ∧
    ¬ ∀ unit ids, (unit, ids) ∈ index.byLeadingUnit.pairs → ∀ id ∈ ids,
      ∃ code, index.byUnifiedCode.find? code = some id := by
  intro entry raws records index
  have hloaded : (Dataset.ofEntries ∅ "data" raws).value = records := by decide +kernel
  have hloads : Dataset.Loads records := hloaded ▸ Dataset.Loads.entries ∅ "data" raws
  have hdup : ¬ (records.map Record.unifiedCode).Nodup := by decide +kernel
  exact ⟨⟨hloaded, hloads⟩, hdup, (last_behind_unified_code hloads).2.not.2 hdup⟩

/-- Two entries whose codes differ in their letter case make two records in one bucket, and no
unified code leads to the first of them. -/
theorem unified_code_hides_record :
    let entry (name code : String) : Json :=
      .object [("short_names", .array [.string name]), ("unified", .string code)]
    let raws : List RawEntry := [.value (entry "a" "1F604"), .value (entry "b" "1f604")]
    let records := (Dataset.ofEntries ∅ "data" raws).value
    let index := (build records).value
    Dataset.Loads records ∧
    ∃ unit ids, (unit, ids) ∈ index.byLeadingUnit.pairs ∧
      ∃ id ∈ ids, ∀ code, index.byUnifiedCode.find? code ≠ some id := by
  intro entry raws records index
  have hbuilt : index.Built := built_of_records records
  let first : index.Id := ⟨0, by decide +kernel⟩
  let second : index.Id := ⟨1, by decide +kernel⟩
  have hcode : (index.record second).unifiedCode = (index.record first).unifiedCode := by
    decide +kernel
  obtain ⟨unit, ids, hpair, hfirst⟩ := hbuilt.exists_bucket first
  refine ⟨Dataset.Loads.entries ∅ "data" raws, unit, ids, hpair, first, hfirst, ?_⟩
  intro code hfind
  have hlast : index.LastWithCode first := hbuilt.exists_code_iff.1 ⟨code, hfind⟩
  exact hlast second Nat.zero_lt_one hcode

end Index

end EmojiText
