import EmojiText.Index
import Mathlib.Order.Fin.Basic
import Mathlib.Order.WellFounded

/-!
# The records of an index

The records of an index have numbers, and the index of a list of records holds those of them that
have a text. The main statements are `exists_id`, which says that every record with a text has a
number, and `find_record`: the least number with a text is that of the first record with it.
-/

namespace EmojiText

namespace Arena

variable {arena : Arena}

/-- What is made of each record and its number is made of it and its place. -/
theorem map_ids {α : Type} (f : Record × Nat → α) :
    arena.ids.map (fun id => f (arena.record id, id.val)) = arena.records.toList.zipIdx.map f := by
  refine List.ext_getElem ?_ ?_
  · simp [ids]
  · intro place hplace _
    simp [ids, record]

/-- The records are those with the numbers in their order. -/
theorem map_record_ids : arena.ids.map arena.record = arena.records.toList := by
  rw [map_ids Prod.fst, List.zipIdx_map_fst]

/-- A record has a number exactly if it is one of the records. -/
theorem exists_record_iff {record : Record} :
    (∃ id, arena.record id = record) ↔ record ∈ arena.records := by
  rw [← Array.mem_toList_iff, ← map_record_ids]
  simp [ids]

end Arena

namespace Index

/-- Among the records with the text of a given one there is a first. -/
theorem exists_first {index : Index} (given : index.Id) :
    ∃ id, index.text id = index.text given ∧
      ∀ other, index.text other = index.text id → id ≤ other := by
  obtain ⟨id, htext, hleast⟩ :=
    wellFounded_lt.has_min {id | index.text id = index.text given} ⟨given, rfl⟩
  refine ⟨id, htext, ?_⟩
  intro other hother
  exact not_lt.1 (hleast other (hother.trans htext))

variable {records : List Record}

/-- The records of the index are the given ones that have a text. -/
theorem records_of_records :
    (ofRecords records).records.toList = records.filter (·.text ≠ []) := rfl

/-- A record of the index is a given one. -/
theorem mem_of_mem_records {record : Record} (h : record ∈ (ofRecords records).records) :
    record ∈ records := by
  rw [← Array.mem_toList_iff, records_of_records] at h
  exact (List.mem_filter.1 h).1

/-- A given record that has a text is indexed. -/
theorem exists_id {record : Record} (hmem : record ∈ records) (htext : record.text ≠ []) :
    ∃ id : (ofRecords records).Id, (ofRecords records).record id = record := by
  rw [Arena.exists_record_iff, ← Array.mem_toList_iff, records_of_records]
  exact List.mem_filter.2 ⟨hmem, by simpa using htext⟩

/-- The first indexed record with a text is the first given one with it. -/
theorem find_record {id : (ofRecords records).Id}
    (hfirst : ∀ other, (ofRecords records).text other = (ofRecords records).text id → id ≤ other) :
    records.find? (fun other => other.text = (ofRecords records).text id)
      = some ((ofRecords records).record id) := by
  have htext := (ofRecords records).text_id_ne_nil id
  have hfilter : records.find? (fun other => other.text = (ofRecords records).text id)
      = (ofRecords records).records.toList.find?
          (fun other => other.text = (ofRecords records).text id) := by
    rw [records_of_records, List.find?_filter]
    congr 1
    funext other
    by_cases hother : other.text = (ofRecords records).text id
    · simp [hother, htext]
    · simp [hother]
  rw [hfilter, List.find?_eq_some_iff_getElem]
  refine ⟨by simp [Arena.text], id, by simp, by simp [Arena.record], ?_⟩
  intro place hlt
  rw [Bool.not_eq_true', decide_eq_false_iff_not]
  intro hsame
  have hle := hfirst ⟨place, Nat.lt_trans hlt id.isLt⟩ hsame
  exact absurd hlt (Nat.not_lt.2 hle)

end Index

end EmojiText
