import EmojiText.Proofs.Index.Pass
import EmojiText.Proofs.Text.Case
import EmojiText.Proofs.Text.Order
import Mathlib

/-!
# What an index says about its records

Every table of an index says the same about the records as the list that it was built from. The
buckets of the leading units share out the numbers of the records; short codes and unified codes
each lead to the last record that has them; and the list of short codes is that of the keys, in
order. `Index.Represents` states this table by table, and the main statement is
`build_represents`.
-/

namespace EmojiText

namespace Arena

variable {arena : Arena} {unit : CodePoint} {key : Text}

/-- The code points that have a bucket are those with which some record starts. -/
theorem mem_keys_leading_unit :
    unit ∈ arena.leadingUnitTable.keys ↔ ∃ id, arena.leadingUnit id = unit := by
  rw [leadingUnitTable, Table.keys_map, Table.mem_keys_group, List.map_map, List.mem_map]
  simp [ids]

/-- The short codes in the table are those of all records, in lower case. -/
theorem mem_keys_short_code :
    key ∈ arena.shortCodeTable.keys ↔
      ∃ record ∈ arena.records, ∃ code ∈ record.shortCodes, code.lowercase = key := by
  simp only [shortCodeTable, Table.mem_keys_ofList, ← exists_record_iff, List.map_flatMap,
    List.map_map, List.mem_flatMap, List.mem_map, Function.comp_apply, ids, List.mem_finRange,
    true_and, exists_exists_eq_and]

/-- The unified codes in the table are those of all records. -/
theorem mem_keys_unified_code :
    key ∈ arena.unifiedCodeTable.keys ↔ ∃ record ∈ arena.records, record.unifiedCode = key := by
  simp only [unifiedCodeTable, Table.mem_keys_ofList, ← exists_record_iff, List.map_map,
    List.mem_map, Function.comp_apply, ids, List.mem_finRange, true_and, exists_exists_eq_and]

end Arena

namespace Index

/-- The tables of the index describe a list of records. -/
structure Represents (index : Index) (records : List Record) : Prop where
  /-- The numbers are the places among the records that have a text. -/
  records_eq : index.records.toList = records.filter (·.text ≠ [])
  /-- Together the buckets hold every number exactly once. -/
  perm_buckets : (index.byLeadingUnit.pairs.flatMap Prod.snd).Perm index.ids
  /-- No bucket is empty, and each holds records that start with its code point, in their order. -/
  bucket : ∀ unit ids, (unit, ids) ∈ index.byLeadingUnit.pairs →
    ids ≠ [] ∧ (∀ id ∈ ids, index.leadingUnit id = unit) ∧ ids.Pairwise index.Precedes
  /-- A short code in lower case leads to the last record that has it. -/
  find_short_code : ∀ key, index.byShortCode.find? key
    = (index.ids.filter fun id => (index.record id).hasShortCode key).getLast?
  /-- The table has the short codes of all records in lower case. -/
  mem_short_code_keys : ∀ key, key ∈ index.byShortCode.keys ↔
    ∃ record ∈ index.records, ∃ code ∈ record.shortCodes, code.lowercase = key
  /-- A unified code leads to the last record that has it. -/
  find_unified_code : ∀ key, index.byUnifiedCode.find? key
    = (index.ids.filter fun id => (index.record id).unifiedCode = key).getLast?
  /-- The table has the unified codes of all records. -/
  mem_unified_code_keys : ∀ key, key ∈ index.byUnifiedCode.keys ↔
    ∃ record ∈ index.records, record.unifiedCode = key
  /-- The short codes are listed in strictly ascending order. -/
  ascending : index.shortCodes.Pairwise Text.Before
  /-- The short codes that are listed are those of the table. -/
  mem_short_codes : ∀ key, key ∈ index.shortCodes ↔ key ∈ index.byShortCode.keys

variable {index : Index} {unit : CodePoint} {ids : List index.Id} {key : Text}

/-! ### The buckets of the leading units -/

/-- A bucket holds the candidates for its code point. -/
theorem candidates_of_mem_pairs (h : (unit, ids) ∈ index.byLeadingUnit.pairs) :
    index.candidates unit = ids := by
  rw [candidates, Table.find?_eq_some_iff.2 h]
  rfl

/-- There is a bucket for each code point with which some record starts, and for no other one. -/
theorem Built.mem_keys_leading_unit (h : index.Built) :
    unit ∈ index.byLeadingUnit.keys ↔ ∃ id, index.leadingUnit id = unit := by
  rw [h]
  exact Arena.mem_keys_leading_unit

/-- No record precedes itself. -/
theorem not_precedes_self (id : index.Id) : ¬ index.Precedes id id := by
  rintro (hlt | ⟨_, hlt⟩)
  · exact Nat.lt_irrefl _ hlt
  · exact Fin.lt_irrefl _ hlt

/-- Every bucket is right. -/
theorem Built.bucket (h : index.Built) (hmem : (unit, ids) ∈ index.byLeadingUnit.pairs) :
    ids ≠ [] ∧ (∀ id ∈ ids, index.leadingUnit id = unit) ∧ ids.Pairwise index.Precedes := by
  have hkey : unit ∈ index.byLeadingUnit.keys := List.mem_map_of_mem (f := Prod.fst) hmem
  obtain ⟨id, hid⟩ := h.mem_keys_leading_unit.1 hkey
  rw [← candidates_of_mem_pairs hmem]
  refine ⟨?_, fun _ => h.mem_candidates.1, h.pairwise_candidates unit⟩
  exact List.ne_nil_of_mem (h.mem_candidates.2 hid)

/-- The buckets share out the numbers. -/
theorem Built.perm_buckets (h : index.Built) :
    (index.byLeadingUnit.pairs.flatMap Prod.snd).Perm index.ids := by
  have hnodup : (index.byLeadingUnit.pairs.flatMap Prod.snd).Nodup := by
    refine List.nodup_flatMap.2 ⟨?_, ?_⟩
    · rintro ⟨unit, ids⟩ hmem
      refine (h.bucket hmem).2.2.imp ?_
      rintro id _ hprecedes rfl
      exact not_precedes_self id hprecedes
    · -- a number in two buckets would have two leading units
      have hkeys := List.pairwise_map.1 index.byLeadingUnit.nodup
      refine hkeys.imp_of_mem ?_
      rintro ⟨unit, ids⟩ ⟨other, otherIds⟩ hmem hother hne id hid hid'
      exact hne (((h.bucket hmem).2.1 id hid).symm.trans ((h.bucket hother).2.1 id hid'))
  refine (List.perm_ext_iff_of_nodup hnodup (List.nodup_finRange _)).2 fun id => ?_
  refine ⟨fun _ => List.mem_finRange id, fun _ => List.mem_flatMap.2 ?_⟩
  obtain ⟨ids, hids⟩ := Table.mem_keys_iff.1 (h.mem_keys_leading_unit.2 ⟨id, rfl⟩)
  have hmem := Table.find?_eq_some_iff.1 hids
  refine ⟨_, hmem, ?_⟩
  show id ∈ ids
  rw [← candidates_of_mem_pairs hmem]
  exact h.mem_candidates.2 rfl

/-! ### The index of a list of records -/

/-- The index of a list of records describes them. -/
theorem represents_of_records (records : List Record) : (ofRecords records).Represents records where
  records_eq := rfl
  perm_buckets := (built_of_records records).perm_buckets
  bucket _ _ := (built_of_records records).bucket
  find_short_code := Arena.find_short_code _
  mem_short_code_keys _ := Arena.mem_keys_short_code
  find_unified_code := Arena.find_unified_code _
  mem_unified_code_keys _ := Arena.mem_keys_unified_code
  ascending := Text.pairwise_sorted (Arena.shortCodeTable _).nodup
  mem_short_codes _ := Text.mem_sorted

/-- Looking up a short code in any letter case gives the last record with a text that has it. -/
theorem of_short_code_of_records (records : List Record) (query : Text) :
    (ofRecords records).ofShortCode? query
      = (records.filter fun record =>
          record.text ≠ [] && record.hasShortCode query.lowercase).getLast? := by
  rw [(built_of_records records).of_short_code_eq, (represents_of_records records).records_eq,
    List.filter_filter]
  simp only [Bool.and_comm]

/-- A record with a text is found under its short codes, unless a later one has them too. -/
theorem exists_of_short_code {records : List Record} {record : Record} (hmem : record ∈ records)
    (htext : record.text ≠ []) {query : Text} (hcode : record.hasShortCode query.lowercase = true) :
    ∃ last, (ofRecords records).ofShortCode? query = some last := by
  rw [of_short_code_of_records, ← Option.isSome_iff_exists, List.getLast?_isSome]
  refine List.ne_nil_of_mem (List.mem_filter.2 ⟨hmem, ?_⟩)
  simp [htext, hcode]

/-- A record with a text is found under those of its short codes that no later record has. -/
theorem of_short_code_of_last {before after : List Record} {record : Record}
    (htext : record.text ≠ []) {query : Text} (hcode : record.hasShortCode query.lowercase = true)
    (hafter : ∀ later ∈ after, ¬ later.hasShortCode query.lowercase = true) :
    (ofRecords (before ++ record :: after)).ofShortCode? query = some record := by
  have hnone : after.filter (fun record =>
      record.text ≠ [] && record.hasShortCode query.lowercase) = [] := by
    rw [List.filter_eq_nil_iff]
    intro later hlater
    simp [hafter later hlater]
  have hrecord : (decide (record.text ≠ []) && record.hasShortCode query.lowercase) = true := by
    simp [htext, hcode]
  rw [of_short_code_of_records, List.filter_append, List.filter_cons, if_pos hrecord, hnone,
    List.getLast?_concat]

/-- The short codes that are listed are those of the records with a text, in lower case. -/
theorem mem_short_codes_of_records {records : List Record} :
    key ∈ (ofRecords records).shortCodes ↔
      ∃ record ∈ records, record.text ≠ [] ∧ record.hasShortCode key = true := by
  have hrepresents := represents_of_records records
  simp only [hrepresents.mem_short_codes, hrepresents.mem_short_code_keys,
    Record.has_short_code_iff, ← Array.mem_toList_iff, hrepresents.records_eq, List.mem_filter,
    decide_eq_true_eq, and_assoc]

/-- Looking up a short code finds a record exactly if its lower-case form is listed. -/
theorem exists_of_short_code_iff {records : List Record} {query : Text} :
    (∃ record, (ofRecords records).ofShortCode? query = some record) ↔
      query.lowercase ∈ (ofRecords records).shortCodes := by
  rw [mem_short_codes_of_records]
  constructor
  · rintro ⟨record, hfound⟩
    rw [of_short_code_of_records] at hfound
    obtain ⟨hmem, hrecord⟩ := List.mem_filter.1 (List.mem_of_getLast? hfound)
    exact ⟨record, hmem, by simpa using hrecord⟩
  · rintro ⟨record, hmem, htext, hcode⟩
    exact exists_of_short_code hmem htext hcode

/-- The tables that one pass over the records makes are those of the index, and they describe the
records. A look-up finds the last record with the short code in whatever letter case, and so it
finds one for every alias of a record with a text and for every short code that is listed. -/
theorem build_represents (records : List Record) :
    let index := (build records).value
    let pass := IndexPass.run records
    index.Represents records ∧
    (pass.records = index.records.toList ∧
      pass.longestFirst = index.byLeadingUnit.map (List.map Fin.val) ∧
      pass.byShortCode = index.byShortCode.map Fin.val ∧
      pass.byUnifiedCode = index.byUnifiedCode.map Fin.val ∧
      Text.sorted pass.byShortCode.keys = index.shortCodes) ∧
    (∀ query, index.ofShortCode? query
      = (records.filter fun record =>
          record.text ≠ [] && record.hasShortCode query.lowercase).getLast?) ∧
    (∀ record ∈ records, record.text ≠ [] → ∀ code ∈ record.shortCodes, ∀ query : Text,
      query.lowercase = code.lowercase → ∃ last, index.ofShortCode? query = some last) ∧
    ∀ key ∈ index.shortCodes, ∃ last, index.ofShortCode? key = some last := by
  intro index pass
  have hrepresents := represents_of_records records
  refine ⟨hrepresents, index_pass_eq records, of_short_code_of_records records, ?_, ?_⟩
  · intro record hmem htext code hcode query hquery
    exact exists_of_short_code hmem htext (Record.has_short_code_iff.2 ⟨code, hcode, hquery.symm⟩)
  · intro key hkey
    obtain ⟨record, hrecord, code, hcode, rfl⟩ :=
      (hrepresents.mem_short_code_keys key).1 ((hrepresents.mem_short_codes key).1 hkey)
    rw [← Array.mem_toList_iff, hrepresents.records_eq] at hrecord
    obtain ⟨hmem, htext⟩ := List.mem_filter.1 hrecord
    refine exists_of_short_code hmem (by simpa using htext) (Record.has_short_code_iff.2 ?_)
    -- a listed short code is a lower-case form, which a look-up leaves as it is
    exact ⟨code, hcode, (Text.lowercase_lowercase code).symm⟩

/-- Two records share a short code in different letter cases, with a sigma at its end; the record
between them has no text. -/
theorem build_represents_last_of_two :
    let first : Record := ⟨["ΣΑΣ", "go"], "31", [0x31], none, ∅⟩
    let last : Record := ⟨["σας"], "31", [0x31, 0x32], none, ∅⟩
    let records : List Record := [first, ⟨["ΣΑΣ"], "32", [], none, ∅⟩, last]
    let index := (build records).value
    let query : Text := "Σας"
    (first.text ≠ [] ∧ query.lowercase = Text.lowercase "ΣΑΣ" ∧
      (∃ found, index.ofShortCode? query = some found) ∧ index.ofShortCode? query = some last) ∧
    Text.ofString "go" ∈ index.shortCodes ∧
      ∃ found, index.ofShortCode? "go" = some found := by
  intro first last records index query
  obtain ⟨hrepresents, _, hlookup, halias, hlisted⟩ := build_represents records
  have hquery : query.lowercase = Text.lowercase "ΣΑΣ" := by decide +kernel
  have hgo : Text.ofString "go" ∈ index.shortCodes := by
    rw [hrepresents.mem_short_codes, hrepresents.mem_short_code_keys]
    exact ⟨first, by decide +kernel, "go", by decide +kernel, by decide +kernel⟩
  refine ⟨⟨List.cons_ne_nil _ _, hquery, ?_, ?_⟩, hgo, hlisted _ hgo⟩
  · exact halias first List.mem_cons_self (List.cons_ne_nil _ _) _ List.mem_cons_self query hquery
  · rw [hlookup]
    decide +kernel

end Index

end EmojiText
