import EmojiText.Proofs.Index.Code

/-!
# Indexing in one pass

All tables of an index can be made in a single pass over the records that numbers them on the way: a
record without a text is passed over and uses up no number, and every other one is entered into each
table under the next number. `IndexPass.Reached` says what the tables are after each record, and
`index_pass_eq` that at the end they are those of the index, once the records with one leading unit
are sorted by the lengths that the pass has stored. So every number in a table belongs to a record,
which is `IndexPass.bounded_run`.
-/

namespace EmojiText

/-- Where the pass stands: the records with a text so far, each known by its place among them, and
the tables of these numbers. -/
structure IndexPass where
  records : List Record
  byLeadingUnit : Table CodePoint (List Nat)
  byShortCode : Table Text Nat
  byUnifiedCode : Table Text Nat

namespace IndexPass

/-- Where the pass starts. -/
def start : IndexPass := ⟨[], ∅, ∅, ∅⟩

/-- Enters one more record, unless it has no text. -/
def next (pass : IndexPass) (record : Record) : IndexPass :=
  match record.text with
  | [] => pass
  | unit :: _ =>
    let id := pass.records.length
    { records := pass.records ++ [record]
      byLeadingUnit := pass.byLeadingUnit.push unit id
      byShortCode :=
        record.shortCodes.foldl (fun table code => table.insert code.lowercase id) pass.byShortCode
      byUnifiedCode := pass.byUnifiedCode.insert record.unifiedCode id }

/-- The pass over a list of records. -/
def run (records : List Record) : IndexPass := records.foldl next start

/-- The length of the text of the record with a number. -/
def lengthAt (pass : IndexPass) (id : Nat) : Nat := (pass.records[id]?.map (·.text.length)).getD 0

/-- The numbers of the records that start with each code point, those with longer texts first. -/
def longestFirst (pass : IndexPass) : Table CodePoint (List Nat) :=
  pass.byLeadingUnit.map fun ids => ids.mergeSort fun i j => pass.lengthAt j ≤ pass.lengthAt i

/-- What a record contributes under its number to the table of leading units. -/
def unitPair (numbered : Record × Nat) : CodePoint × Nat := (numbered.1.text.headD 0, numbered.2)

/-- What it contributes to the table of unified codes. -/
def unifiedPair (numbered : Record × Nat) : Text × Nat := (numbered.1.unifiedCode, numbered.2)

/-- What it contributes to the table of short codes: as many pairs as it has of them. -/
def codePairs (numbered : Record × Nat) : List (Text × Nat) :=
  numbered.1.shortCodes.map fun code => (code.lowercase, numbered.2)

/-- The pass has entered these records, each under its place. -/
structure Reached (pass : IndexPass) (records : List Record) : Prop where
  records_eq : pass.records = records
  byLeadingUnit_eq : pass.byLeadingUnit = Table.group (records.zipIdx.map unitPair)
  byShortCode_eq : pass.byShortCode = Table.ofList (records.zipIdx.flatMap codePairs)
  byUnifiedCode_eq : pass.byUnifiedCode = Table.ofList (records.zipIdx.map unifiedPair)

variable {records : List Record} {pass : IndexPass} {record : Record}

/-- At its start the pass has entered nothing. -/
theorem reached_start : start.Reached [] := ⟨rfl, rfl, rfl, rfl⟩

/-- A record without a text leaves the pass where it stands. -/
theorem next_of_no_text (h : record.text = []) : pass.next record = pass := by
  rw [next, h]

/-- A record with a text is entered behind the ones before it. -/
theorem Reached.next (h : pass.Reached records) (htext : record.text ≠ []) :
    (pass.next record).Reached (records ++ [record]) := by
  obtain ⟨unit, rest, htext⟩ := List.exists_cons_of_ne_nil htext
  have hnumbers : (records ++ [record]).zipIdx = records.zipIdx ++ [(record, records.length)] := by
    rw [List.zipIdx_append]
    simp
  have hunit : unitPair (record, records.length) = (unit, records.length) := by
    rw [unitPair, htext]
    rfl
  unfold IndexPass.next
  rw [htext]
  refine ⟨?_, ?_, ?_, ?_⟩
  · show pass.records ++ [record] = records ++ [record]
    rw [h.records_eq]
  · show pass.byLeadingUnit.push unit pass.records.length = _
    rw [hnumbers, List.map_append, List.map_singleton, Table.group_concat, hunit,
      h.byLeadingUnit_eq, h.records_eq]
  · show record.shortCodes.foldl _ pass.byShortCode = _
    rw [hnumbers, List.flatMap_append, List.flatMap_singleton, Table.ofList_append, codePairs,
      List.foldl_map, h.byShortCode_eq, h.records_eq]
  · show pass.byUnifiedCode.insert record.unifiedCode pass.records.length = _
    rw [hnumbers, List.map_append, List.map_singleton, Table.ofList_append, h.byUnifiedCode_eq,
      h.records_eq]
    rfl

/-- From where it has entered some records, the pass goes on to enter those of the following ones
that have a text. -/
theorem Reached.foldl (h : pass.Reached records) (following : List Record) :
    (following.foldl IndexPass.next pass).Reached (records ++ following.filter (·.text ≠ [])) := by
  induction following generalizing records pass with
  | nil => simpa using h
  | cons record following ih =>
      rw [List.foldl_cons]
      by_cases htext : record.text = []
      · rw [next_of_no_text htext]
        simpa [htext] using ih h
      · simpa [htext] using ih (h.next htext)

/-- The pass enters exactly the records with a text. -/
theorem reached_run (records : List Record) :
    (run records).Reached (records.filter (·.text ≠ [])) :=
  reached_start.foldl records

end IndexPass

namespace Arena

variable (arena : Arena)

/-- The first code point of a text that is not empty, whatever would stand for it otherwise. -/
theorem leading_unit_eq (id : arena.Id) :
    arena.leadingUnit id = (arena.record id).text.headD 0 := by
  show (arena.text id).head (arena.text_id_ne_nil id) = (arena.text id).headD 0
  rw [List.headD_eq_head?_getD, List.head?_eq_some_head (arena.text_id_ne_nil id)]
  rfl

/-- The table of short codes is what the records contribute under their places. -/
theorem map_short_code_table :
    arena.shortCodeTable.map Fin.val
      = Table.ofList (arena.records.toList.zipIdx.flatMap IndexPass.codePairs) := by
  rw [shortCodeTable, Table.map_ofList, List.map_flatMap, List.flatMap_def, List.flatMap_def,
    ← map_ids]
  simp only [IndexPass.codePairs, List.map_map, Function.comp_def]

/-- The table of unified codes is what the records contribute under their places. -/
theorem map_unified_code_table :
    arena.unifiedCodeTable.map Fin.val
      = Table.ofList (arena.records.toList.zipIdx.map IndexPass.unifiedPair) := by
  rw [unifiedCodeTable, Table.map_ofList, List.map_map, ← map_ids]
  rfl

/-- Sorting numbers by lengths that are looked up under them gives the numbers in the order of their
texts. -/
theorem map_longest_first {pass : IndexPass} (h : pass.records = arena.records.toList)
    (ids : List arena.Id) :
    (arena.longestFirst ids).map Fin.val
      = (ids.map Fin.val).mergeSort fun i j => pass.lengthAt j ≤ pass.lengthAt i := by
  have hlength : ∀ id : arena.Id, pass.lengthAt id.val = (arena.text id).length := by
    intro id
    rw [IndexPass.lengthAt, h]
    simp [text, record]
  refine List.map_mergeSort ?_
  intro i _ j _
  rw [hlength, hlength]

/-- The table of leading units is what the records contribute under their places, sorted. -/
theorem map_leading_unit_table {pass : IndexPass} (h : pass.Reached arena.records.toList) :
    arena.leadingUnitTable.map (List.map Fin.val) = pass.longestFirst := by
  have hgroup :
      (Table.group (arena.ids.map fun id => (arena.leadingUnit id, id))).map (List.map Fin.val)
        = pass.byLeadingUnit := by
    rw [h.byLeadingUnit_eq, Table.map_group, List.map_map, ← map_ids]
    simp only [Function.comp_def, leading_unit_eq]
    rfl
  rw [IndexPass.longestFirst, ← hgroup, leadingUnitTable, Table.map_map, Table.map_map]
  congr 1
  funext ids
  exact arena.map_longest_first h.records_eq ids

end Arena

/-- After a pass over the records, the tables are those of their index. -/
theorem index_pass_eq (records : List Record) :
    let pass := IndexPass.run records
    let index := Index.ofRecords records
    pass.records = index.records.toList ∧
      pass.longestFirst = index.byLeadingUnit.map (List.map Fin.val) ∧
      pass.byShortCode = index.byShortCode.map Fin.val ∧
      pass.byUnifiedCode = index.byUnifiedCode.map Fin.val ∧
      Text.sorted pass.byShortCode.keys = index.shortCodes := by
  intro pass index
  have hreached : pass.Reached index.records.toList := IndexPass.reached_run records
  have hcodes : pass.byShortCode = index.byShortCode.map Fin.val :=
    hreached.byShortCode_eq.trans index.map_short_code_table.symm
  refine ⟨hreached.records_eq, ?_, hcodes, ?_, ?_⟩
  · exact (index.map_leading_unit_table hreached).symm
  · exact hreached.byUnifiedCode_eq.trans index.map_unified_code_table.symm
  · rw [hcodes, Table.keys_map]
    rfl

namespace IndexPass

/-- Every number in the tables is that of one of so many records. -/
structure Bounded (pass : IndexPass) (count : Nat) : Prop where
  leadingUnit : ∀ unit ids, pass.longestFirst.find? unit = some ids → ∀ id ∈ ids, id < count
  shortCode : ∀ key id, pass.byShortCode.find? key = some id → id < count
  unifiedCode : ∀ key id, pass.byUnifiedCode.find? key = some id → id < count

/-- The pass enters no number in a table that is not the number of a record. -/
theorem bounded_run (records : List Record) :
    (run records).Bounded (Index.ofRecords records).size := by
  obtain ⟨_, hunits, hshort, hunified, _⟩ := index_pass_eq records
  refine ⟨?_, ?_, ?_⟩
  · intro unit ids hfind id hid
    rw [hunits, Table.find?_map, Option.map_eq_some_iff] at hfind
    obtain ⟨numbers, _, rfl⟩ := hfind
    obtain ⟨number, _, rfl⟩ := List.mem_map.1 hid
    exact number.isLt
  · intro key id hfind
    rw [hshort, Table.find?_map, Option.map_eq_some_iff] at hfind
    obtain ⟨number, _, rfl⟩ := hfind
    exact number.isLt
  · intro key id hfind
    rw [hunified, Table.find?_map, Option.map_eq_some_iff] at hfind
    obtain ⟨number, _, rfl⟩ := hfind
    exact number.isLt

end IndexPass

end EmojiText
