import EmojiText.Proofs.Dataset.Findable
import EmojiText.Proofs.Handle.Resolve
import EmojiText.Proofs.Index.LeadingUnit
import EmojiText.Proofs.Index.Records
import EmojiText.Proofs.Text.Case

/-!
# What a load guarantees

Whatever the entries of a dataset are like, each record that is made of them has all that an index
and its handles need: short codes, a text within the bounds of a code, and a unified code. So no
record is lost on the way: the index numbers them in the order in which they were loaded, the scan
looks at each of them as a candidate for its first code point, and each has a handle. The main
statement is `records_complete_and_indexed`.
-/

namespace EmojiText

/-- The record has all that is needed of it: it can be found, it has a short code and a unified
code, and its text is no longer than a code may list. -/
structure Record.Complete (record : Record) : Prop extends record.Findable where
  short_codes_ne_nil : record.shortCodes ≠ []
  length_text_le : record.text.length ≤ 9
  unified_code_ne_nil : record.unifiedCode ≠ []

/-- Of two texts that may be missing, none is taken only if both are missing or empty. -/
theorem or_text_eq_nil_iff {first second : Option Text} :
    (orText first second).getD [] = [] ↔ first.getD [] = [] ∧ second.getD [] = [] := by
  rcases first with _ | _ | ⟨c, rest⟩ <;> simp [orText]

namespace Entry

variable {entry : Entry} {shortCode : Option Text} {record : Record} {text : Text}

/-- An entry whose code lists code points has a unified code: if only the code without variation
selectors is there, it takes its place. -/
theorem unified_code_ne_nil (h : entry.text = .ok text) : entry.unifiedCode ≠ [] := by
  obtain ⟨code, hcode, hpoints⟩ := text_eq_ok.1 h
  have hne : (orText entry.nonQualified entry.unified).getD [] ≠ [] := by
    rw [show orText entry.nonQualified entry.unified = some code from hcode]
    rintro rfl
    cases hpoints
  rw [unifiedCode, Ne, Text.uppercase_eq_nil_iff, or_text_eq_nil_iff, and_comm]
  rwa [Ne, or_text_eq_nil_iff] at hne

/-- The record that an entry makes has all that is needed of it. -/
theorem complete_of_record (h : (entry.record shortCode).value = some record) :
    record.Complete := by
  have hfindable := findable_of_record h
  obtain ⟨hcodes, text, htext, rfl⟩ := record_eq_some.1 h
  obtain ⟨code, _, hpoints⟩ := text_eq_ok.1 htext
  obtain ⟨_, hlength, _⟩ := Code.scalar_of_code_points hpoints
  exact ⟨hfindable, hcodes, hlength, unified_code_ne_nil htext⟩

end Entry

/-- Every record of a dataset that loads has all that is needed of it. -/
theorem Dataset.Loads.complete {records : List Record} (h : Loads records) :
    ∀ record ∈ records, record.Complete := by
  have hmade : ∀ (entry : Entry) (shortCode : Option Text) (record : Record),
      (entry.record shortCode).value = some record → record.Complete :=
    fun _ _ _ => Entry.complete_of_record
  cases h with
  | entries names source entries => exact of_entries hmade entries
  | data hload => exact of_load hmade hload
  | file hload => exact of_load_file hmade hload

namespace Index

variable {records : List Record}

/-- Records that all have a text are all indexed. -/
theorem records_of_all_texts (h : ∀ record ∈ records, record.text ≠ []) :
    (ofRecords records).records.toList = records := by
  rw [records_of_records, List.filter_eq_self]
  intro record hmem
  simpa using h record hmem

/-- Their numbers are their places. -/
theorem exists_id_at (h : ∀ record ∈ records, record.text ≠ []) {place : Nat} {record : Record}
    (hplace : records[place]? = some record) :
    ∃ id : (ofRecords records).Id, id.val = place ∧ (ofRecords records).record id = record := by
  rw [← records_of_all_texts h, Array.getElem?_toList, Array.getElem?_eq_some_iff] at hplace
  obtain ⟨hlt, hrecord⟩ := hplace
  exact ⟨⟨place, hlt⟩, rfl, hrecord⟩

/-- A record is a candidate for the first code point of its text. -/
theorem Built.mem_candidates_of_text {index : Index} (h : index.Built) {id : index.Id}
    {unit : CodePoint} {rest : Text} (htext : (index.record id).text = unit :: rest) :
    id ∈ index.candidates unit := by
  refine h.mem_candidates.2 ?_
  have hhead : (index.text id).head? = some (index.leadingUnit id) :=
    List.head?_eq_some_head (index.text_id_ne_nil id)
  rw [Arena.text, htext] at hhead
  exact (Option.some.inj hhead).symm

end Index

/-- Every record that raw entries make is complete, whatever names the tones have. The index of the
records holds them all under their places in the order of loading, each is a candidate for the first
code point of its text, and resolving handles gives each place the handle of its record and no other
place any. -/
theorem records_complete_and_indexed (names : ToneNames) (source : Text) (raws : List RawEntry) :
    let records := (Dataset.ofEntries names source raws).value
    let index := (Index.build records).value
    (∀ record ∈ records, record.Complete) ∧
    index.size = records.length ∧
    (∀ (place : Nat) (record : Record), records[place]? = some record →
      ∃ id : index.Id, id.val = place ∧ index.record id = record ∧
        ∃ unit rest, record.text = unit :: rest ∧ id ∈ index.candidates unit) ∧
    ∀ chosen addresses scale, ∃ handles,
      (Handle.resolve index chosen addresses scale).outcome = .ok handles ∧
      ∀ (place : Nat) (handle : Handle), handles[place]? = some handle ↔
        ∃ record, records[place]? = some record ∧
          Handle.ofRecord record chosen addresses scale = .ok handle := by
  intro records index
  have hcomplete : ∀ record ∈ records, record.Complete :=
    (Dataset.Loads.entries names source raws).complete
  have htexts : ∀ record ∈ records, record.text ≠ [] :=
    fun record hmem => (hcomplete record hmem).text_ne_nil
  have hindexed : index.records.toList = records := Index.records_of_all_texts htexts
  refine ⟨hcomplete, ?_, ?_, ?_⟩
  · rw [Index.size, ← Array.length_toList, hindexed]
  · intro place record hplace
    obtain ⟨id, hid, hrecord⟩ := Index.exists_id_at htexts hplace
    obtain ⟨unit, rest, htext⟩ :=
      List.exists_cons_of_ne_nil (htexts record (List.mem_of_getElem? hplace))
    refine ⟨id, hid, hrecord, unit, rest, htext, ?_⟩
    exact (Index.built_of_records records).mem_candidates_of_text (hrecord ▸ htext)
  · intro chosen addresses scale
    obtain ⟨handles, hhandles⟩ : ∃ handles,
        (Handle.resolve index chosen addresses scale).outcome = .ok handles :=
      Handle.exists_outcome_resolve.2 fun record hmem =>
        (hcomplete record (Index.mem_of_mem_records hmem)).short_codes_ne_nil
    have haligned := Handle.forall2_outcome_resolve hhandles
    rw [hindexed] at haligned
    refine ⟨handles, hhandles, fun place handle => ?_⟩
    rw [← Array.getElem?_toList, List.getElem?_eq_some_iff]
    constructor
    · rintro ⟨hlt, rfl⟩
      have hplace : place < records.length := haligned.length_eq ▸ hlt
      exact ⟨records[place], List.getElem?_eq_getElem hplace, haligned.get hplace hlt⟩
    · rintro ⟨record, hrecord, hhandle⟩
      obtain ⟨hplace, rfl⟩ := List.getElem?_eq_some_iff.1 hrecord
      have hlt : place < handles.toList.length := haligned.length_eq ▸ hplace
      exact ⟨hlt, Except.ok.inj ((haligned.get hplace hlt).symm.trans hhandle)⟩

/-- An entry without short codes is dropped. The next one has an empty short code, no full code and
a variation whose tone has an empty name; its two records are complete and have the first numbers.
-/
theorem records_complete_and_indexed_behind_dropped :
    let names : ToneNames := Table.ofList [("1F3FB", "")]
    let variation : Json := .object [("unified", .string "1F44D-1F3FB")]
    let entry : Json := .object [
      ("short_names", .array [.string "", .string "a"]), ("unified", .string ""),
      ("non_qualified", .string "1f44d"), ("skin_variations", .object [("1f3fb", variation)])]
    let raws : List RawEntry := [.value (.object []), .value entry]
    let base : Record := ⟨["a"], "1F44D", [0x1F44D], some "1f44d", ∅⟩
    let variant : Record := ⟨["a_"], "1F44D-1F3FB", [0x1F44D, 0x1F3FB], none, ∅⟩
    let records := [base, variant]
    let index := (Index.build records).value
    ((Dataset.ofEntries names "a" raws).value = records ∧ base.Complete ∧ variant.Complete) ∧
    (records[1]? = some variant ∧
      ∃ id : index.Id, id.val = 1 ∧ index.record id = variant ∧ id ∈ index.candidates 0x1F44D) ∧
    ∃ handles handle, (Handle.resolve index .apple ∅ Handle.defaultScale).outcome = .ok handles ∧
      handles[1]? = some handle ∧ handle.name = variant.text := by
  intro names variation entry raws base variant records index
  have hloaded : (Dataset.ofEntries names "a" raws).value = records := by decide +kernel
  obtain ⟨hcomplete, _, hplaces, hhandles⟩ := records_complete_and_indexed names "a" raws
  rw [hloaded] at hcomplete hplaces hhandles
  have hplace : records[1]? = some variant := rfl
  refine ⟨⟨hloaded, hcomplete base (by simp [records]), hcomplete variant (by simp [records])⟩,
    ⟨hplace, ?_⟩, ?_⟩
  · obtain ⟨id, hid, hrecord, unit, rest, htext, hcandidate⟩ := hplaces 1 variant hplace
    obtain rfl : 0x1F44D = unit := (List.cons.inj htext).1
    exact ⟨id, hid, hrecord, hcandidate⟩
  · obtain ⟨handles, hresolved, hplaced⟩ := hhandles .apple ∅ Handle.defaultScale
    obtain ⟨handle, hhandle⟩ := Handle.exists_of_record.2 (hcomplete variant
      (by simp [records])).short_codes_ne_nil
    refine ⟨handles, handle, hresolved, (hplaced 1 handle).2 ⟨variant, hplace, hhandle⟩, ?_⟩
    cases hhandle
    rfl

end EmojiText
