import EmojiText.Proofs.Code.Canonical
import EmojiText.Proofs.Dataset.Flattening
import EmojiText.Proofs.Handle.Resolve
import EmojiText.Proofs.Index.UnifiedCode

/-!
# Which records have canonical codes

The text of a record is decoded from a code that is trimmed and read leniently, and from the one
without variation selectors if there is one. Its key is the full code as it was written, in upper
case, and nothing else is asked of it. So a record has a canonical code exactly if its entry writes
a plain one, and the same goes for the keys of the index and for the addresses of images. The main
statement is `canonical_iff_plain`; `record_not_canonical` has records of entries that write other
codes.
-/

namespace EmojiText

namespace Entry

variable {names : ToneNames} {entry own : Entry} {record : Record}

/-- The key of a record is the upper-case form of the code that its entry writes. -/
theorem unified_code_of_base (h : entry.base? = some record) :
    record.unifiedCode = entry.writtenCode.uppercase := by
  obtain ⟨_, text, _, rfl⟩ := record_eq_some.1 h
  rfl

/-- The entries that an entry is taken apart into make at most one record each. -/
theorem records_of_mem_flattened (h : own ∈ entry.flattened names) :
    own.records names = own.base?.toList := by
  unfold flattened at h
  split at h
  · rename_i hnone
    rw [List.mem_singleton.1 h, records, hnone]
    rfl
  · rcases List.mem_cons.1 h with rfl | hvariation
    · exact records_of_no_variations rfl
    · obtain ⟨_, _, hown⟩ := List.mem_filterMap.1 hvariation
      exact records_of_variation hown

/-- The records of an entry are those that the entries it is taken apart into make. -/
theorem records_eq_filter_map : entry.records names = (entry.flattened names).filterMap base? := by
  rw [← records_flattened, List.filterMap_eq_flatMap_toList]
  exact List.flatMap_congr fun own h => records_of_mem_flattened h

end Entry

/-- The entries of which a raw entry makes records, each at most one. -/
def RawEntry.flattened (names : ToneNames) (raw : RawEntry) : List Entry :=
  ((Entry.ofRaw raw).value.map (Entry.flattened names)).getD []

namespace Dataset

/-- The records of a dataset are those that its entries make, taken apart. -/
theorem value_of_entries_eq_filter_map (names : ToneNames) (source : Text) (raws : List RawEntry) :
    (ofEntries names source raws).value
      = (raws.flatMap (RawEntry.flattened names)).filterMap Entry.base? := by
  have hraw : ∀ raw : RawEntry,
      raw.records names = (raw.flattened names).filterMap Entry.base? := by
    intro raw
    unfold RawEntry.records RawEntry.flattened
    cases (Entry.ofRaw raw).value with
    | none => rfl
    | some entry => exact Entry.records_eq_filter_map
  rw [value_of_entries, List.filterMap_flatMap]
  exact List.flatMap_congr fun raw _ => hraw raw

/-- The records of a dataset are those that its entries and their variations make. The code of each
is the upper-case form of the written one, so it is canonical exactly if the written one is plain,
and so is its lower-case form. The keys of the index are canonical exactly if the codes of all
records are, and the address of an image ends with the lower-case form of the code of its record. -/
theorem canonical_iff_plain (names : ToneNames) (source : Text) (raws : List RawEntry) :
    let entries := raws.flatMap (RawEntry.flattened names)
    let records := (ofEntries names source raws).value
    let index := (Index.build records).value
    records = entries.filterMap Entry.base? ∧
    (∀ (entry : Entry) (record : Record), entry.base? = some record →
      record.unifiedCode = entry.writtenCode.uppercase ∧
      (Code.Canonical record.unifiedCode ↔ Code.Plain entry.writtenCode) ∧
      (Code.Joined Code.smallDigits record.unifiedCode.lowercase ↔ Code.Plain entry.writtenCode)) ∧
    ((∀ key ∈ index.byUnifiedCode.keys, Code.Canonical key) ↔
      ∀ record ∈ records, Code.Canonical record.unifiedCode) ∧
    ∀ (chosen : Platform) (addresses : ImageAddresses) (scale : Binary64) (handles : Array Handle),
      (Handle.resolve index chosen addresses scale).outcome = .ok handles →
      List.Forall₂ (fun (record : Record) (handle : Handle) => ∃ platform,
          handle.url = addresses.of platform ++ record.unifiedCode.lowercase ++ ".png")
        records handles.toList := by
  intro entries records index
  have htexts : ∀ record ∈ records, record.text ≠ [] :=
    fun record hmem => ((Loads.entries names source raws).findable record hmem).text_ne_nil
  have hindex : index.records.toList = records := Index.records_of_all_texts htexts
  refine ⟨value_of_entries_eq_filter_map names source raws, ?_, ?_, ?_⟩
  · intro entry record hbase
    have hcode := Entry.unified_code_of_base hbase
    have hcanonical : Code.Canonical record.unifiedCode ↔ Code.Plain entry.writtenCode := by
      rw [hcode]
      exact Code.canonical_uppercase_iff
    have hupper : record.unifiedCode.uppercase = record.unifiedCode := by
      rw [hcode, Text.uppercase_uppercase]
    exact ⟨hcode, hcanonical, (Code.canonical_iff_lowercase hupper).symm.trans hcanonical⟩
  · have hbuilt : index.Built := Index.built_of_records records
    simp only [hbuilt.mem_keys_unified_code, ← Array.mem_toList_iff, hindex]
    constructor
    · intro hkeys record hmem
      exact hkeys record.unifiedCode ⟨record, hmem, rfl⟩
    · rintro hrecords _ ⟨record, hmem, rfl⟩
      exact hrecords record hmem
  · intro chosen addresses scale handles hresolved
    have hhandles := Handle.forall2_outcome_resolve hresolved
    rw [hindex] at hhandles
    refine hhandles.imp ?_
    intro record handle hrecord
    unfold Handle.ofRecord at hrecord
    split at hrecord
    · cases hrecord
    · cases hrecord
      exact ⟨Handle.platformFor record chosen, rfl⟩

/-- A plain code with the ligature in place of two digits, beside one without variation selectors,
and a code with blanks around it, a mark and an underscore. -/
theorem canonical_iff_plain_of_two :
    let entry (name code : Text) (other : Option Text) : Entry := ⟨[name], code, other, ∅, []⟩
    let plain := entry "a" "1ﬀ-200d" "31"
    let loose := entry "b" " 0x1f_604 " none
    let raws : List RawEntry := [.entry plain, .entry loose]
    let records : List Record := [⟨["a"], "1FF-200D", [0x31], some "31", ∅⟩,
      ⟨["b"], " 0X1F_604 ", [0x1F604], none, ∅⟩]
    let index := (Index.build records).value
    ((ofEntries ∅ "data" raws).value = records ∧ plain.base? = records[0]? ∧
      loose.base? = records[1]?) ∧
    (Code.Canonical "1FF-200D" ∧ ¬ Code.Canonical " 0X1F_604 ") ∧
    (¬ ∀ key ∈ index.byUnifiedCode.keys, Code.Canonical key) ∧
    ∃ handles handle platform,
      (Handle.resolve index .apple ∅ Handle.defaultScale).outcome = .ok handles ∧
      handles.toList[1]? = some handle ∧
      handle.url = ImageAddresses.of ∅ platform ++ " 0x1f_604 .png" := by
  intro entry plain loose raws records index
  have hvalue : (ofEntries ∅ "data" raws).value = records := by decide +kernel
  have hplain : plain.base? = records[0]? := by decide +kernel
  have hloose : loose.base? = records[1]? := by decide +kernel
  obtain ⟨_, hmade, hkeys, hhandles⟩ := canonical_iff_plain ∅ "data" raws
  rw [hvalue] at hkeys hhandles
  have hcanonical : Code.Canonical "1FF-200D" :=
    (hmade plain _ hplain).2.1.2 (by decide +kernel)
  have hnot : ¬ Code.Canonical " 0X1F_604 " :=
    (hmade loose _ hloose).2.1.not.2 (by decide +kernel)
  refine ⟨⟨hvalue, hplain, hloose⟩, ⟨hcanonical, hnot⟩, ?_, ?_⟩
  · intro hall
    exact hnot (hkeys.1 hall ⟨["b"], " 0X1F_604 ", [0x1F604], none, ∅⟩ (by simp [records]))
  · have hcodes : ∀ record ∈ index.records, record.shortCodes ≠ [] := by decide +kernel
    obtain ⟨handles, hresolved⟩ := Handle.exists_outcome_resolve.2 hcodes
    have hpairs := hhandles .apple ∅ Handle.defaultScale handles hresolved
    have hlt : 1 < handles.toList.length := by
      rw [← hpairs.length_eq]
      decide
    obtain ⟨platform, hurl⟩ := hpairs.get (by decide : 1 < records.length) hlt
    refine ⟨handles, handles.toList[1], platform, hresolved, List.getElem?_eq_getElem hlt,
      hurl.trans ?_⟩
    have hlower : Text.lowercase " 0X1F_604 " = " 0x1f_604 " := by decide +kernel
    show ImageAddresses.of ∅ platform ++ Text.lowercase " 0X1F_604 " ++ ".png" = _
    rw [hlower, List.append_assoc]
    rfl

/-- A dataset can be loaded although none of its records has a canonical code: blanks, a mark and an
underscore stay in the code of the first, and the second has its text from another code. -/
theorem record_not_canonical :
    let loose : Json := .object [("short_names", .array [.string "a"]),
      ("unified", .string " 0x1f_604 ")]
    let other : Json := .object [("short_names", .array [.string "b"]),
      ("unified", .string "not-hex"), ("non_qualified", .string "2764")]
    let records := (ofEntries ∅ "data" [.value loose, .value other]).value
    records = [⟨["a"], " 0X1F_604 ", [0x1F604], none, ∅⟩,
        ⟨["b"], "NOT-HEX", [0x2764], some "2764", ∅⟩] ∧
      ∀ record ∈ records, ¬ Code.Canonical record.unifiedCode := by
  intro loose other records
  have hvalue : records = [⟨["a"], " 0X1F_604 ", [0x1F604], none, ∅⟩,
      ⟨["b"], "NOT-HEX", [0x2764], some "2764", ∅⟩] := by decide +kernel
  refine ⟨hvalue, ?_⟩
  rw [hvalue]
  decide +kernel

end Dataset

end EmojiText
