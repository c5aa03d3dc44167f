import EmojiText.Dataset

/-!
# The records of a dataset

An entry makes its own record and one for each variation, which is what the variation would make as
an entry of its own: `Entry.records` lists them, and `value_of_entries` says that the records of a
dataset are those of its entries, one after the other. All of them are made by `Entry.record`. So
what holds of everything that `Entry.record` makes holds of every record that a load gives; that is
`of_load`, and `of_load_file` for files. Resolving handles needs it of `Entry.short_codes_ne_nil`:
no record lacks a short code.
-/

namespace EmojiText

/-- The name of a key lists its known tones; a key without any has no name. -/
theorem ToneNames.value_name_of (names : ToneNames) (key : Text) :
    (ExceptT.run (names.nameOf key)).value
      = match names.known key with
        | [] => .error (.unknownTones key)
        | known => .ok (Text.join [hyphen] known) := by
  show (names.nameOf key).outcome = _
  rw [nameOf, Attempt.outcome_bind]
  cases names.known key <;> rfl

namespace Entry

section

variable {entry : Entry} {shortCode : Option Text} {record : Record} {text : Text}

/-- The text of an entry comes from its code. -/
theorem text_eq_ok :
    entry.text = .ok text ↔ ∃ code, entry.code = some code ∧ Code.codePoints code = .ok text := by
  cases hcode : entry.code <;> simp [Entry.text, hcode, Code.codePoints?]

/-- The record of an entry has its short codes and its text, and there is one only if there are
both. -/
theorem record_eq_some :
    (entry.record shortCode).value = some record ↔
      entry.shortCodes shortCode ≠ [] ∧
      ∃ text, entry.text = .ok text ∧
        entry.recordWith (entry.shortCodes shortCode) text = record := by
  unfold Entry.record decodedText
  cases entry.shortCodes shortCode with
  | nil => simp
  | cons primary others =>
      cases entry.text with
      | error fault =>
          show (none : Option Record) = some record ↔ _
          simp
      | ok text =>
          show some (entry.recordWith (primary :: others) text) = some record ↔ _
          simp

/-- An entry makes no record without a short code. -/
theorem short_codes_ne_nil (h : (entry.record shortCode).value = some record) :
    record.shortCodes ≠ [] := by
  obtain ⟨hcodes, text, _, rfl⟩ := record_eq_some.1 h
  exact hcodes

end

/-- The short name after which variations are named: the first one that is not empty. -/
def primaryName (entry : Entry) : Text := (entry.shortNames.find? (· ≠ [])).getD []

/-- The unified code of an entry in the letter case in which it is written. -/
def writtenCode (entry : Entry) : Text := (orText entry.unified entry.nonQualified).getD []

/-- The record that an entry makes, its variations apart. -/
def base? (entry : Entry) : Option Record := (entry.record none).value

/-- The entry with one short name and without variations. -/
def alone (entry : Entry) (shortName : Text) : Entry :=
  { entry with shortNames := [shortName], skinVariations := [] }

variable (names : ToneNames)

/-- A variation as an entry of its own, named after the primary name of an entry and after its
tones. There is none if the key has no known tone or the value is no entry. -/
def ofVariation? (primary : Text) : Text × Json → Option Entry
  | (key, raw) =>
    match names.known key with
    | [] => none
    | known =>
      (ofRaw (.value raw)).value.map fun variation =>
        variation.alone (primary ++ "_" ++ Text.join [ToneNames.hyphen] known)

/-- The record that a variation makes as an entry of its own. -/
def variationRecord? (primary : Text) (variation : Text × Json) : Option Record :=
  (ofVariation? names primary variation).bind base?

/-- The records of an entry: its own, and those of its variations in the order of their keys. -/
def records (entry : Entry) : List Record :=
  match entry.base? with
  | none => []
  | some base => base :: entry.skinVariations.filterMap (variationRecord? names entry.primaryName)

variable {entry : Entry} {base : Record}

/-- Variations are named after the short code that stands for the record of their entry. -/
theorem primary_short_code (h : entry.base? = some base) :
    base.primaryShortCode?.getD [] = entry.primaryName := by
  obtain ⟨_, text, _, rfl⟩ := record_eq_some.1 h
  show ((entry.shortNames.filter (· ≠ [])).head?).getD [] = _
  rw [List.head?_filter]
  rfl

/-- A given short code makes the record of the entry with this short name alone. -/
theorem record_some {code : Text} (hne : code ≠ []) :
    entry.record (some code) = (entry.alone code).record none := by
  cases code with
  | nil => exact absurd rfl hne
  | cons c rest => rfl

end Entry

/-- The records of a raw entry: none if it holds no entry. -/
def RawEntry.records (names : ToneNames) (raw : RawEntry) : List Record :=
  ((Entry.ofRaw raw).value.map (Entry.records names)).getD []

namespace Dataset

section

variable {names : ToneNames}

/-- A variation makes the record that it makes as an entry of its own. -/
theorem value_variant (primary key : Text) (raw : Json) :
    (variant primary names key raw).value = Entry.variationRecord? names primary (key, raw) := by
  simp only [variant, Logged.value_bind, names.value_name_of, Entry.variationRecord?,
    Entry.ofVariation?]
  cases names.known key with
  | nil => rfl
  | cons tone tones =>
      have hne : ∀ toneName : Text, variantShortCode primary toneName ≠ [] := by
        simp [variantShortCode, Text.ofString]
      simp only [Logged.value_bind]
      cases (Entry.ofRaw (.value raw)).value with
      | none => rfl
      | some own => exact congrArg Logged.value (Entry.record_some (hne _))

/-- Variations make their records in the order of their keys. -/
theorem value_variants (primary : Text) (variations : List (Text × Json)) :
    (variants primary names variations).value
      = variations.filterMap (Entry.variationRecord? names primary) := by
  induction variations with
  | nil => rfl
  | cons variation rest ih =>
      obtain ⟨key, raw⟩ := variation
      simp only [variants, Logged.value_bind, Logged.value_map, value_variant, ih,
        List.filterMap_cons]
      cases Entry.variationRecord? names primary (key, raw) <;> rfl

/-- A raw entry makes its records. -/
theorem value_entry_records (raw : RawEntry) :
    (entryRecords names raw).value.getD [] = raw.records names := by
  simp only [entryRecords, RawEntry.records, Logged.value_bind]
  cases (Entry.ofRaw raw).value with
  | none => rfl
  | some entry =>
      simp only [Logged.value_bind, Option.map_some, Option.getD_some, Entry.records]
      cases hbase : entry.base? with
      | none =>
          rw [show (entry.record none).value = none from hbase]
          rfl
      | some base =>
          rw [show (entry.record none).value = some base from hbase]
          simp [Entry.primary_short_code hbase, value_variants]

/-- The records of a dataset are those of its raw entries one after the other. -/
theorem value_of_entries (source : Text) (raws : List RawEntry) :
    (ofEntries names source raws).value = raws.flatMap (RawEntry.records names) := by
  have hgroups : ((recordGroups names raws).value.filterMap id).flatten
      = raws.flatMap (RawEntry.records names) := by
    induction raws with
    | nil => rfl
    | cons raw rest ih =>
        rw [List.flatMap_cons, ← ih, ← value_entry_records]
        simp only [recordGroups, Logged.value_bind, Logged.value_map, List.filterMap_cons]
        cases (entryRecords names raw).value <;> rfl
  exact hgroups

end

/-! ### What holds of every record -/

variable {P : Record → Prop}
  (hmade : ∀ (entry : Entry) (shortCode : Option Text) (record : Record),
    (entry.record shortCode).value = some record → P record)
include hmade

/-- What holds of made records holds of those of an entry. -/
theorem of_entry {names : ToneNames} {entry : Entry} :
    ∀ record ∈ entry.records names, P record := by
  intro record hmem
  unfold Entry.records at hmem
  split at hmem
  · cases hmem
  · rename_i hbase
    rcases List.mem_cons.1 hmem with rfl | hmem
    · exact hmade entry none _ hbase
    · obtain ⟨variation, _, hvariation⟩ := List.mem_filterMap.1 hmem
      obtain ⟨own, _, hown⟩ := Option.bind_eq_some_iff.1 hvariation
      exact hmade own none record hown

/-- What holds of made records holds of those of a list of raw entries. -/
theorem of_entries {names : ToneNames} {source : Text} (entries : List RawEntry) :
    ∀ record ∈ (ofEntries names source entries).value, P record := by
  intro record hmem
  rw [value_of_entries] at hmem
  obtain ⟨raw, _, hrecord⟩ := List.mem_flatMap.1 hmem
  unfold RawEntry.records at hrecord
  cases hentry : (Entry.ofRaw raw).value with
  | none =>
      rw [hentry] at hrecord
      cases hrecord
  | some entry =>
      rw [hentry] at hrecord
      exact of_entry hmade record hrecord

/-- What holds of made records holds of those of a dataset that is read. -/
theorem of_load {names : ToneNames} {source : Text} {data : DatasetSource} {room : Nat}
    {records : List Record} (h : (load names source data room).outcome = .ok records) :
    ∀ record ∈ records, P record := by
  rw [load, Attempt.outcome_bind] at h
  cases hitems : (items source data room).outcome with
  | error failure =>
      rw [hitems] at h
      cases h
  | ok items =>
      rw [hitems] at h
      cases h
      exact of_entries hmade _

/-- What holds of made records holds of those of a file that is read. -/
theorem of_load_file {names : ToneNames} {files : FileTree} {path : Path} {room : Nat}
    {records : List Record} (h : (loadFile names files path room).outcome = .ok records) :
    ∀ record ∈ records, P record := by
  unfold loadFile at h
  split at h
  · exact of_load hmade h
  · simp only [Attempt.announce, Attempt.outcome_bind] at h
    cases h
  · cases h

end Dataset

end EmojiText
