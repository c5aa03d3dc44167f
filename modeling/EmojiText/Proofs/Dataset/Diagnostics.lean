import EmojiText.Proofs.Dataset.Records
import Mathlib

/-!
# What a load says about what it drops

A load decides on one candidate after the other: on each raw entry, and after an entry that makes a
record on each of its variations. A candidate either makes a record or is warned about, once, and
nothing else is as severe as a warning. `Candidate.Decides` says so of the step that decides on a
candidate, and the log of a load is made up of these steps and a report at its end. So warnings and
records together count the candidates; the main statement is `drops_accounted_for`.
-/

namespace EmojiText

/-! ### Candidates -/

namespace RawEntry

/-- The entry that a raw one holds, if it makes a record. -/
def kept? (raw : RawEntry) : Option Entry :=
  (Entry.ofRaw raw).value.filter fun held => held.base?.isSome

/-- The record of a raw entry with the given short code or else with its own, if it makes one. -/
def make (raw : RawEntry) (shortCode : Option Text) : Logged (Option Record) := do
  match ← Entry.ofRaw raw with
  | none => return none
  | some held => held.record shortCode

/-- What is said about a raw entry that makes no record: that it is no object, what is wrong with
its first faulty member, that it has no short code, or why its code is refused. -/
inductive Warns (raw : RawEntry) (shortCode : Option Text) : Text → Prop
  | notObject {value : Json} (hraw : raw = .value value)
      (hvalue : ∀ members, value ≠ .object members) :
      Warns raw shortCode ("Запись датасета не является объектом: " ++ value.kind)
  | faulty {members : List (Text × Json)} {first : Problem} {others : List Problem}
      (hraw : raw = .value (.object members))
      (hmembers : Entry.ofMembers members = .invalid first others) :
      Warns raw shortCode ("Запись датасета отброшена: " ++ first.kind.message)
  | noShortCode {held : Entry} (hheld : (Entry.ofRaw raw).value = some held)
      (hcodes : held.shortCodes shortCode = []) :
      Warns raw shortCode held.noShortCodeWarning
  | refused {held : Entry} {primary : Text} {others : List Text} {fault : Fault}
      (hheld : (Entry.ofRaw raw).value = some held)
      (hcodes : held.shortCodes shortCode = primary :: others)
      (htext : held.decodedText = .error fault) :
      Warns raw shortCode (Entry.refusedWarning primary fault)

end RawEntry

/-- What a load decides on: a raw entry, or a variation of an entry with the given primary name. -/
inductive Candidate where
  | base (raw : RawEntry)
  | variant (primary key : Text) (raw : Json)

/-- The candidates that a raw entry gives rise to: itself, and the variations of the entry that it
holds if this one makes a record. -/
def RawEntry.candidates (raw : RawEntry) : List Candidate :=
  .base raw :: (raw.kept?.map fun held =>
    held.skinVariations.map fun (key, part) => .variant held.primaryName key part).getD []

namespace Candidate

variable (names : ToneNames)

/-- The record that a candidate makes. -/
def record? : Candidate → Option Record
  | base raw => (Entry.ofRaw raw).value.bind Entry.base?
  | variant primary key raw => Entry.variationRecord? names primary (key, raw)

/-- The step in which a load decides on a candidate. -/
def step : Candidate → Logged (Option Record)
  | base raw => raw.make none
  | variant primary key raw => Dataset.variant primary names key raw

/-- The warning about a candidate that makes no record. -/
inductive Warns : Candidate → LogRecord → Prop
  | base {raw : RawEntry} {message : Text} (h : raw.Warns none message) :
      Warns (.base raw) ⟨.warning, some Entry.origin, message⟩
  | unknownTones {primary key : Text} {raw : Json} (h : names.known key = []) :
      Warns (.variant primary key raw) ⟨.warning, some ToneNames.origin,
        Dataset.unknownTonesWarning key primary (.unknownTones key)⟩
  | variant {primary key message : Text} {raw : Json} (hknown : names.known key ≠ [])
      (h : (RawEntry.value raw).Warns (some (Dataset.variantShortCode primary
        (Text.join [ToneNames.hyphen] (names.known key)))) message) :
      Warns (.variant primary key raw) ⟨.warning, some Entry.origin, message⟩

/-- A step makes a record and writes no warning, or makes none and writes exactly one; whatever else
it writes is for debugging. -/
structure Decides (warns : LogRecord → Prop) (step : Logged (Option Record)) : Prop where
  quiet : ∀ record, step.value = some record → step.log.filter (·.level = .warning) = []
  warned : step.value = none →
    ∃ warning, warns warning ∧ step.log.filter (·.level = .warning) = [warning]
  level : ∀ record ∈ step.log, record.level = .debug ∨ record.level = .warning

variable {names : ToneNames} {warns others : LogRecord → Prop} {step : Logged (Option Record)}

/-- A step that makes a record and writes nothing. -/
theorem decides_of_silent {record : Record} (hvalue : step.value = some record)
    (hlog : step.log = []) : Decides warns step where
  quiet _ _ := by rw [hlog, List.filter_nil]
  warned hnone := by rw [hvalue] at hnone; cases hnone
  level := by rw [hlog]; exact List.forall_mem_nil _

/-- A step that makes no record and writes one warning. -/
theorem decides_of_warning {origin message : Text} (hvalue : step.value = none)
    (hlog : step.log = [⟨.warning, some origin, message⟩])
    (hwarns : warns ⟨.warning, some origin, message⟩) : Decides warns step where
  quiet _ hsome := by rw [hvalue] at hsome; cases hsome
  warned _ := ⟨_, hwarns, by rw [hlog]; rfl⟩
  level := by
    rw [hlog]
    exact List.forall_mem_singleton.2 (.inr rfl)

/-- What is written for debugging in front of a step does not count. -/
theorem Decides.behind (h : Decides warns step) {front : List LogRecord}
    (hfront : ∀ record ∈ front, record.level = .debug) :
    Decides warns ⟨step.value, front ++ step.log⟩ := by
  have hfilter : (front ++ step.log).filter (·.level = .warning)
      = step.log.filter (·.level = .warning) := by
    have hnone : front.filter (·.level = .warning) = [] :=
      List.filter_eq_nil_iff.2 fun record hmem => by simp [hfront record hmem]
    rw [List.filter_append, hnone, List.nil_append]
  refine ⟨fun record hsome => hfilter.trans (h.quiet record hsome), fun hnone => ?_, ?_⟩
  · obtain ⟨warning, hwarns, hlog⟩ := h.warned hnone
    exact ⟨warning, hwarns, hfilter.trans hlog⟩
  · intro record hmem
    rcases List.mem_append.1 hmem with hmem | hmem
    · exact .inl (hfront record hmem)
    · exact h.level record hmem

/-- A warning may be described in more general terms. -/
theorem Decides.imp (h : Decides warns step) (himp : ∀ warning, warns warning → others warning) :
    Decides others step where
  quiet := h.quiet
  warned hnone := (h.warned hnone).imp fun warning hwarning => hwarning.imp_left (himp warning)
  level := h.level

end Candidate

open Candidate (Decides decides_of_silent decides_of_warning)

/-! ### One step -/

/-- Why an entry or a raw one makes no record with a short code, as a warning. -/
def RawEntry.WarnedBy (raw : RawEntry) (shortCode : Option Text) (warning : LogRecord) : Prop :=
  ∃ message, raw.Warns shortCode message ∧ warning = ⟨.warning, some Entry.origin, message⟩

namespace Entry

/-- A raw entry holds one, or a warning tells why not. -/
theorem of_raw_cases (raw : RawEntry) :
    (∃ held, ofRaw raw = pure (some held)) ∨
    ∃ message, (∀ shortCode, raw.Warns shortCode message) ∧
      ofRaw raw = ⟨none, [⟨.warning, some origin, message⟩]⟩ := by
  cases raw with
  | entry held => exact .inl ⟨held, rfl⟩
  | value input =>
      cases input with
      | object members =>
          cases hmembers : ofMembers members with
          | valid held => exact .inl ⟨held, by simp only [ofRaw, hmembers]⟩
          | invalid first others =>
              refine .inr ⟨_, fun _ => .faulty rfl hmembers, ?_⟩
              simp only [ofRaw, hmembers]
              rfl
      | null | bool | int | float | string | array =>
          exact .inr ⟨_, fun _ => .notObject rfl nofun, rfl⟩

/-- An entry makes a record, or a warning tells why not. -/
theorem decides_record {raw : RawEntry} {entry : Entry}
    (hraw : ofRaw raw = pure (some entry)) (shortCode : Option Text) :
    Decides (raw.WarnedBy shortCode) (entry.record shortCode) := by
  have hheld : (ofRaw raw).value = some entry := by rw [hraw]; rfl
  unfold record
  split
  · rename_i hcodes
    exact decides_of_warning rfl rfl ⟨_, .noShortCode hheld hcodes, rfl⟩
  · rename_i primary others hcodes
    split
    · exact decides_of_silent rfl rfl
    · rename_i fault htext
      exact decides_of_warning rfl rfl ⟨_, .refused hheld hcodes htext, rfl⟩

end Entry

/-- A raw entry makes a record, or a warning tells why not. -/
theorem RawEntry.decides_make (raw : RawEntry) (shortCode : Option Text) :
    Decides (raw.WarnedBy shortCode) (raw.make shortCode) := by
  unfold make
  rcases Entry.of_raw_cases raw with ⟨held, hraw⟩ | ⟨message, hwarns, hraw⟩
  · have hdecides := Entry.decides_record hraw shortCode
    rw [hraw]
    exact hdecides
  · rw [hraw]
    exact decides_of_warning rfl rfl ⟨message, hwarns shortCode, rfl⟩

/-- The name of a key is looked for, with a word about each of its unknown parts. -/
theorem ToneNames.run_name_of (names : ToneNames) (key : Text) :
    ExceptT.run (names.nameOf key)
      = ⟨(ExceptT.run (names.nameOf key)).value, names.unknownRecords key⟩ := by
  refine Logged.ext rfl ?_
  unfold nameOf
  cases names.known key <;> exact List.append_nil _

/-- A variation makes a record, or a warning tells why not. -/
theorem Dataset.decides_variant (names : ToneNames) (primary key : Text) (raw : Json) :
    Decides (Candidate.Warns names (.variant primary key raw)) (variant primary names key raw) := by
  have hdebug : ∀ record ∈ names.unknownRecords key, record.level = .debug := by
    intro record hmem
    obtain ⟨_, _, rfl⟩ := List.mem_map.1 hmem
    rfl
  unfold variant
  rw [names.run_name_of, names.value_name_of]
  cases hknown : names.known key with
  | nil => exact (decides_of_warning rfl rfl (.unknownTones hknown)).behind hdebug
  | cons tone tones =>
      have hmake := (RawEntry.value raw).decides_make
        (some (variantShortCode primary (Text.join [ToneNames.hyphen] (tone :: tones))))
      refine (hmake.imp ?_).behind hdebug
      rintro _ ⟨message, hwarns, rfl⟩
      rw [← hknown] at hwarns
      exact .variant (by simp [hknown]) hwarns

/-! ### All steps -/

namespace Candidate

variable {names : ToneNames}

/-- A candidate makes a record, or a warning tells why not. -/
theorem decides_step (names : ToneNames) (candidate : Candidate) :
    Decides (candidate.Warns names) (candidate.step names) := by
  cases candidate with
  | base raw =>
      refine (raw.decides_make none).imp ?_
      rintro _ ⟨message, hwarns, rfl⟩
      exact .base hwarns
  | variant primary key raw => exact Dataset.decides_variant names primary key raw

/-- The step decides on the record of the candidate. -/
theorem value_step (names : ToneNames) (candidate : Candidate) :
    (candidate.step names).value = candidate.record? names := by
  cases candidate with
  | base raw =>
      show (raw.make none).value = _
      rw [RawEntry.make, Logged.value_bind, record?]
      cases (Entry.ofRaw raw).value <;> rfl
  | variant primary key raw => exact Dataset.value_variant primary key raw

/-- Over any candidates, the warnings are those about the ones that make no record. -/
theorem warnings_of_steps (names : ToneNames) (candidates : List Candidate) :
    List.Forall₂ (Warns names) (candidates.filter fun candidate => (candidate.record? names).isNone)
      ((candidates.flatMap fun candidate => (candidate.step names).log).filter
        (·.level = .warning)) := by
  induction candidates with
  | nil => exact .nil
  | cons candidate rest ih =>
      have hdecides := candidate.decides_step names
      rw [List.flatMap_cons, List.filter_append]
      cases hrecord : candidate.record? names with
      | some record =>
          rw [List.filter_cons_of_neg (by simp [hrecord]),
            hdecides.quiet record ((candidate.value_step names).trans hrecord)]
          exact ih
      | none =>
          obtain ⟨warning, hwarns, hlog⟩ :=
            hdecides.warned ((candidate.value_step names).trans hrecord)
          rw [List.filter_cons_of_pos (by simp [hrecord]), hlog]
          exact .cons hwarns ih

/-- Candidates make records or none. -/
theorem length_records_add (names : ToneNames) (candidates : List Candidate) :
    (candidates.filterMap (record? names)).length
        + (candidates.filter fun candidate => (candidate.record? names).isNone).length
      = candidates.length := by
  induction candidates with
  | nil => rfl
  | cons candidate rest ih =>
      cases hrecord : candidate.record? names with
      | some record =>
          rw [List.filterMap_cons_some hrecord, List.filter_cons_of_neg (by simp [hrecord]),
            List.length_cons, List.length_cons, ← ih]
          omega
      | none =>
          rw [List.filterMap_cons_none hrecord, List.filter_cons_of_pos (by simp [hrecord]),
            List.length_cons, List.length_cons, ← ih]
          omega

end Candidate

namespace RawEntry

/-- A raw entry is dropped, or the entry that it holds is kept and makes a record. -/
theorem kept_cases (raw : RawEntry) :
    (raw.kept? = none ∧ (Entry.ofRaw raw).value.bind Entry.base? = none) ∨
    ∃ held base, raw.kept? = some held ∧ (Entry.ofRaw raw).value = some held ∧
      held.base? = some base := by
  cases hraw : (Entry.ofRaw raw).value with
  | none => exact .inl ⟨by rw [kept?, hraw]; rfl, rfl⟩
  | some held =>
      cases hbase : held.base? with
      | none => exact .inl ⟨by simp [kept?, hraw, hbase], hbase⟩
      | some base => exact .inr ⟨held, base, by simp [kept?, hraw, hbase], rfl, hbase⟩

/-- A raw entry that is dropped is the only candidate. -/
theorem candidates_of_dropped {raw : RawEntry} (h : raw.kept? = none) :
    raw.candidates = [.base raw] := by
  rw [candidates, h]
  rfl

/-- The variations of what is kept are candidates behind it. -/
theorem candidates_of_kept {raw : RawEntry} {held : Entry} (h : raw.kept? = some held) :
    raw.candidates = .base raw ::
      held.skinVariations.map fun (key, part) => .variant held.primaryName key part := by
  rw [candidates, h]
  rfl

/-- Each raw entry is a candidate, and so is each variation of what is kept. -/
theorem length_candidates (raws : List RawEntry) :
    (raws.flatMap candidates).length
      = raws.length + ((raws.filterMap kept?).map (·.skinVariations.length)).sum := by
  induction raws with
  | nil => rfl
  | cons raw rest ih =>
      rw [List.flatMap_cons, List.length_append, ih, List.length_cons]
      cases hkept : raw.kept? with
      | none =>
          rw [List.filterMap_cons_none hkept, candidates_of_dropped hkept, List.length_singleton]
          omega
      | some held =>
          rw [List.filterMap_cons_some hkept, candidates_of_kept hkept, List.length_cons,
            List.length_map, List.map_cons, List.sum_cons]
          omega

/-- The records of a raw entry are those of its candidates. -/
theorem records_eq (names : ToneNames) (raw : RawEntry) :
    raw.records names = raw.candidates.filterMap (Candidate.record? names) := by
  rcases raw.kept_cases with ⟨hkept, hbase⟩ | ⟨held, base, hkept, hheld, hbase⟩
  · have hrecord : (Candidate.base raw).record? names = none := hbase
    rw [candidates_of_dropped hkept, List.filterMap_cons_none hrecord, List.filterMap_nil, records]
    cases hraw : (Entry.ofRaw raw).value with
    | none => rfl
    | some held =>
        rw [hraw, Option.bind_some] at hbase
        simp [Entry.records, hbase]
  · have hrecord : (Candidate.base raw).record? names = some base := by
      rw [Candidate.record?, hheld, Option.bind_some, hbase]
    rw [candidates_of_kept hkept, List.filterMap_cons_some hrecord, List.filterMap_map, records,
      hheld]
    simp [Entry.records, hbase, Function.comp_def, Candidate.record?]

end RawEntry

namespace Dataset

variable {names : ToneNames}

/-- The log of variations is that of the steps that decide on them. -/
theorem log_variants (primary : Text) (variations : List (Text × Json)) :
    (variants primary names variations).log
      = variations.flatMap fun (key, raw) => (variant primary names key raw).log := by
  induction variations with
  | nil => rfl
  | cons variation rest ih =>
      obtain ⟨key, raw⟩ := variation
      rw [variants, Logged.log_bind, Logged.log_map, ih, List.flatMap_cons]

/-- Of a raw entry that is dropped nothing is left but what is said about it. -/
theorem entry_records_of_dropped {raw : RawEntry}
    (h : (Entry.ofRaw raw).value.bind Entry.base? = none) :
    entryRecords names raw = ⟨none, (raw.make none).log⟩ := by
  rw [RawEntry.make, Logged.log_bind]
  cases hraw : (Entry.ofRaw raw).value with
  | none => exact Logged.ext (by simp [entryRecords, hraw]) (by simp [entryRecords, hraw])
  | some held =>
      rw [hraw] at h
      have hrecord : (held.record none).value = none := h
      exact Logged.ext (by simp [entryRecords, hraw, hrecord])
        (by simp [entryRecords, hraw, hrecord])

/-- The record of what is kept comes first, and its variations follow. -/
theorem entry_records_of_kept {raw : RawEntry} {held : Entry} {base : Record}
    (hheld : (Entry.ofRaw raw).value = some held) (hbase : held.base? = some base) :
    entryRecords names raw
      = ⟨some (base :: (variants held.primaryName names held.skinVariations).value),
          (raw.make none).log ++ (variants held.primaryName names held.skinVariations).log⟩ := by
  have hrecord : (held.record none).value = some base := hbase
  have hprimary := Entry.primary_short_code hbase
  exact Logged.ext (by simp [entryRecords, hheld, hrecord, hprimary])
    (by simp [entryRecords, RawEntry.make, hheld, hrecord, hprimary])

/-- The log of a raw entry is that of the steps that decide on its candidates. -/
theorem log_entry_records (raw : RawEntry) :
    (entryRecords names raw).log
      = raw.candidates.flatMap fun candidate => (candidate.step names).log := by
  rcases raw.kept_cases with ⟨hkept, hbase⟩ | ⟨held, base, hkept, hheld, hbase⟩
  · rw [entry_records_of_dropped hbase, RawEntry.candidates_of_dropped hkept,
      List.flatMap_singleton]
    rfl
  · rw [entry_records_of_kept hheld hbase, RawEntry.candidates_of_kept hkept, List.flatMap_cons,
      List.flatMap_map, log_variants]
    rfl

/-- The log of raw entries is that of the steps that decide on their candidates. -/
theorem log_record_groups (raws : List RawEntry) :
    (recordGroups names raws).log
      = (raws.flatMap RawEntry.candidates).flatMap fun candidate => (candidate.step names).log := by
  induction raws with
  | nil => rfl
  | cons raw rest ih =>
      rw [recordGroups, Logged.log_bind, Logged.log_map, log_entry_records, ih, List.flatMap_cons,
        List.flatMap_append]

/-- As many raw entries have no records as are dropped. -/
theorem count_dropped (raws : List RawEntry) :
    (recordGroups names raws).value.countP (·.isNone) = raws.countP (·.kept?.isNone) := by
  induction raws with
  | nil => rfl
  | cons raw rest ih =>
      have hnone : (entryRecords names raw).value.isNone = raw.kept?.isNone := by
        rcases raw.kept_cases with ⟨hkept, hbase⟩ | ⟨held, base, hkept, hheld, hbase⟩
        · rw [entry_records_of_dropped hbase, hkept]
          rfl
        · rw [entry_records_of_kept hheld hbase, hkept]
          rfl
      rw [recordGroups, Logged.value_bind, Logged.value_map, List.countP_cons, List.countP_cons, ih,
        hnone]

/-- A load decides on the candidates and reports at the end. -/
theorem log_of_entries (names : ToneNames) (source : Text) (raws : List RawEntry) :
    (ofEntries names source raws).log
      = (raws.flatMap RawEntry.candidates).flatMap (fun candidate => (candidate.step names).log)
        ++ [⟨.info, some origin, loadedMessage (ofEntries names source raws).value.length raws.length
          (raws.countP (·.kept?.isNone)) source⟩] := by
  have hlog : (ofEntries names source raws).log
      = (recordGroups names raws).log
        ++ [⟨.info, some origin, loadedMessage (ofEntries names source raws).value.length raws.length
          ((recordGroups names raws).value.countP (·.isNone)) source⟩] := rfl
  rw [hlog, log_record_groups, count_dropped]

/-- Reading the items of a dataset writes nothing if they can be read. -/
theorem log_items {source : Text} {data : DatasetSource} {room : Nat} {values : List Json}
    (h : (items source data room).outcome = .ok values) : (items source data room).log = [] := by
  have hvalue : ∀ value : Json, (itemsOfValue source value).outcome = .ok values →
      (itemsOfValue source value).log = [] := by
    intro value hvalue
    cases value with
    | array => rfl
    | null | bool | int | float | string | object => cases hvalue
  have hdocument : ∀ document : Json.Source,
      (itemsOfDocument source document room).outcome = .ok values →
        (itemsOfDocument source document room).log = [] := by
    intro document hdocument
    cases hread : Json.ofSource document room with
    | ok value =>
        rw [itemsOfDocument, hread] at hdocument ⊢
        exact hvalue value hdocument
    | error error =>
        rw [itemsOfDocument, hread] at hdocument
        cases error <;> cases hdocument
  cases data with
  | document document => exact hdocument document h
  | value value =>
      cases value with
      | string text => exact hdocument _ h
      | null | bool | int | float | array | object => exact hvalue _ h

/-- A dataset of which the items can be read is loaded like a list of them. -/
theorem run_load_of_items {source : Text} {data : DatasetSource} {room : Nat} {values : List Json}
    (h : (items source data room).outcome = .ok values) :
    (load names source data room).outcome
        = .ok (ofEntries names source (values.map .value)).value ∧
      (load names source data room).log = (ofEntries names source (values.map .value)).log := by
  have hrun : ExceptT.run (items source data room) = ⟨.ok values, []⟩ := Logged.ext h (log_items h)
  refine ⟨?_, ?_⟩
  · rw [load, Attempt.outcome_bind, h]
    rfl
  · rw [Attempt.log, load, ExceptT.run_bind, hrun]
    rfl

/-- A load decides on every raw entry, and on every variation of the entries that it keeps. Those
that make no record are warned about, one by one and in their order, with the reason; no other
record in the log is as severe as a warning. So records and warnings together are as many as raw
entries and variations of kept ones. The last record of the log, and no other of its level, reports
how many records there are, of how many raw entries, and how many of these were dropped. A dataset
of which the items can be read is loaded like a list of them. -/
theorem drops_accounted_for (names : ToneNames) (source : Text) (raws : List RawEntry) :
    let load := ofEntries names source raws
    let candidates := raws.flatMap RawEntry.candidates
    let kept := raws.filterMap RawEntry.kept?
    let warnings := load.log.filter (·.level = .warning)
    load.value = candidates.filterMap (Candidate.record? names) ∧
    List.Forall₂ (Candidate.Warns names)
      (candidates.filter fun candidate => (candidate.record? names).isNone) warnings ∧
    (∀ record ∈ load.log, Level.warning.severity ≤ record.level.severity → record ∈ warnings) ∧
    load.value.length + warnings.length
      = raws.length + (kept.map (·.skinVariations.length)).sum ∧
    (∃ told, (∀ record ∈ told, record.level ≠ .info) ∧
      load.log = told ++ [⟨.info, some origin, loadedMessage load.value.length raws.length
        (raws.countP (·.kept?.isNone)) source⟩]) ∧
    ∀ data room values, (items source data room).outcome = .ok values →
      values.map .value = raws →
        (Dataset.load names source data room).outcome = .ok load.value ∧
          (Dataset.load names source data room).log = load.log := by
  intro load candidates kept warnings
  have hvalue : load.value = raws.flatMap (RawEntry.records names) := value_of_entries source raws
  have hrecords : load.value = candidates.filterMap (Candidate.record? names) := by
    rw [hvalue, List.filterMap_flatMap]
    exact congrArg (raws.flatMap ·) (funext (RawEntry.records_eq names))
  have hlog := log_of_entries names source raws
  have hwarnings : warnings = (candidates.flatMap fun candidate => (candidate.step names).log).filter
      (·.level = .warning) := by
    show (ofEntries names source raws).log.filter _ = _
    rw [hlog, List.filter_append]
    exact List.append_nil _
  have htold : ∀ record ∈ candidates.flatMap fun candidate => (candidate.step names).log,
      record.level = .debug ∨ record.level = .warning := by
    intro record hmem
    obtain ⟨candidate, _, hrecord⟩ := List.mem_flatMap.1 hmem
    exact (candidate.decides_step names).level record hrecord
  have hpairs := Candidate.warnings_of_steps names candidates
  rw [← hwarnings] at hpairs
  refine ⟨hrecords, hpairs, ?_, ?_, ⟨_, ?_, hlog⟩, ?_⟩
  · intro record hmem hsevere
    refine List.mem_filter.2 ⟨hmem, decide_eq_true ?_⟩
    rcases List.mem_append.1 (hlog ▸ hmem) with hmem | hmem
    · rcases htold record hmem with hlevel | hlevel
      · rw [hlevel] at hsevere
        exact absurd hsevere (by decide)
      · exact hlevel
    · obtain rfl := List.mem_singleton.1 hmem
      exact absurd hsevere (by simp [Level.severity])
  · rw [hrecords, ← hpairs.length_eq, Candidate.length_records_add, RawEntry.length_candidates]
  · intro record hmem
    rcases htold record hmem with hlevel | hlevel <;> simp [hlevel]
  · rintro data room values hitems rfl
    exact run_load_of_items hitems

/-- Of four raw entries one is no object, one has no short code and one has a fault; the fourth is
kept with one of its three variations, whose keys name no tone or whose codes are refused. -/
theorem drops_accounted_for_of_each :
    let variation (code : Text) : Json := .object [("unified", .string code)]
    let entry (name code : Text) (variations : Json) : Json :=
      .object [("short_names", .array [.string name]), ("unified", .string code),
        ("skin_variations", variations)]
    let variations : Json := .object [("x", variation "32"), ("1f3fb", variation "31-1F3FB"),
      ("1F3FC", variation "D800")]
    let values : List Json := [.null, entry [] "31" variations,
      .object [("short_names", .bool true)], entry "a" "31" variations]
    let data : DatasetSource := .value (.array values)
    let load := ofEntries .standard "list" (values.map .value)
    let report : LogRecord := ⟨.info, some origin, loadedMessage 2 4 3 "list"⟩
    let warning : LogRecord :=
      ⟨.warning, some Entry.origin, "Запись датасета не является объектом: NoneType"⟩
    ((items "list" data).outcome = .ok values ∧
      (Dataset.load .standard "list" data).log = load.log) ∧
    (warning ∈ load.log ∧ Level.warning.severity ≤ warning.level.severity ∧
      warning ∈ load.log.filter (·.level = .warning)) ∧
    (∃ told, (∀ record ∈ told, record.level ≠ .info) ∧ load.log = told ++ [report]) ∧
    load.value.length + (load.log.filter (·.level = .warning)).length = 4 + 3 := by
  intro variation entry variations values data load report warning
  obtain ⟨_, _, hsevere, hcount, ⟨told, hquiet, hlog⟩, hload⟩ :=
    drops_accounted_for .standard "list" (values.map .value)
  have hitems : (items "list" data).outcome = .ok values := rfl
  have hmem : warning ∈ load.log := by decide +kernel
  have hlevel : Level.warning.severity ≤ warning.level.severity := by decide
  refine ⟨⟨hitems, (hload data _ values hitems rfl).2⟩,
    ⟨hmem, hlevel, hsevere warning hmem hlevel⟩, ⟨told, hquiet, ?_⟩, hcount.trans ?_⟩
  · refine hlog.trans (congrArg (fun text => told ++ [⟨.info, some origin, text⟩]) ?_)
    decide +kernel
  · decide +kernel

end Dataset

end EmojiText
