import EmojiText.Proofs.Dataset.Records
import Mathlib.Data.List.Basic

/-!
# Variations as entries of their own

The records of a dataset do not tell whether its variations stood inside their entries or beside
them. `Entry.flattened` takes an entry apart into itself without variations and one entry for each
of them. The main statement is `of_entries_flattened`: flattening the entries of a dataset changes
none of its records, and neither does an entry or a variation that is dropped.
-/

namespace EmojiText

namespace Entry

variable {names : ToneNames} {entry : Entry}

/-- The entry without variations, followed by each variation as an entry of its own. An entry that
makes no record stays as it is. -/
def flattened (names : ToneNames) (entry : Entry) : List Entry :=
  match entry.base? with
  | none => [entry]
  | some _ =>
    { entry with skinVariations := [] }
      :: entry.skinVariations.filterMap (ofVariation? names entry.primaryName)

/-- An entry without variations has its own record only. -/
theorem records_of_no_variations (h : entry.skinVariations = []) :
    entry.records names = entry.base?.toList := by
  unfold records
  rw [h]
  cases entry.base? <;> rfl

/-- A key without a known tone makes no entry. -/
theorem of_variation_of_unknown {primary key : Text} {raw : Json} (h : names.known key = []) :
    ofVariation? names primary (key, raw) = none := by
  simp [ofVariation?, h]

/-- A variation as an entry of its own has its own record only. -/
theorem records_of_variation {primary : Text} {variation : Text × Json} {own : Entry}
    (h : ofVariation? names primary variation = some own) :
    own.records names = own.base?.toList := by
  obtain ⟨key, raw⟩ := variation
  cases hknown : names.known key with
  | nil =>
      rw [of_variation_of_unknown hknown] at h
      cases h
  | cons tone tones =>
      simp only [ofVariation?, hknown] at h
      obtain ⟨_, _, rfl⟩ := Option.map_eq_some_iff.1 h
      exact records_of_no_variations rfl

/-- Variations as entries of their own have the records of the variations. -/
theorem flat_map_records_of_variations (primary : Text) (variations : List (Text × Json)) :
    (variations.filterMap (ofVariation? names primary)).flatMap (records names)
      = variations.filterMap (variationRecord? names primary) := by
  have hown : ∀ own ∈ variations.filterMap (ofVariation? names primary),
      own.records names = own.base?.toList := by
    intro own hmem
    obtain ⟨_, _, hvariation⟩ := List.mem_filterMap.1 hmem
    exact records_of_variation hvariation
  rw [List.flatMap_congr hown, ← List.filterMap_eq_flatMap_toList, List.filterMap_filterMap]
  rfl

/-- The entries that an entry is taken apart into have its records. -/
theorem records_flattened :
    (entry.flattened names).flatMap (records names) = entry.records names := by
  unfold flattened
  cases hbase : entry.base? with
  | none => simp [records, hbase]
  | some base =>
      have hown : records names { entry with skinVariations := [] } = [base] := by
        rw [records_of_no_variations rfl]
        exact congrArg Option.toList hbase
      dsimp only
      rw [List.flatMap_cons, hown, flat_map_records_of_variations, records, hbase]
      rfl

/-- A variation that makes no record may be left out. -/
theorem records_of_dropped_variation {first last : List (Text × Json)} {variation : Text × Json}
    (hsplit : entry.skinVariations = first ++ variation :: last)
    (hnone : variationRecord? names entry.primaryName variation = none) :
    entry.records names = records names { entry with skinVariations := first ++ last } := by
  unfold records
  rw [hsplit, List.filterMap_append, List.filterMap_cons_none hnone, ← List.filterMap_append]
  rfl

end Entry

namespace RawEntry

/-- The raw entry is dropped: what it holds is no entry, or makes no record. -/
def Dropped (raw : RawEntry) : Prop :=
  ∀ entry, (Entry.ofRaw raw).value = some entry → entry.base? = none

/-- What is dropped has no records, not even those of variations. -/
theorem Dropped.records_eq_nil {raw : RawEntry} (h : raw.Dropped) (names : ToneNames) :
    raw.records names = [] := by
  unfold records
  cases hentry : (Entry.ofRaw raw).value with
  | none => rfl
  | some entry => simp [Entry.records, h entry hentry]

end RawEntry

namespace Dataset

/-- Flattening a list of entries changes none of its records, which are those of its entries, one
after the other, each entry followed by what its variations make. The records of a list are those of
its parts, whatever stands beside them. So what is dropped has no effect, wherever it stands:
neither a raw entry, of which no variation stays either, nor a variation among others. A key without
a known tone makes no record. -/
theorem of_entries_flattened (names : ToneNames) (source : Text) :
    (∀ entries : List Entry,
      (ofEntries names source (entries.map .entry)).value = entries.flatMap (·.records names) ∧
      (ofEntries names source ((entries.flatMap (·.flattened names)).map .entry)).value
        = (ofEntries names source (entries.map .entry)).value) ∧
    (∀ (primary key : Text) (raw : Json),
      (variant primary names key raw).value = Entry.variationRecord? names primary (key, raw)) ∧
    (∀ before after : List RawEntry,
      (ofEntries names source (before ++ after)).value
        = (ofEntries names source before).value ++ (ofEntries names source after).value) ∧
    (∀ raw : RawEntry, raw.Dropped → ∀ before after : List RawEntry,
      (ofEntries names source (before ++ raw :: after)).value
        = (ofEntries names source (before ++ after)).value) ∧
    (∀ (entry : Entry) (first last : List (Text × Json)) (variation : Text × Json),
      entry.skinVariations = first ++ variation :: last →
      Entry.variationRecord? names entry.primaryName variation = none →
      ∀ before after : List RawEntry,
      (ofEntries names source (before ++ .entry entry :: after)).value
        = (ofEntries names source
            (before ++ .entry { entry with skinVariations := first ++ last } :: after)).value) ∧
    ∀ (primary key : Text) (raw : Json), names.known key = [] →
      (variant primary names key raw).value = none := by
  have hentries : ∀ entries : List Entry,
      (ofEntries names source (entries.map .entry)).value = entries.flatMap (·.records names) := by
    intro entries
    rw [value_of_entries, List.flatMap_map]
    rfl
  refine ⟨?_, value_variant, ?_, ?_, ?_, ?_⟩
  · intro entries
    refine ⟨hentries entries, ?_⟩
    rw [hentries, hentries, List.flatMap_assoc]
    simp only [Entry.records_flattened]
  · intro before after
    simp only [value_of_entries, List.flatMap_append]
  · intro raw hdropped before after
    simp only [value_of_entries, List.flatMap_append, List.flatMap_cons,
      hdropped.records_eq_nil names, List.nil_append]
  · intro entry first last variation hsplit hnone before after
    have hraw : RawEntry.records names (.entry entry)
        = RawEntry.records names (.entry { entry with skinVariations := first ++ last }) :=
      Entry.records_of_dropped_variation hsplit hnone
    simp only [value_of_entries, List.flatMap_append, List.flatMap_cons, hraw]
  · intro primary key raw hknown
    rw [value_variant, Entry.variationRecord?, Entry.of_variation_of_unknown hknown]
    rfl

/-- An entry without a code is dropped with its variation, and a variation without a known tone is
dropped between two others. -/
theorem of_entries_flattened_dropped_between :
    let variation (key code : Text) : Text × Json :=
      (key, .object [("unified", .string code)])
    let first := variation "1F3FB" "31-1F3FB"
    let last := variation " 1f3fc-x" "31-1F3FC"
    let entry : Entry := ⟨["", "a"], some "31", none, ∅, [first, variation "x" "32", last]⟩
    let raw : RawEntry := .entry ⟨["b"], none, none, ∅, [first]⟩
    (raw.Dropped ∧
      (ofEntries .standard "s" [.entry entry, raw, .entry entry]).value
        = (ofEntries .standard "s" [.entry entry, .entry entry]).value) ∧
    (Entry.variationRecord? .standard entry.primaryName (variation "x" "32") = none ∧
      (ofEntries .standard "s" [raw, .entry entry]).value
        = (ofEntries .standard "s"
            [raw, .entry { entry with skinVariations := [first, last] }]).value) ∧
    ToneNames.standard.known "x" = [] ∧
      (variant "a" .standard "x" (variation "x" "32").2).value = none := by
  intro variation first last entry raw
  obtain ⟨_, _, _, hraw, hvariation, hkey⟩ := of_entries_flattened .standard "s"
  have hdropped : raw.Dropped := by
    intro dropped hdropped
    cases hdropped
    rfl
  have hnone : Entry.variationRecord? .standard entry.primaryName (variation "x" "32") = none := by
    decide +kernel
  have hknown : ToneNames.standard.known "x" = [] := by decide +kernel
  exact ⟨⟨hdropped, hraw raw hdropped [.entry entry] [.entry entry]⟩,
    ⟨hnone, hvariation entry [first] [last] (variation "x" "32") rfl hnone [raw] []⟩,
    hknown, hkey "a" "x" _ hknown⟩

end Dataset

end EmojiText
