import EmojiText.Proofs.Dataset.Complete
import EmojiText.Proofs.Index.Representation
import EmojiText.Proofs.Text.CaseParts
import EmojiText.Proofs.Tone.Naming

/-!
# The short codes of variations

A variation is found under the primary short code of its entry with the name of its tones behind it.
Lower-casing leaves the name as it is, whatever stands in front, so variations with different names
have different short codes in every letter case, and a look-up cannot take one for another. The main
statement is `variants_found_under_own_codes`, which has this from the keys of the variations.
-/

namespace EmojiText

open ToneNames (standard unambiguous_standard name_of_eq_ok name_of_eq_error)

/-- No two of the keys have the same recognised modifiers, unless they have none. -/
def ToneNames.Distinguishes (names : ToneNames) (variations : List (Text × Json)) : Prop :=
  variations.Pairwise fun first second =>
    names.recognised first.1 = names.recognised second.1 → names.recognised first.1 = []

/-- The records have no short code in common, in whatever letter case. -/
def Record.Apart (first second : Record) : Prop :=
  ∀ code, first.hasShortCode code = true → ¬ second.hasShortCode code = true

/-- No short code of records that are apart is there twice, even in lower case, if each record has
only one. -/
theorem Record.nodup_short_codes {records : List Record} (h : records.Pairwise Apart)
    (hone : ∀ record ∈ records, ∃ code, record.shortCodes = [code]) :
    ((records.flatMap shortCodes).map Text.lowercase).Nodup := by
  rw [List.map_flatMap, List.nodup_flatMap]
  refine ⟨fun record hmem => ?_, h.imp fun hapart => List.disjoint_left.2 fun code hcode => ?_⟩
  · obtain ⟨code, hcode⟩ := hone record hmem
    rw [hcode]
    exact List.nodup_singleton _
  · intro hother
    exact hapart code (has_short_code_iff.2 (List.mem_map.1 hcode))
      (has_short_code_iff.2 (List.mem_map.1 hother))

namespace Dataset

variable {primary name other : Text}

/-- The name of the tones stays as it is when the short code of a variation is lowered. -/
theorem lowercase_variant_short_code (primary : Text)
    (hname : ∀ c ∈ name, Text.lowercaseMap.apply c = [c]) :
    (variantShortCode primary name).lowercase
      = Text.lowercaseBetween [] primary "_" ++ ("_" ++ name) := by
  have hfixed : ∀ c ∈ Text.ofString "_" ++ name, Text.lowercaseMap.apply c = [c] := by
    intro c hc
    rcases List.mem_append.1 hc with hc | hc
    · obtain rfl := List.mem_singleton.1 hc
      decide
    · exact hname c hc
  -- what is behind the separator does not show in front of it
  have hseparator : Text.startsCased ("_" ++ name) = Text.startsCased "_" :=
    Text.starts_cased_append_of_letter
      (fun hmarks => absurd (hmarks 0x5F (by decide)) (by decide +kernel)) name
  rw [variantShortCode, List.append_assoc, Text.lowercase, Text.lowercase_after_append,
    Text.lowercase_after_of_fixed hfixed, Text.lowercase_between_congr hseparator]

/-- Variations with the same short code in lower case have the same name. -/
theorem name_eq_of_lowercase (hname : ∀ c ∈ name, Text.lowercaseMap.apply c = [c])
    (hother : ∀ c ∈ other, Text.lowercaseMap.apply c = [c])
    (h : (variantShortCode primary name).lowercase = (variantShortCode primary other).lowercase) :
    name = other := by
  rw [lowercase_variant_short_code primary hname, lowercase_variant_short_code primary hother] at h
  exact List.append_cancel_left (List.append_cancel_left h)

end Dataset

namespace Entry

variable {names : ToneNames} {primary : Text} {variation other : Text × Json}
  {record otherRecord : Record} {variations : List (Text × Json)}

/-- The record of a variation has one short code, which ends with the name of the key. -/
theorem short_codes_of_variation (h : variationRecord? names primary variation = some record) :
    ∃ name, (names.nameOf variation.1).outcome = .ok name ∧
      record.shortCodes = [Dataset.variantShortCode primary name] := by
  obtain ⟨key, raw⟩ := variation
  obtain ⟨own, hown, hrecord⟩ := Option.bind_eq_some_iff.1 h
  cases hknown : names.known key with
  | nil =>
      simp only [ofVariation?, hknown] at hown
      cases hown
  | cons tone tones =>
      have hname : (names.nameOf key).outcome
          = .ok (Text.join [ToneNames.hyphen] (names.known key)) := by
        refine name_of_eq_ok.2 ⟨?_, rfl⟩
        rw [Ne, ← ToneNames.known_eq_nil_iff, hknown]
        exact List.cons_ne_nil _ _
      simp only [ofVariation?, hknown] at hown
      obtain ⟨read, _, rfl⟩ := Option.map_eq_some_iff.1 hown
      obtain ⟨_, text, _, rfl⟩ := record_eq_some.1 hrecord
      rw [hknown] at hname
      refine ⟨_, hname, ?_⟩
      simp [recordWith, shortCodes, alone, Dataset.variantShortCode, Text.ofString]

/-- Variations with different recognised modifiers are apart. -/
theorem apart_of_recognised_ne (hnames : names.Unambiguous)
    (hne : names.recognised variation.1 ≠ names.recognised other.1)
    (hrecord : variationRecord? names primary variation = some record)
    (hother : variationRecord? names primary other = some otherRecord) :
    record.Apart otherRecord := by
  obtain ⟨name, hname, hcodes⟩ := short_codes_of_variation hrecord
  obtain ⟨otherName, hotherName, hotherCodes⟩ := short_codes_of_variation hother
  intro code hcode hotherCode
  simp only [Record.has_short_code_iff, hcodes, List.mem_singleton, exists_eq_left] at hcode
  simp only [Record.has_short_code_iff, hotherCodes, List.mem_singleton, exists_eq_left]
    at hotherCode
  have hsame : name = otherName := Dataset.name_eq_of_lowercase (hnames.lower_case_name hname)
    (hnames.lower_case_name hotherName) (hcode.trans hotherCode.symm)
  exact hne ((hnames.name_eq_iff hname hotherName).1 hsame)

/-- Variations are apart if their keys are told apart. -/
theorem pairwise_apart (hnames : names.Unambiguous) (primary : Text)
    (hkeys : names.Distinguishes variations) :
    (variations.filterMap (variationRecord? names primary)).Pairwise Record.Apart := by
  refine hkeys.filterMap _ ?_
  intro first second hsame record hrecord other hother
  refine apart_of_recognised_ne hnames (fun heq => ?_) hrecord hother
  -- without recognised modifiers there would be no record
  obtain ⟨name, hname, _⟩ := short_codes_of_variation hrecord
  exact (name_of_eq_ok.1 hname).1 (hsame heq)

end Entry

namespace Dataset

variable {names : ToneNames} {primary : Text} {variations : List (Text × Json)}

/-- Each variation that makes a record gives it the name of its key for a short code. -/
theorem short_codes_of_variants {variant : Record}
    (h : variant ∈ (variants primary names variations).value) :
    ∃ variation ∈ variations, ∃ name, (names.nameOf variation.1).outcome = .ok name ∧
      variant.shortCodes = [variantShortCode primary name] := by
  rw [value_variants] at h
  obtain ⟨variation, hvariation, hrecord⟩ := List.mem_filterMap.1 h
  exact ⟨variation, hvariation, Entry.short_codes_of_variation hrecord⟩

/-- The records of one entry are its own and those of its variations. -/
theorem value_of_single_entry {entry : Entry} {base : Record} {raw : RawEntry}
    (hentry : (Entry.ofRaw raw).value = some entry) (hbase : entry.base? = some base)
    (source : Text) :
    (ofEntries names source [raw]).value
      = base :: (variants (base.primaryShortCode?.getD []) names entry.skinVariations).value := by
  rw [value_of_entries, List.flatMap_singleton, RawEntry.records, hentry, Option.map_some,
    Option.getD_some, Entry.records, hbase, value_variants, Entry.primary_short_code hbase]

end Dataset

/-- A record among others from which it is apart is found under its short codes, whatever records
stand before them. -/
theorem Index.of_short_code_of_apart (before : List Record) {records : List Record}
    (hapart : records.Pairwise Record.Apart) {record : Record} (hmem : record ∈ records)
    (htext : record.text ≠ []) {code : Text} (hcode : code ∈ record.shortCodes) :
    (ofRecords (before ++ records)).ofShortCode? code = some record := by
  obtain ⟨earlier, later, rfl⟩ := List.append_of_mem hmem
  have hshort := Record.has_short_code_iff.2 ⟨code, hcode, rfl⟩
  rw [← List.append_assoc]
  refine of_short_code_of_last htext hshort fun other hother => ?_
  have hlater := (List.pairwise_cons.1 (List.pairwise_append.1 hapart).2.1).1
  exact hlater other hother code.lowercase hshort

/-- With the standard names, naming a key fails exactly if none of its modifiers is recognised, and
two keys have the same name exactly if their recognised modifiers are the same in the same order. So
if no two keys of an entry have the same recognised modifiers, unless they have none, then no two of
its variations share a short code, even in lower case, and in the index of the records of this entry
alone each variation is found under its own. -/
theorem variants_found_under_own_codes :
    (∀ key,
      ((standard.nameOf key).outcome = .error (.unknownTones key) ↔
        standard.recognised key = []) ∧
      ((∃ name, (standard.nameOf key).outcome = .ok name) ↔ standard.recognised key ≠ [])) ∧
    (∀ key other name otherName, (standard.nameOf key).outcome = .ok name →
      (standard.nameOf other).outcome = .ok otherName →
      (name = otherName ↔ standard.recognised key = standard.recognised other)) ∧
    ∀ (source : Text) (raw : RawEntry) (entry : Entry) (base : Record),
      (Entry.ofRaw raw).value = some entry → entry.base? = some base →
      standard.Distinguishes entry.skinVariations →
      let primary := base.primaryShortCode?.getD []
      let variants := (Dataset.variants primary standard entry.skinVariations).value
      let records := (Dataset.ofEntries standard source [raw]).value
      records = base :: variants ∧
      (∀ variant ∈ variants, ∃ variation ∈ entry.skinVariations, ∃ name,
        (standard.nameOf variation.1).outcome = .ok name ∧
        variant.shortCodes = [Dataset.variantShortCode primary name]) ∧
      ((variants.flatMap Record.shortCodes).map Text.lowercase).Nodup ∧
      ∀ variant ∈ variants, ∀ code ∈ variant.shortCodes,
        (Index.build records).value.ofShortCode? code = some variant := by
  have hnames : standard.Unambiguous := unambiguous_standard
  refine ⟨fun key => ⟨name_of_eq_error, ?_⟩, fun _ _ _ _ => hnames.name_eq_iff, ?_⟩
  · simp only [name_of_eq_ok, exists_and_left, exists_eq', and_true]
  intro source raw entry base hentry hbase hkeys primary variants records
  have hrecords : records = base :: variants :=
    Dataset.value_of_single_entry hentry hbase source
  have hapart : variants.Pairwise Record.Apart := by
    show (Dataset.variants primary standard entry.skinVariations).value.Pairwise _
    rw [Dataset.value_variants]
    exact Entry.pairwise_apart hnames primary hkeys
  have hcomplete : ∀ record ∈ records, record.Complete :=
    (Dataset.Loads.entries standard source [raw]).complete
  refine ⟨hrecords, fun _ => Dataset.short_codes_of_variants, ?_, ?_⟩
  · refine Record.nodup_short_codes hapart fun variant hmem => ?_
    obtain ⟨_, _, name, _, hcodes⟩ := Dataset.short_codes_of_variants hmem
    exact ⟨_, hcodes⟩
  · intro variant hmem code hcode
    have htext : variant.text ≠ [] :=
      (hcomplete variant (hrecords ▸ List.mem_cons_of_mem base hmem)).text_ne_nil
    rw [hrecords]
    exact Index.of_short_code_of_apart [base] hapart hmem htext hcode

/-- The entry has the short code of its first variation in capital letters, two keys have the same
modifiers in another order, and two others have none. -/
theorem variants_found_under_own_codes_of_reordered :
    let variation (key code : Text) : Text × Json := (key, .object [("unified", .string code)])
    let entry : Entry := ⟨["Ok", "OK_TONE1-TONE2"], some "31", none, ∅,
      [variation "1F3FB-1F3FC" "31-1F3FB", variation "1f3fc-x- 1F3FB " "31-1F3FC",
        variation "x" "32", variation "" "33"]⟩
    let base : Record := ⟨["Ok", "OK_TONE1-TONE2"], "31", [0x31], none, ∅⟩
    let first : Record := ⟨["Ok_tone1-tone2"], "31-1F3FB", [0x31, 0x1F3FB], none, ∅⟩
    let second : Record := ⟨["Ok_tone2-tone1"], "31-1F3FC", [0x31, 0x1F3FC], none, ∅⟩
    let index := (Index.build (Dataset.ofEntries standard "s" [.entry entry]).value).value
    (entry.base? = some base ∧
      (Dataset.variants "Ok" standard entry.skinVariations).value = [first, second]) ∧
    standard.recognised "1F3FB" = standard.recognised " 1f3fb-x" ∧
      index.ofShortCode? "Ok_tone1-tone2" = some first ∧
      index.ofShortCode? "Ok_tone2-tone1" = some second := by
  intro variation entry base first second index
  obtain ⟨_, hnames, hentries⟩ := variants_found_under_own_codes
  have hbase : entry.base? = some base := by decide +kernel
  have hvariants : (Dataset.variants "Ok" standard entry.skinVariations).value
      = [first, second] := by decide +kernel
  have hname : (standard.nameOf "1F3FB").outcome = .ok (Text.ofString "tone1") := by
    rw [name_of_eq_ok]
    decide +kernel
  have hother : (standard.nameOf " 1f3fb-x").outcome = .ok (Text.ofString "tone1") := by
    rw [name_of_eq_ok]
    decide +kernel
  have hkeys : standard.Distinguishes entry.skinVariations := by
    unfold ToneNames.Distinguishes
    decide +kernel
  obtain ⟨_, _, _, hfound⟩ := hentries "s" (.entry entry) entry base rfl hbase hkeys
  have hprimary : base.primaryShortCode?.getD [] = Text.ofString "Ok" := rfl
  rw [hprimary, hvariants] at hfound
  refine ⟨⟨hbase, hvariants⟩, (hnames _ _ _ _ hname hother).1 rfl, ?_, ?_⟩
  · exact hfound first List.mem_cons_self _ List.mem_cons_self
  · exact hfound second (List.mem_cons_of_mem _ List.mem_cons_self) _ List.mem_cons_self

end EmojiText
