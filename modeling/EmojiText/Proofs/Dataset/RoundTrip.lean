import EmojiText.Proofs.Dataset.Findable
import EmojiText.Proofs.Index.Representation
import EmojiText.Proofs.Scan.Rescan
import EmojiText.Proofs.ShortCode.Replacement

/-!
# From a dataset to the emoji in a text

The stages fit together. Every record of a dataset can be found, so the index holds all of them, and
the scan finds the text of each. Of several records with one text it finds the first; a short code
between colons is replaced by the text of the last record that has it. The main statement is
`loaded_round_trip`.
-/

namespace EmojiText

/-! ### A token alone -/

/-- A code between colons is the only token of this text. -/
theorem Token.all_of_code {code : Text} (hne : code ≠ [])
    (hunits : ∀ c ∈ code, isCodeUnit c = true) :
    all (colon :: code ++ [colon]) = [⟨0, code⟩] := by
  have hcode : codeAtStart? (colon :: (code ++ [colon])) = some (code, []) :=
    code_at_start_eq_some.2 ⟨rfl, hne, hunits⟩
  rw [List.cons_append, all, all_from_of_code hcode, allFrom]

namespace Index

/-- A known code between colons is replaced by the text of its record. -/
theorem replaced_of_code {index : Index} {code : Text} {record : Record} (hne : code ≠ [])
    (hunits : ∀ c ∈ code, Token.isCodeUnit c = true)
    (hknown : index.ofShortCode? code = some record) :
    index.replaced (Token.colon :: code ++ [Token.colon]) = record.text := by
  rw [replaced, knownTokens, Token.all_of_code hne hunits]
  simp [hknown, Splicing.replace, Token.length]

/-! ### The text of a record -/

variable {records : List Record} {record : Record}

/-- Scanning a text gives exactly one emoji, the first of the records with this text. -/
def ScansAsFirst (index : Index) (records : List Record) (text : Text) : Prop :=
  ∃ id : index.Id, records.find? (fun record => record.text = text) = some (index.record id) ∧
    ∀ handleOf, index.scan handleOf text = [.emoji (index.record id) (handleOf id)]

/-- The text of a record that can be found is that of one emoji. -/
theorem scans_as_first (hmem : record ∈ records) (h : record.Findable) :
    (ofRecords records).ScansAsFirst records record.text := by
  obtain ⟨given, rfl⟩ := exists_id hmem h.text_ne_nil
  obtain ⟨id, htext, hfirst⟩ := exists_first given
  have hhead : ((ofRecords records).text given).head?.any CodePoint.isTrailing = false :=
    h.head_text
  show (ofRecords records).ScansAsFirst records ((ofRecords records).text given)
  rw [← htext] at hhead ⊢
  exact ⟨id, find_record hfirst, fun _ => (built_of_records records).scan_text hfirst hhead⟩

/-! ### Surrogates -/

/-- An emoji over the index of records is one of them. -/
theorem mem_of_mem_scan {handleOf : (ofRecords records).Id → Option Handle} {text : Text}
    {handle : Option Handle} (h : .emoji record handle ∈ (ofRecords records).scan handleOf text) :
    record ∈ records := by
  obtain ⟨id, _, _, _, rfl, _⟩ := emoji_of_mem_scan_from h
  exact mem_of_mem_records (Array.getElem_mem _)

end Index

/-- What no emoji has stands in plain text. -/
theorem Segment.filter_flat_map_text {p : CodePoint → Bool} (segments : List Segment)
    (h : ∀ record handle, emoji record handle ∈ segments → ∀ c ∈ record.text, p c = false) :
    (segments.filter isPlain).flatMap (fun segment => segment.text.filter p)
      = (segments.flatMap text).filter p := by
  induction segments with
  | nil => rfl
  | cons segment segments ih =>
      have hrest := ih fun record handle hmem => h record handle (List.mem_cons_of_mem _ hmem)
      rw [List.flatMap_cons, List.filter_append, ← hrest]
      cases segment with
      | plain run => rfl
      | emoji record handle =>
          have hnone : record.text.filter p = [] :=
            List.filter_eq_nil_iff.2 fun c hc => by simp [h record handle List.mem_cons_self c hc]
          show _ = record.text.filter p ++ _
          rw [hnone]
          rfl

/-! ### A dataset and its index -/

/-- A short code of a record of a dataset leads to the last record that has it, in whatever letter
case it is asked for. -/
theorem Dataset.Loads.of_short_code {records : List Record} (h : Loads records) {record : Record}
    (hmem : record ∈ records) {code query : Text} (hcode : code ∈ record.shortCodes)
    (hquery : query.lowercase = code.lowercase) :
    ∃ last, (records.filter (·.hasShortCode code.lowercase)).getLast? = some last ∧
      (Index.ofRecords records).ofShortCode? query = some last := by
  have hhas : record.hasShortCode query.lowercase = true :=
    Record.has_short_code_iff.2 ⟨code, hcode, hquery.symm⟩
  obtain ⟨last, hlast⟩ :=
    Index.exists_of_short_code hmem (h.findable record hmem).text_ne_nil hhas
  refine ⟨last, ?_, hlast⟩
  rw [← hlast, Index.of_short_code_of_records, hquery]
  -- all records of a dataset have a text, so all of them are indexed
  congr 1
  refine List.filter_congr ?_
  intro other hother
  simp [(h.findable other hother).text_ne_nil]

/-- Over the index of a dataset that loads, scanning the text of a record gives exactly one emoji,
the first record with this text. A short code of a record between colons, in any letter case, is
replaced by the text of the last record that has it, and that text again gives exactly one emoji.
In no text does an emoji hold a surrogate: all of them stay in plain text. -/
theorem loaded_round_trip {records : List Record} (h : Dataset.Loads records) :
    let index := (Index.build records).value
    (∀ record ∈ records, index.ScansAsFirst records record.text) ∧
    (∀ record ∈ records, ∀ code ∈ record.shortCodes, ∀ query : Text,
      (∀ c ∈ query, Token.isCodeUnit c = true) → query.lowercase = code.lowercase →
      ∃ last, (records.filter (·.hasShortCode code.lowercase)).getLast? = some last ∧
        (index.replaceShortCodes (Token.colon :: query ++ [Token.colon])).value = last.text ∧
        index.ScansAsFirst records last.text) ∧
    ∀ handleOf text,
      (∀ record handle, .emoji record handle ∈ index.scan handleOf text →
        ∀ c ∈ record.text, c.isSurrogate = false) ∧
      ((index.scan handleOf text).filter Segment.isPlain).flatMap
          (fun segment => segment.text.filter CodePoint.isSurrogate)
        = text.filter CodePoint.isSurrogate := by
  intro index
  have hscans : ∀ record ∈ records, index.ScansAsFirst records record.text :=
    fun record hmem => Index.scans_as_first hmem (h.findable record hmem)
  refine ⟨hscans, ?_, ?_⟩
  · intro record hmem code hcode query hunits hquery
    have hne : query ≠ [] := by
      intro hnil
      have hempty : code.lowercase = [] := by rw [← hquery, Text.lowercase_eq_nil_iff.2 hnil]
      exact (h.findable record hmem).short_code_ne_nil code hcode
        (Text.lowercase_eq_nil_iff.1 hempty)
    obtain ⟨last, hlast, hknown⟩ := h.of_short_code hmem hcode hquery
    have hlastMem := (List.mem_filter.1 (List.mem_of_getLast? hlast)).1
    refine ⟨last, hlast, ?_, hscans last hlastMem⟩
    rw [Index.value_replace_short_codes]
    exact Index.replaced_of_code hne hunits hknown
  · intro handleOf text
    have hfree : ∀ record handle, .emoji record handle ∈ index.scan handleOf text →
        ∀ c ∈ record.text, c.isSurrogate = false :=
      fun record _ hemoji => (h.findable record (Index.mem_of_mem_scan hemoji)).scalar
    refine ⟨hfree, ?_⟩
    rw [Segment.filter_flat_map_text _ hfree, Index.flat_map_text_scan]

/-- Two entries have one text and one short code in different letter cases: the scan finds the
first, the short code leads to the last. -/
theorem loaded_round_trip_shared_code :
    let entry (name code : Text) : Json := .object [
      ("short_names", .array [.string name]), ("unified", .string code)]
    let items : List Json := [entry "Go" "31", entry "gO" "32", entry "x" "31"]
    let data : DatasetSource := .value (.array items)
    let record (name code : Text) (text : Text) : Record := ⟨[name], code, text, none, ∅⟩
    let first := record "Go" "31" [0x31]
    let last := record "gO" "32" [0x32]
    let records : List Record := [first, last, record "x" "31" [0x31]]
    let index := (Index.build records).value
    ((Dataset.load .standard "a" data).outcome = .ok records ∧
      index.ScansAsFirst records first.text) ∧
    (index.replaceShortCodes ":GO:").value = last.text ∧
    ∀ handleOf text,
      ((index.scan handleOf text).filter Segment.isPlain).flatMap
          (fun segment => segment.text.filter CodePoint.isSurrogate)
        = text.filter CodePoint.isSurrogate := by
  intro entry items data record first last records index
  have hentries : (Dataset.ofEntries .standard "a" (items.map .value)).value = records := by
    decide +kernel
  have hload : (Dataset.load .standard "a" data).outcome = .ok records :=
    congrArg Except.ok hentries
  obtain ⟨hscans, hcodes, hplain⟩ := loaded_round_trip (.data hload)
  have hmem : first ∈ records := List.mem_cons_self
  refine ⟨⟨hload, hscans first hmem⟩, ?_, fun handleOf text => (hplain handleOf text).2⟩
  obtain ⟨found, hfound, htext, _⟩ :=
    hcodes first hmem "Go" List.mem_cons_self "GO" (List.all_eq_true.1 (by decide +kernel))
      (by decide +kernel)
  have hlast : (records.filter (·.hasShortCode (Text.lowercase "Go"))).getLast? = some last := by
    decide +kernel
  cases hlast.symm.trans hfound
  exact htext

end EmojiText
