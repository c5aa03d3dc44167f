import EmojiText.Command
import EmojiText.Proofs.Dataset.Complete
import EmojiText.Proofs.Engine.Run
import EmojiText.Proofs.Index.Representation
import EmojiText.Proofs.Scan.Match

/-!
# What a serving engine answers

After any requests an engine serves some records: those of the last load that gave some, or none. Its
index is theirs, all of them are complete, and under the number of each stands its handle for the
set in use. `Engine.Serves` says so, and `serves_after_all` that every engine does. All answers
follow from it: an emoji in a text and the record of a unified code come with the handle that belongs
to them, and the numbers by which they are found are never out of range. The main statement is
`reads_after_all`.
-/

namespace EmojiText

/-! ### The handle of a record -/

namespace Handle

variable {record : Record} {chosen : Platform} {addresses : ImageAddresses} {scale : Binary64}
  {handle : Handle}

/-- The handle of a record has its text as a name. -/
theorem name_of_record (h : ofRecord record chosen addresses scale = .ok handle) :
    handle.name = record.text := by
  unfold ofRecord at h
  split at h
  · cases h
  · cases h
    rfl

/-- The address in the handle of a record is that of the image which is used for it. -/
theorem url_of_record (h : ofRecord record chosen addresses scale = .ok handle) :
    handle.url = urlFor record chosen addresses := by
  unfold ofRecord at h
  split at h
  · cases h
  · cases h
    rfl

end Handle

namespace Engine

/-- The handle is the one that an engine draws a record with. Its name is the text of the record,
and its address starts with that of the platform: of the set in use if the record supports it, else
of Twitter, or with the fixed address if the engine has none for the platform. -/
structure Draws (engine : Engine) (record : Record) (handle : Handle) : Prop where
  of_record : Handle.ofRecord record engine.emojiSet engine.settings.addresses engine.settings.scale
    = .ok handle
  name_eq : handle.name = record.text
  listed : ∀ address, engine.settings.addresses.find?
      (if record.supports engine.emojiSet then engine.emojiSet else .twitter) = some address →
    address <+: handle.url
  unlisted : engine.settings.addresses.find?
      (if record.supports engine.emojiSet then engine.emojiSet else .twitter) = none →
    ImageAddresses.unlisted <+: handle.url

/-- The handle that is resolved for a record is the one it is drawn with. -/
theorem draws_of_record {engine : Engine} {record : Record} {handle : Handle}
    (h : Handle.ofRecord record engine.emojiSet engine.settings.addresses engine.settings.scale
      = .ok handle) : engine.Draws record handle := by
  have hstart : engine.settings.addresses.of (Handle.platformFor record engine.emojiSet)
      <+: handle.url := by
    rw [Handle.url_of_record h, Handle.urlFor, List.append_assoc]
    exact List.prefix_append _ _
  refine ⟨h, Handle.name_of_record h, ?_, ?_⟩
  · intro address haddress
    rwa [ImageAddresses.of, Handle.platformFor, Handle.fallback, haddress] at hstart
  · intro hnone
    rwa [ImageAddresses.of, Handle.platformFor, Handle.fallback, hnone] at hstart

/-! ### Engines that serve records -/

/-- An engine serves records that are complete: its index is theirs, and its handles are those of
the index for the set in use. -/
structure Serves (engine : Engine) (records : List Record) : Prop where
  complete : ∀ record ∈ records, record.Complete
  index_eq : engine.published.index = (Index.build records).value
  handles_eq : (Handle.resolve engine.published.index engine.emojiSet engine.settings.addresses
    engine.settings.scale).outcome = .ok engine.published.handles

/-- The records that the last load gave: none if there was no load or it failed. -/
def Standing.records (standing : Standing) : List Record :=
  match standing.lastLoad with
  | some (.ok records) => records
  | some (.error _) | none => []

/-- The index that a standing asks for is that of its records. -/
theorem Standing.index_eq (standing : Standing) :
    standing.index = (Index.build standing.records).value := by
  obtain ⟨_, lastLoad⟩ := standing
  rcases lastLoad with _ | _ | records <;> rfl

/-- A request that publishes records publishes those of a dataset that loads. -/
theorem Request.loads_of_publish {names : ToneNames} {request : Request} {records : List Record}
    (h : (request.effect names).loaded? = some (.ok records)) : Dataset.Loads records := by
  have hload : ∀ outcome : Except Failure (List Record),
      (loadEffect outcome).loaded? = some (.ok records) → outcome = .ok records := by
    intro outcome houtcome
    unfold loadEffect at houtcome
    split at houtcome <;> cases houtcome
    rfl
  cases request with
  | load source data room => exact .data (hload _ h)
  | loadFile files path room => exact .file (hload _ h)
  | choose emojiSet => cases h
  | applyEmojiSet name =>
      rw [effect] at h
      split at h <;> cases h

/-- The standing of a new engine after requests with these effects. -/
def standingAfter (emojiSet : Platform) (effects : List Effect) : Standing :=
  ⟨(effects.filterMap Effect.chosen?).getLast?.getD emojiSet,
    (effects.filterMap Effect.loaded?).getLast?⟩

variable (emojiSet : Platform) (settings : EngineSettings) (requests : List Request)

/-- A new engine reflects the standing that its requests add up to. -/
theorem reflects_standing_after :
    Reflects settings (standingAfter emojiSet (requests.map (Request.effect settings.toneNames)))
      ((Engine.new emojiSet settings).afterAll requests) := by
  have hengine := ((reflects_new emojiSet settings).run requests).2
  rwa [foldl_standing_after, Option.or_none] at hengine

/-- After any requests an engine serves the records of the last load. -/
theorem serves_after_all :
    ((Engine.new emojiSet settings).afterAll requests).Serves
      (standingAfter emojiSet (requests.map (Request.effect settings.toneNames))).records := by
  have hreflects := reflects_standing_after emojiSet settings requests
  refine ⟨?_, ?_, ?_⟩
  · unfold Standing.records
    split
    · rename_i records hlast
      obtain ⟨effect, heffect, hloaded⟩ := List.mem_filterMap.1 (List.mem_of_getLast? hlast)
      obtain ⟨request, _, rfl⟩ := List.mem_map.1 heffect
      exact (Request.loads_of_publish hloaded).complete
    · simp
    · simp
  · rw [hreflects.index_eq, Standing.index_eq]
  · rw [hreflects.settings_eq]
    exact hreflects.handles_eq

variable {emojiSet settings requests} {engine : Engine} {records : List Record}

/-- The index of a serving engine is built. -/
theorem Serves.built (h : engine.Serves records) : engine.published.index.Built := by
  rw [h.index_eq]
  exact Index.built_of_records records

/-- The index of a serving engine has all records that it serves. -/
theorem Serves.records_eq (h : engine.Serves records) :
    engine.published.index.records.toList = records := by
  rw [h.index_eq]
  exact Index.records_of_all_texts fun record hmem => (h.complete record hmem).text_ne_nil

/-- Under every number stands the handle with which its record is drawn. -/
theorem Serves.exists_handle (h : engine.Serves records) (id : engine.published.index.Id) :
    ∃ handle, engine.published.handleOf id = some handle ∧
      engine.Draws (engine.published.index.record id) handle := by
  obtain ⟨handle, hplace, hhandle⟩ := Handle.exists_handle_of_id h.handles_eq id
  exact ⟨handle, hplace, draws_of_record hhandle⟩

/-- An emoji in a text comes with the handle of its record. -/
theorem Serves.exists_emoji_handle (h : engine.Serves records) {text : Text} {record : Record}
    {handle : Option Handle} (hemoji : .emoji record handle ∈ engine.parse text) :
    ∃ own, handle = some own ∧ engine.Draws record own ∧ own.name <:+: text := by
  obtain ⟨id, part, hpart, hstarts, rfl, rfl⟩ := Index.emoji_of_mem_scan_from hemoji
  obtain ⟨own, hown, hdraws⟩ := h.exists_handle id
  refine ⟨own, hown, hdraws, ?_⟩
  have hprefix := Index.prefix_of_match_start (Index.emoji_at_start_eq_some.1 hstarts).2
  rw [hdraws.name_eq]
  exact hprefix.isInfix.trans hpart.isInfix

/-- The short code that stands for a record is never missing where a text is described. -/
theorem Serves.exists_description (h : engine.Serves records) (text : Text) :
    ∃ description, Command.describeText engine text = .ok description := by
  obtain ⟨descriptions, hall⟩ : ∃ descriptions,
      (engine.parse text).mapM Command.describe = .ok descriptions := by
    refine Handle.exists_map_list.2 fun segment hsegment => ?_
    cases segment with
    | plain run => exact ⟨_, rfl⟩
    | emoji record handle =>
        obtain ⟨own, _, hdraws, _⟩ := h.exists_emoji_handle hsegment
        have hnamed := Handle.exists_of_record.1 ⟨own, hdraws.of_record⟩
        obtain ⟨code, hcode⟩ := Option.isSome_iff_exists.1 (List.isSome_head?.2 hnamed)
        have hprimary : record.primaryShortCode? = some code := hcode
        simp only [Command.describe, hprimary]
        exact ⟨_, rfl⟩
  rw [Command.describeText, hall]
  exact ⟨_, rfl⟩

/-- The record of a unified code and its handle are found under one number. -/
theorem Serves.exists_code_handle (h : engine.Serves records) {query : Text} {record : Record}
    (hfound : engine.ofUnifiedCode? query = some record) :
    ∃ own, engine.handleOf? query = some own ∧ engine.Draws record own := by
  obtain ⟨id, hid, rfl⟩ := Option.map_eq_some_iff.1 hfound
  obtain ⟨own, hown, hdraws⟩ := h.exists_handle id
  refine ⟨own, ?_, hdraws⟩
  rw [handleOf?, hid]
  exact hown

/-- There is a handle for a unified code exactly if there is a record. -/
theorem Serves.is_some_handle_iff (h : engine.Serves records) (query : Text) :
    (engine.handleOf? query).isSome ↔ (engine.ofUnifiedCode? query).isSome := by
  cases hfound : engine.ofUnifiedCode? query with
  | none =>
      have hid := Option.map_eq_none_iff.1 hfound
      rw [handleOf?, hid]
      rfl
  | some record =>
      obtain ⟨own, hown, _⟩ := h.exists_code_handle hfound
      rw [hown]
      exact Iff.rfl

/-- The unified code of a record is found, in whatever letter case it is asked for. -/
theorem Serves.exists_of_code (h : engine.Serves records) {record : Record}
    (hmem : record ∈ records) {query : Text} (hquery : query.uppercase = record.unifiedCode) :
    ∃ found, engine.ofUnifiedCode? query = some found ∧
      found.unifiedCode = record.unifiedCode := by
  have hlookup := h.built.of_unified_code_eq query
  rw [h.records_eq, hquery] at hlookup
  have hne : records.filter (·.unifiedCode = record.unifiedCode) ≠ [] :=
    List.ne_nil_of_mem (List.mem_filter.2 ⟨hmem, decide_eq_true rfl⟩)
  obtain ⟨found, hfound⟩ := Option.isSome_iff_exists.1 (List.getLast?_isSome.2 hne)
  refine ⟨found, hlookup.trans hfound, ?_⟩
  exact of_decide_eq_true (List.mem_filter.1 (List.mem_of_getLast? hfound)).2

/-- After any requests, every emoji in a text comes with the handle that belongs to its record, and
so does the record of every unified code that leads to one. Each record of the last load is found
under its unified code, whether as it was written in the entry or in upper case. Reading never fails:
all numbers in the tables of the index are numbers of records and of handles, and every record has a
short code that stands for it where a text is described. -/
theorem reads_after_all (emojiSet : Platform) (settings : EngineSettings)
    (requests : List Request) :
    let engine := (Engine.new emojiSet settings).afterAll requests
    let effects := requests.map (Request.effect settings.toneNames)
    let records := (standingAfter emojiSet effects).records
    engine.settings = settings ∧
    (∀ text record handle, .emoji record handle ∈ engine.parse text →
      ∃ own, handle = some own ∧ engine.Draws record own ∧ own.name <:+: text) ∧
    (∀ query, ((engine.handleOf? query).isSome ↔ (engine.ofUnifiedCode? query).isSome) ∧
      ∀ record, engine.ofUnifiedCode? query = some record →
        ∃ own, engine.handleOf? query = some own ∧ engine.Draws record own) ∧
    (∀ record ∈ records, ∀ entry shortCode, (Entry.record entry shortCode).value = some record →
      ∀ query ∈ [entry.writtenCode, entry.writtenCode.uppercase],
        ∃ found own, engine.ofUnifiedCode? query = some found ∧
          found.unifiedCode = record.unifiedCode ∧ engine.handleOf? query = some own) ∧
    (engine.published.index.records.toList = records ∧
      (IndexPass.run records).Bounded engine.count ∧
      engine.published.handles.size = engine.count ∧
      (∀ record ∈ records, ∃ code, record.primaryShortCode? = some code) ∧
      ∀ text, ∃ description, Command.describeText engine text = .ok description) := by
  intro engine effects records
  have hserves : engine.Serves records := serves_after_all emojiSet settings requests
  refine ⟨(reflects_standing_after emojiSet settings requests).settings_eq,
    fun _ _ _ => hserves.exists_emoji_handle,
    fun query => ⟨hserves.is_some_handle_iff query, fun _ => hserves.exists_code_handle⟩,
    ?_, hserves.records_eq, ?_, Handle.size_outcome_resolve hserves.handles_eq, ?_,
    hserves.exists_description⟩
  · intro record hmem entry shortCode hmade query hquery
    have hupper : query.uppercase = record.unifiedCode := by
      obtain ⟨_, text, _, rfl⟩ := Entry.record_eq_some.1 hmade
      rcases List.mem_pair.1 hquery with rfl | rfl
      · rfl
      · exact Text.uppercase_uppercase _
    obtain ⟨found, hfound, hcode⟩ := hserves.exists_of_code hmem hupper
    obtain ⟨own, hown, _⟩ := hserves.exists_code_handle hfound
    exact ⟨found, own, hfound, hcode, hown⟩
  · rw [count, hserves.index_eq]
    exact IndexPass.bounded_run records
  · intro record hmem
    exact Option.isSome_iff_exists.1
      (List.isSome_head?.2 (hserves.complete record hmem).short_codes_ne_nil)

/-- The set in use draws the only record, but the engine has no address for it, so the handle stands
below the fixed one. The code of the entry is written in lower case. -/
theorem reads_after_all_without_address :
    let settings : EngineSettings := ⟨Table.ofList [(.twitter, "t/")], .nan, ∅⟩
    let value : Json := .object [("short_names", .array [.string "ok"]),
      ("unified", .string "1f197"), ("has_img_apple", .bool true)]
    let requests : List Request := [.choose .apple, .load "list" (.value (.array [value]))]
    let engine := (Engine.new .twitter settings).afterAll requests
    let entry : Entry := ⟨["ok"], some "1f197", none, .ofList [.apple], []⟩
    let record : Record := ⟨["ok"], "1F197", [0x1F197], none, .ofList [.apple]⟩
    let url : Text := ImageAddresses.unlisted ++ "1f197.png"
    let handle : Handle := ⟨[0x1F197], url, ":ok:<br/>Emoji", .nan⟩
    let text : Text := [0x61, 0x1F197]
    (.emoji record (some handle) ∈ engine.parse text ∧ engine.Draws record handle ∧
        handle.name <:+: text) ∧
      (engine.ofUnifiedCode? "1F197" = some record ∧
        ∃ own, engine.handleOf? "1F197" = some own ∧ engine.Draws record own) ∧
      ((entry.record none).value = some record ∧
        ∃ found own, engine.ofUnifiedCode? "1f197" = some found ∧ found.unifiedCode = "1F197" ∧
          engine.handleOf? "1f197" = some own) := by
  intro settings value requests engine entry record url handle text
  obtain ⟨_, hparse, hcodes, hloaded, _⟩ := reads_after_all .twitter settings requests
  have hemoji : .emoji record (some handle) ∈ engine.parse text := by decide +kernel
  have hfound : engine.ofUnifiedCode? "1F197" = some record := by decide +kernel
  have hmade : (entry.record none).value = some record := by decide +kernel
  have hserved : record ∈ (standingAfter .twitter
      (requests.map (Request.effect settings.toneNames))).records := by decide +kernel
  refine ⟨⟨hemoji, ?_⟩, ⟨hfound, (hcodes "1F197").2 record hfound⟩, hmade, ?_⟩
  · obtain ⟨own, hown, hdraws, hname⟩ := hparse text record (some handle) hemoji
    cases hown
    exact ⟨hdraws, hname⟩
  · exact hloaded record hserved entry none hmade "1f197" List.mem_cons_self

end Engine

end EmojiText
