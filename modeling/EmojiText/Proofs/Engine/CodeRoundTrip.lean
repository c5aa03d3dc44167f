import EmojiText.Proofs.Code.Spelling
import EmojiText.Proofs.Engine.Serving

/-!
# From a written code to its record

A code of one to nine scalar values may be written with zeros in front of its parts and with letters
in either case. At the end of a dataset, the entry with this code and one alias makes a record of the
scalar values, and an engine that has loaded the dataset finds this record under the code in any
letter case, together with a handle whose address ends with the code in lower case. The main
statement is `code_round_trip`.
-/

namespace EmojiText

open Code

/-- The entry with one alias and a code. -/
def Entry.written (name code : Text) : Json :=
  .object [("short_names", .array [.string name]), ("unified", .string code)]

/-- The record with one alias, a code in upper case and a text, of which no platform has an image. -/
def Record.written (name code text : Text) : Record := ⟨[name], code.uppercase, text, none, ∅⟩

variable {name code : Text} {points : List CodePoint}

/-- An entry with an alias and a code that lists code points makes the record of these. -/
theorem RawEntry.records_of_written (names : ToneNames) (hname : name ≠ []) (hcode : code ≠ [])
    (hpoints : codePoints code = .ok points) :
    RawEntry.records names (.value (Entry.written name code)) = [Record.written name code points] := by
  have hentry : (Entry.ofRaw (.value (Entry.written name code))).value
      = some ⟨[name], some code, none, ∅, []⟩ := rfl
  have hbase : (⟨[name], some code, none, ∅, []⟩ : Entry).base?
      = some (Record.written name code points) := by
    have hcodes : (⟨[name], some code, none, ∅, []⟩ : Entry).shortCodes none = [name] := by
      simp [Entry.shortCodes, hname]
    have hfirst : orText (some code) none = some code := by
      cases code with
      | nil => exact absurd rfl hcode
      | cons c rest => rfl
    refine Entry.record_eq_some.2 ⟨by simp [hcodes], points, ?_, ?_⟩
    · exact Entry.text_eq_ok.2 ⟨code, rfl, hpoints⟩
    · rw [hcodes, Entry.recordWith, Entry.unifiedCode, hfirst]
      rfl
  rw [RawEntry.records, hentry, Option.map_some, Option.getD_some, Entry.records, hbase]
  rfl

/-- At the end of a dataset such an entry makes the last record. -/
theorem Dataset.outcome_load_of_written {source : Text} {data : DatasetSource} {room : Nat}
    {items : List Json} (names : ToneNames) (hname : name ≠ []) (hcode : code ≠ [])
    (hpoints : codePoints code = .ok points)
    (hitems : (Dataset.items source data room).outcome
      = .ok (items ++ [Entry.written name code])) :
    ∃ earlier, (Dataset.load names source data room).outcome
      = .ok (earlier ++ [Record.written name code points]) := by
  refine ⟨(items.map .value).flatMap (RawEntry.records names), ?_⟩
  rw [Dataset.load, Attempt.outcome_bind, hitems]
  refine congrArg Except.ok ?_
  rw [value_of_entries, List.map_append, List.flatMap_append, List.map_singleton,
    List.flatMap_singleton, RawEntry.records_of_written names hname hcode hpoints]

namespace Engine

/-- After a load that gives records an engine serves them. -/
theorem serves_of_load {emojiSet : Platform} {settings : EngineSettings} (requests : List Request)
    {source : Text} {data : DatasetSource} {room : Nat} {records : List Record}
    (h : (Dataset.load settings.toneNames source data room).outcome = .ok records) :
    ((Engine.new emojiSet settings).afterAll (requests ++ [.load source data room])).Serves
      records := by
  have hserves := serves_after_all emojiSet settings (requests ++ [.load source data room])
  have heffect : (Request.load source data room).effect settings.toneNames = .publish records := by
    rw [Request.effect, h]
    rfl
  rw [List.map_append, List.map_singleton, heffect, standingAfter, Standing.records,
    List.filterMap_append] at hserves
  simpa [Effect.loaded?] using hserves

/-- Of several records with a unified code the last one is found under it. -/
theorem Serves.of_last {engine : Engine} {earlier : List Record} {record : Record}
    (h : engine.Serves (earlier ++ [record])) {query : Text}
    (hquery : query.uppercase = record.unifiedCode) :
    engine.ofUnifiedCode? query = some record := by
  have hlookup := h.built.of_unified_code_eq query
  rw [h.records_eq, hquery, List.filter_append] at hlookup
  have hlast : [record].filter (·.unifiedCode = record.unifiedCode) = [record] := by simp
  rw [hlast, List.getLast?_concat] at hlookup
  exact hlookup

/-- The code that is written from one to nine scalar values lists these values. Where the entry with
this code and one alias ends a dataset, the dataset loads with a last record that has the values as
its text and the code in upper case as its unified code. After requests that end with this load, an
engine finds the record under every text that differs from the code at most in its letter case, and
with it a handle whose address is that of the images in use, then the code in lower case and the
ending. -/
theorem code_round_trip {parts : List Text} (hspells : List.Forall₂ Spells parts points)
    (hscalar : ∀ c ∈ points, c.isScalar = true) (hne : points ≠ []) (hlength : points.length ≤ 9)
    (hname : name ≠ []) :
    let code := Text.join [hyphen] parts
    let record : Record := ⟨[name], code.uppercase, points, none, ∅⟩
    codePoints code = .ok points ∧
    ∀ (emojiSet : Platform) (settings : EngineSettings) (requests : List Request) (source : Text)
      (data : DatasetSource) (room : Nat) (items : List Json),
      (Dataset.items source data room).outcome = .ok (items ++ [Entry.written name code]) →
      (∃ earlier, (Dataset.load settings.toneNames source data room).outcome
        = .ok (earlier ++ [record])) ∧
      let engine := (Engine.new emojiSet settings).afterAll (requests ++ [.load source data room])
      ∀ query, (query.lowercase = code.lowercase ∨ query.uppercase = code.uppercase) →
        engine.ofUnifiedCode? query = some record ∧
        ∃ handle, engine.handleOf? query = some handle ∧
          handle.url = settings.addresses.of (Handle.platformFor record engine.emojiSet)
            ++ code.lowercase ++ ".png" := by
  intro code record
  have hunits : ∀ c ∈ code, c ∈ units := units_of_spells hspells
  have hpoints : codePoints code = .ok points :=
    code_points_of_spells hspells hscalar hne hlength
  refine ⟨hpoints, fun emojiSet settings requests source data room items hitems => ?_⟩
  obtain ⟨earlier, hload⟩ := Dataset.outcome_load_of_written settings.toneNames hname
    (ne_nil_of_spells hspells hne) hpoints hitems
  refine ⟨⟨earlier, hload⟩, ?_⟩
  intro engine query hquery
  have hupper : query.uppercase = code.uppercase :=
    hquery.elim (uppercase_eq_of_lowercase_eq hunits) id
  have hserves : engine.Serves (earlier ++ [record]) := serves_of_load requests hload
  have hfound : engine.ofUnifiedCode? query = some record := hserves.of_last hupper
  obtain ⟨handle, hhandle, hdraws⟩ := hserves.exists_code_handle hfound
  refine ⟨hfound, handle, hhandle, ?_⟩
  have hsettings : engine.settings = settings :=
    (reflects_standing_after emojiSet settings (requests ++ [.load source data room])).settings_eq
  rw [Handle.url_of_record hdraws.of_record, Handle.urlFor, hsettings,
    show record.unifiedCode = code.uppercase from rfl, lowercase_uppercase hunits]

/-- Four scalar values at the edges of their range, written with zeros in front and in both letter
cases, after another entry in the text of a dataset; the code is looked up in mixed letter case. -/
theorem code_round_trip_at_edges :
    let points : List CodePoint := [0x0, 0xD7FF, 0xE000, 0x10FFFF]
    let parts : List Text := ["000", "d7ff", "0E000", "10FfFf"]
    let code : Text := "000-d7ff-0E000-10FfFf"
    let entry : Json := .object [("short_names", .array []), ("unified", .string "41")]
    let data : DatasetSource := .value (.array [entry, Entry.written "edge" code])
    let record : Record := ⟨["edge"], "000-D7FF-0E000-10FFFF", points, none, ∅⟩
    let settings : EngineSettings := ⟨Table.ofList [(.twitter, "t/")], .nan, ∅⟩
    let engine := (Engine.new .apple settings).afterAll [.load "list" data]
    (List.Forall₂ Spells parts points ∧ (∀ c ∈ points, c.isScalar = true) ∧ points ≠ [] ∧
        points.length ≤ 9 ∧ Text.join [hyphen] parts = code) ∧
      codePoints code = .ok points ∧
      engine.ofUnifiedCode? "000-D7ff-0e000-10fffF" = some record ∧
      ∃ handle, engine.handleOf? "000-D7ff-0e000-10fffF" = some handle ∧
        handle.url = "t/000-d7ff-0e000-10ffff.png" := by
  intro points parts code entry data record settings engine
  have hspells : List.Forall₂ Spells parts points :=
    .cons ⟨2, by decide +kernel⟩ (.cons ⟨0, by decide +kernel⟩
      (.cons ⟨1, by decide +kernel⟩ (.cons ⟨0, by decide +kernel⟩ .nil)))
  have hscalar : ∀ c ∈ points, c.isScalar = true := List.all_eq_true.1 (by decide +kernel)
  have hne : points ≠ [] := List.cons_ne_nil _ _
  have hlength : points.length ≤ 9 := by decide
  have hjoin : Text.join [hyphen] parts = code := by decide +kernel
  have hname : ("edge" : Text) ≠ [] := by decide +kernel
  obtain ⟨hpoints, hloaded⟩ := code_round_trip hspells hscalar hne hlength hname
  rw [hjoin] at hpoints hloaded
  obtain ⟨_, hfound⟩ := hloaded .apple settings [] "list" data _ [entry] rfl
  obtain ⟨hrecord, handle, hhandle, hurl⟩ :=
    hfound "000-D7ff-0e000-10fffF" (.inl (by decide +kernel))
  have hcode : code.uppercase = "000-D7FF-0E000-10FFFF" := by decide +kernel
  have hplatform : ∀ chosen, Handle.platformFor record chosen = .twitter := by
    intro chosen
    cases chosen <;> rfl
  rw [hcode] at hrecord hurl
  rw [hplatform] at hurl
  exact ⟨⟨hspells, hscalar, hne, hlength, hjoin⟩, hpoints, hrecord, handle, hhandle,
    hurl.trans (by decide +kernel)⟩

end Engine

end EmojiText
