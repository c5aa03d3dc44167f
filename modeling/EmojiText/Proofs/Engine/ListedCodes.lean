import EmojiText.Proofs.Engine.Serving
import EmojiText.Proofs.Index.Completion
import EmojiText.Proofs.Text.Parts

/-!
# The short codes that an engine lists

What an engine is asked for loses its colons, at both ends for a look-up and in front for a
completion; the short codes of records keep theirs. So a short code that an engine lists can be used
with it exactly if no colon stands in front of it and what is left without the colons at its end is
listed as well, which is the main statement `usable_iff_after_all`. Short codes without colons at
their ends can all be used, and a colon alone keeps one from that, as in
`listed_code_behind_colon_not_usable`.
-/

namespace EmojiText

open Token (colon)

namespace Text

variable {t : Text} {c : CodePoint}

/-- The table of lower-case letters leads to a colon from the colon alone. -/
theorem eq_colon_of_mem_lowered {before after : Text} (h : colon ∈ lowered before c after) :
    c = colon := by
  unfold lowered at h
  split at h
  · unfold smallSigma at h
    split at h <;> exact absurd h (by decide)
  · exact CaseMap.eq_of_mem_apply is_stable_lowercase_map (by decide +kernel) (by decide +kernel) h

/-- A lower-case form starts with a colon only if its text does. -/
theorem head_lowercase_ne_colon (h : t.head? ≠ some colon) : t.lowercase.head? ≠ some colon := by
  cases t with
  | nil => exact h
  | cons c rest =>
      intro hhead
      rw [lowercase_cons, List.head?_append_of_ne_nil _ (lowered_ne_nil [] c rest)] at hhead
      exact h (congrArg some (eq_colon_of_mem_lowered (List.mem_of_head? hhead)))

/-- A lower-case form ends with a colon only if its text does. -/
theorem getLast_lowercase_ne_colon (h : t.getLast? ≠ some colon) :
    t.lowercase.getLast? ≠ some colon := by
  rcases List.eq_nil_or_concat' t with rfl | ⟨front, c, rfl⟩
  · exact h
  · intro hlast
    rw [List.getLast?_concat] at h
    rw [lowercase_concat,
      List.getLast?_append_of_ne_nil _ (lowered_ne_nil front.reverse c [])] at hlast
    exact h (congrArg some (eq_colon_of_mem_lowered (List.mem_of_getLast? hlast)))

end Text

namespace Engine

/-- A short code can be used with an engine: with colons around it and without, the same record is
found, and the short code completes itself. -/
structure Usable (engine : Engine) (code : Text) : Prop where
  found : ∃ record, engine.ofShortCode? code = some record ∧
    engine.ofShortCode? (colon :: code ++ [colon]) = some record
  completed : code ∈ engine.completions code none

variable {engine : Engine} {records : List Record} {code : Text}

/-- A colon on both sides of a short code does not matter. -/
theorem of_short_code_between_colons (engine : Engine) (code : Text) :
    engine.ofShortCode? (colon :: code ++ [colon]) = engine.ofShortCode? code := by
  rw [ofShortCode?, ofShortCode?, Text.trim_between (decide_eq_true rfl)]

/-- The short codes that are listed are those of the records, in lower case. -/
theorem Serves.mem_short_codes (h : engine.Serves records) :
    code ∈ engine.shortCodes ↔ ∃ record ∈ records, record.hasShortCode code = true := by
  rw [shortCodes, h.index_eq]
  refine Index.mem_short_codes_of_records.trans (exists_congr fun record => ?_)
  exact and_congr_right fun hmem => and_iff_right (h.complete record hmem).text_ne_nil

/-- The empty short code is not listed. -/
theorem Serves.nil_not_listed (h : engine.Serves records) : [] ∉ engine.shortCodes := by
  intro hlisted
  obtain ⟨record, hmem, hcode⟩ := h.mem_short_codes.1 hlisted
  obtain ⟨code, hcode, hnil⟩ := Record.has_short_code_iff.1 hcode
  exact (h.complete record hmem).short_code_ne_nil code hcode (Text.lowercase_eq_nil_iff.1 hnil)

/-- What is listed is in lower case, and so is all that is made of its code points. -/
theorem Serves.lowercase_of_listed (h : engine.Serves records) (hcode : code ∈ engine.shortCodes)
    (part : Text) (hpart : part ⊆ code) : part.lowercase = part := by
  obtain ⟨record, _, hshort⟩ := h.mem_short_codes.1 hcode
  obtain ⟨written, _, rfl⟩ := Record.has_short_code_iff.1 hshort
  exact Text.lowercase_after_of_fixed
    (fun c hc => Text.apply_of_mem_lowercase_after (hpart hc)) []

/-- A listed short code leads to a record exactly if it is listed without the colons at its ends,
too. -/
theorem Serves.exists_of_listed_iff (h : engine.Serves records)
    (hcode : code ∈ engine.shortCodes) :
    (∃ record, engine.ofShortCode? code = some record) ↔
      code.trim (· = colon) ∈ engine.shortCodes := by
  have hlower := h.lowercase_of_listed hcode (code.trim (· = colon))
    fun _ => Text.mem_of_mem_trim
  rw [ofShortCode?, shortCodes, h.index_eq]
  exact Index.exists_of_short_code_iff.trans (by rw [hlower]; rfl)

/-- A listed short code completes itself exactly if no colon stands in front of it, or if it has
nothing but colons. -/
theorem Serves.completed_iff (h : engine.Serves records) (hcode : code ∈ engine.shortCodes) :
    code ∈ engine.completions code none ↔ code.head? ≠ some colon ∨ ∀ c ∈ code, c = colon := by
  have hlower := h.lowercase_of_listed hcode (code.dropWhile (· = colon))
    (List.dropWhile_sublist _).subset
  have hlisted : code ∈ engine.published.index.shortCodes := hcode
  have hhead : (∀ c ∈ code.head?, decide (c = colon) = false) ↔ code.head? ≠ some colon := by
    cases code <;> simp
  rw [completions, Index.mem_completions, and_iff_right hlisted, hlower,
    Text.drop_while_prefix_iff, hhead]
  simp only [decide_eq_true_eq]

/-- A listed short code can be used exactly if no colon stands in front of it and it is listed
without the colons at its end, too. -/
theorem Serves.usable_iff (h : engine.Serves records) (hcode : code ∈ engine.shortCodes) :
    engine.Usable code ↔
      code.head? ≠ some colon ∧ code.trim (· = colon) ∈ engine.shortCodes := by
  have hfound := h.exists_of_listed_iff hcode
  constructor
  · rintro ⟨⟨record, hrecord, _⟩, hcompleted⟩
    have htrim := hfound.1 ⟨record, hrecord⟩
    refine ⟨?_, htrim⟩
    rcases (h.completed_iff hcode).1 hcompleted with hhead | hcolons
    · exact hhead
    · -- nothing is left of colons, and nothing is not listed
      have hnil : code.trim (· = colon) = [] := by
        rw [Text.trim, List.dropWhile_eq_nil_iff.2 (by simpa using hcolons)]
        rfl
      exact absurd (hnil ▸ htrim) h.nil_not_listed
  · rintro ⟨hhead, htrim⟩
    obtain ⟨record, hrecord⟩ := hfound.2 htrim
    have hcolons := of_short_code_between_colons engine code
    exact ⟨⟨record, hrecord, hcolons.trans hrecord⟩, (h.completed_iff hcode).2 (.inl hhead)⟩

/-- If no short code of a record has a colon at an end, all that are listed can be used. -/
theorem Serves.usable_of_ends (h : engine.Serves records)
    (hends : ∀ record ∈ records, ∀ code ∈ record.shortCodes,
      code.head? ≠ some colon ∧ code.getLast? ≠ some colon) (hcode : code ∈ engine.shortCodes) :
    engine.Usable code := by
  obtain ⟨record, hmem, hshort⟩ := h.mem_short_codes.1 hcode
  obtain ⟨written, hwritten, rfl⟩ := Record.has_short_code_iff.1 hshort
  obtain ⟨hhead, hlast⟩ := hends record hmem written hwritten
  have hhead := Text.head_lowercase_ne_colon hhead
  have hlast := Text.getLast_lowercase_ne_colon hlast
  have htrim : written.lowercase.trim (· = colon) = written.lowercase := by
    refine Text.trim_of_ends (fun c hc => ?_) fun c hc => ?_
    · exact decide_eq_false fun heq => hhead (heq ▸ hc)
    · exact decide_eq_false fun heq => hlast (heq ▸ hc)
  exact (h.usable_iff hcode).2 ⟨hhead, by rwa [htrim]⟩

/-- After any requests, a colon on both sides of a short code does not change what is found. A short
code that is listed can be used exactly if no colon stands in front of it and what is left without
the colons at its end is listed; what is found then is the last record that has this for a short
code. So all that are listed can be used if no short code of the records has a colon at an end. -/
theorem usable_iff_after_all (emojiSet : Platform) (settings : EngineSettings)
    (requests : List Request) :
    let engine := (Engine.new emojiSet settings).afterAll requests
    let effects := requests.map (Request.effect settings.toneNames)
    let records := (standingAfter emojiSet effects).records
    (∀ code, engine.ofShortCode? (colon :: code ++ [colon]) = engine.ofShortCode? code) ∧
    (∀ code ∈ engine.shortCodes,
      (engine.Usable code ↔
        code.head? ≠ some colon ∧ code.trim (· = colon) ∈ engine.shortCodes) ∧
      engine.ofShortCode? code
        = (records.filter (·.hasShortCode (code.trim (· = colon)))).getLast?) ∧
    ((∀ record ∈ records, ∀ code ∈ record.shortCodes,
        code.head? ≠ some colon ∧ code.getLast? ≠ some colon) →
      ∀ code ∈ engine.shortCodes, engine.Usable code) := by
  intro engine effects records
  have hserves : engine.Serves records := serves_after_all emojiSet settings requests
  refine ⟨of_short_code_between_colons engine, ?_, fun hends _ => hserves.usable_of_ends hends⟩
  intro code hcode
  have hlower := hserves.lowercase_of_listed hcode (code.trim (· = colon))
    fun _ => Text.mem_of_mem_trim
  refine ⟨hserves.usable_iff hcode, ?_⟩
  rw [ofShortCode?, hserves.built.of_short_code_eq, hserves.records_eq, hlower]

/-- A colon behind a short code does no harm where the short code is listed without it, too, and one
in front of it always does. Without the two, all that is listed can be used. -/
theorem usable_iff_after_all_of_colons :
    let entry (codes : List Json) : Json :=
      .object [("short_names", .array codes), ("unified", .string "1F197")]
    let requests (codes : List Json) : List Request :=
      [.load "list" (.value (.array [entry codes]))]
    let mixed : List Json := [.string "ok:", .string "OK", .string ":a"]
    let plain : List Json := [.string "OK"]
    let engine := (Engine.new .twitter {}).afterAll (requests mixed)
    (engine.Usable "ok:" ∧ ¬ engine.Usable ":a") ∧
      ((Engine.new .twitter {}).afterAll (requests plain)).Usable "ok" := by
  intro entry requests mixed plain engine
  have hserves := serves_after_all .twitter {} (requests mixed)
  have hplain := serves_after_all .twitter {} (requests plain)
  obtain ⟨_, hlisted, _⟩ := usable_iff_after_all .twitter {} (requests mixed)
  obtain ⟨_, _, hall⟩ := usable_iff_after_all .twitter {} (requests plain)
  refine ⟨⟨?_, fun husable => ?_⟩, ?_⟩
  · refine (hlisted "ok:" (hserves.mem_short_codes.2 (by decide +kernel))).1.2 ⟨by decide, ?_⟩
    exact hserves.mem_short_codes.2 (by decide +kernel)
  · have hcode : Text.ofString ":a" ∈ engine.shortCodes :=
      hserves.mem_short_codes.2 (by decide +kernel)
    exact ((hlisted ":a" hcode).1.1 husable).1 (by decide)
  · exact hall (by decide +kernel) "ok" (hplain.mem_short_codes.2 (by decide +kernel))

/-- A listed short code with a colon in front is neither found nor completed. -/
theorem listed_code_behind_colon_not_usable :
    let entry : Json := .object [("short_names", .array [.string ":a"]),
      ("unified", .string "1F604")]
    let requests : List Request := [.load "list" (.value (.array [entry]))]
    let engine := (Engine.new .twitter {}).afterAll requests
    let code : Text := ":a"
    code ∈ engine.shortCodes ∧ engine.ofShortCode? code = none ∧
      engine.ofShortCode? (colon :: code ++ [colon]) = none ∧
      code ∉ engine.completions code none := by
  intro entry requests engine code
  have hserves := serves_after_all .twitter {} requests
  have hcode : code ∈ engine.shortCodes := hserves.mem_short_codes.2 (by decide +kernel)
  refine ⟨hcode, by decide +kernel, by decide +kernel, fun hcompleted => ?_⟩
  rcases (hserves.completed_iff hcode).1 hcompleted with hhead | hcolons
  · exact hhead (by decide)
  · exact absurd (hcolons 0x61 (by decide)) (by decide)

end Engine

end EmojiText
