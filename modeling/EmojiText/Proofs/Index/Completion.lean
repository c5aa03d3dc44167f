import EmojiText.Proofs.Index.Representation
import EmojiText.Proofs.Text.CaseParts

/-!
# Completions

The completions of a text are the first short codes, in ascending order, that start with its
lower-case form: `completions_exact` says so of the records, whatever tables stand between them and
the answer. So a higher limit adds to the end of an answer, and going on with the text leaves those
codes that go on with it. But a text that is the start of a short code need not have this code among
its completions, because the two are lowered apart: `completes_unless_cut_word` says when it has.
-/

namespace EmojiText

/-- The different lower-case forms of the short codes of all records with a text, as far as they
start with the lower-case form of a given text. -/
def codesFrom (records : List Record) (start : Text) : Finset Text :=
  (((records.filter (·.text ≠ [])).flatMap Record.shortCodes).map Text.lowercase).toFinset.filter
    (start.lowercase <+: ·)

namespace Index

variable {index : Index} {records : List Record} {start code : Text}

/-- All short codes are completions that start with the lower-case form of the text. -/
theorem mem_completions :
    code ∈ index.completions start none ↔ code ∈ index.shortCodes ∧ start.lowercase <+: code := by
  rw [completions, Text.upTo, List.mem_filter, List.isPrefixOf_iff_prefix]

/-- The completions without a limit are the codes that start as asked. -/
theorem mem_completions_of_records :
    code ∈ (ofRecords records).completions start none ↔ code ∈ codesFrom records start := by
  simp only [mem_completions, mem_short_codes_of_records, Record.has_short_code_iff, codesFrom,
    Finset.mem_filter, List.mem_toFinset, List.mem_map, List.mem_flatMap, List.mem_filter,
    decide_eq_true_eq]
  tauto

/-- The completions without a limit are in ascending order. -/
theorem ascending_completions (records : List Record) (start : Text) :
    ((ofRecords records).completions start none).Pairwise Text.Before :=
  (represents_of_records records).ascending.filter _

/-- A limit leaves the start of the completions. -/
theorem completions_of_limit (index : Index) (start : Text) (limit : Nat) :
    index.completions start (some limit) = (index.completions start none).take limit := by
  simp only [completions, Text.upTo, Int.natCast_nonneg, if_true, Int.toNat_natCast]

/-- Over the index of a list of records, the completions of a text up to a limit are the first texts
in ascending order, without repetition, of those lower-case forms of short codes of records with a
text that start with the lower-case form of the text; without a limit they are all of them. A higher
limit only adds to their end, and what is asked with a longer lower-case form leaves those of the
completions that start with it. -/
theorem completions_exact (records : List Record) :
    let index := (build records).value
    (∀ (start : Text) (limit : Nat) (answer : List Text),
      index.completions start (some limit) = answer ↔
        Text.FirstOf (codesFrom records start) limit answer) ∧
    (∀ start : Text, (index.completions start none).Pairwise Text.Before ∧
      ∀ code, code ∈ index.completions start none ↔ code ∈ codesFrom records start) ∧
    (∀ (start : Text) (limit higher : Nat), limit ≤ higher →
      index.completions start (some limit) <+: index.completions start (some higher)) ∧
    ∀ start longer : Text, start.lowercase <+: longer.lowercase →
      index.completions longer none
        = (index.completions start none).filter (longer.lowercase.isPrefixOf ·) := by
  intro index
  have hascending := ascending_completions records
  have hmem : ∀ start code, code ∈ index.completions start none ↔ code ∈ codesFrom records start :=
    fun _ _ => mem_completions_of_records
  refine ⟨?_, fun start => ⟨hascending start, hmem start⟩, ?_, ?_⟩
  · intro start limit answer
    rw [completions_of_limit]
    exact Text.take_first_of_iff (hascending start) (hmem start)
  · intro start limit higher hle
    rw [completions_of_limit, completions_of_limit]
    exact List.take_prefix_take_left hle
  · intro start longer hlonger
    refine (hascending longer).eq_of_mem_iff ((hascending start).filter _) fun code => ?_
    rw [List.mem_filter, mem_completions, mem_completions, List.isPrefixOf_iff_prefix]
    constructor
    · rintro ⟨hcode, hstarts⟩
      exact ⟨⟨hcode, hlonger.trans hstarts⟩, hstarts⟩
    · rintro ⟨⟨hcode, _⟩, hstarts⟩
      exact ⟨hcode, hstarts⟩

/-- Two records share a short code in different letter cases, and the one between them has no text.
-/
theorem completions_exact_of_shared_code :
    let records : List Record := [⟨["Smile", "smirk"], "31", [0x31], none, ∅⟩,
      ⟨["smash"], "32", [], none, ∅⟩, ⟨["smile", "go"], "33", [0x33], none, ∅⟩]
    let index := (build records).value
    let both : List Text := ["smile", "smirk"]
    index.completions "SM" none = both ∧
    index.completions "SM" (some 1) <+: index.completions "SM" (some 2) ∧
    index.completions "smiR" none
      = (index.completions "SM" none).filter ((Text.lowercase "smiR").isPrefixOf ·) := by
  intro records index both
  obtain ⟨_, _, hlimit, hlonger⟩ := completions_exact records
  have hstart : Text.lowercase "SM" <+: Text.lowercase "smiR" := by decide +kernel
  refine ⟨by cbv, hlimit "SM" 1 2 (by decide), hlonger "SM" "smiR" hstart⟩

/-- The short code of a record with a text is among the completions of its front exactly if the cut
behind this front does not part a capital sigma from the rest of its word. -/
theorem completes_unless_cut_word {record : Record} (hmem : record ∈ records)
    (htext : record.text ≠ []) {front rest : Text} (hcode : front ++ rest ∈ record.shortCodes) :
    (front ++ rest).lowercase ∈ (build records).value.completions front none ↔
      ¬ Text.CutsWord front rest := by
  have hlisted : (front ++ rest).lowercase ∈ (ofRecords records).shortCodes :=
    mem_short_codes_of_records.2
      ⟨record, hmem, htext, Record.has_short_code_iff.2 ⟨_, hcode, rfl⟩⟩
  rw [← Text.lowercase_prefix_iff]
  exact mem_completions.trans (and_iff_right hlisted)

/-- A cut behind a sigma inside of a word, and one in front of it. -/
theorem completes_unless_cut_word_at_sigma :
    let record : Record := ⟨["ΑΣΑ"], "31", [0x31], none, ∅⟩
    let index := (build [record]).value
    Text.lowercase "ΑΣΑ" ∉ index.completions "ΑΣ" none ∧
      Text.lowercase "ΑΣΑ" ∈ index.completions "Α" none := by
  intro record index
  have hcut : Text.CutsWord "ΑΣ" "Α" := ⟨"Α", [], by decide, by simp, by decide +kernel⟩
  have hnocut : ¬ Text.CutsWord "Α" "ΣΑ" := fun hcuts =>
    absurd hcuts.sigma_mem (by decide)
  have hmem : record ∈ [record] := List.mem_singleton_self record
  have htext : record.text ≠ [] := List.cons_ne_nil _ _
  have hbehind : Text.ofString "ΑΣ" ++ "Α" ∈ record.shortCodes := List.mem_cons_self
  have hfront : Text.ofString "Α" ++ "ΣΑ" ∈ record.shortCodes := List.mem_cons_self
  exact ⟨fun hfound => (completes_unless_cut_word hmem htext hbehind).1 hfound hcut,
    (completes_unless_cut_word hmem htext hfront).2 hnocut⟩

/-- A short code in capital letters is lost when it is typed up to the sigma inside of its word: on
its own, the sigma becomes a final one. -/
theorem completion_lost_behind_sigma :
    let record : Record := ⟨["ΑΣΑ"], "31", [0x31], none, ∅⟩
    let code : Text := "ΑΣΑ"
    let front : Text := "ΑΣ"
    (record.text ≠ [] ∧ code ∈ record.shortCodes ∧ front <+: code) ∧
      code.lowercase ∉ (build [record]).value.completions front none := by
  intro record code front
  refine ⟨by decide, fun hfound => ?_⟩
  have hstarts : ¬ front.lowercase <+: code.lowercase := by decide +kernel
  exact hstarts (mem_completions.1 hfound).2

end Index

end EmojiText
