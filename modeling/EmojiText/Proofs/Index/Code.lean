import EmojiText.Proofs.Index.LeadingUnit
import EmojiText.Proofs.Index.Records

/-!
# The record with a code

Several records may share a short code or a unified code, and then the last of them is found. The
main statements are `find_short_code` and `find_unified_code`, on the tables, and
`Built.of_short_code_eq` and `Built.of_unified_code_eq`: a look-up gives the last record with the
code.
-/

namespace EmojiText

/-- The record has a short code with the given lower-case form. -/
def Record.hasShortCode (record : Record) (key : Text) : Bool :=
  record.shortCodes.any (·.lowercase = key)

/-- A record has the lower-case form of a short code if that is the form of one of its own. -/
theorem Record.has_short_code_iff {record : Record} {key : Text} :
    record.hasShortCode key = true ↔ ∃ code ∈ record.shortCodes, code.lowercase = key := by
  simp [hasShortCode]

namespace Arena

variable (arena : Arena)

/-- Among the pairs that one record contributes, those with a key carry its number, and there are
some if it has the key as a short code. -/
theorem getLast_short_codes (key : Text) (id : arena.Id) :
    ((((arena.record id).shortCodes.map fun code => (code.lowercase, id)).filter
      (·.1 = key)).map Prod.snd).getLast?
      = Option.guard (fun id => (arena.record id).hasShortCode key) id := by
  rw [List.filter_map, List.map_map]
  show (((arena.record id).shortCodes.filter (·.lowercase = key)).map fun _ => id).getLast? = _
  rw [List.map_const', List.getLast?_replicate]
  by_cases h : (arena.record id).hasShortCode key = true
  · have hne : ((arena.record id).shortCodes.filter (·.lowercase = key)).length ≠ 0 := by
      simpa [Record.hasShortCode] using h
    rw [if_neg hne, Option.guard_eq_ite, if_pos h]
  · have hnil : ((arena.record id).shortCodes.filter (·.lowercase = key)).length = 0 := by
      simpa [Record.hasShortCode] using h
    rw [if_pos hnil, Option.guard_eq_ite, if_neg h]

/-- A short code in lower case leads to the last record that has it in some letter case. -/
theorem find_short_code (key : Text) :
    arena.shortCodeTable.find? key
      = (arena.ids.filter fun id => (arena.record id).hasShortCode key).getLast? := by
  rw [shortCodeTable, Table.find?_ofList, List.filter_flatMap, List.map_flatMap,
    List.getLast?_flatMap, List.getLast?_filter, List.find?_eq_findSome?_guard]
  simp only [getLast_short_codes]

/-- A unified code leads to the last record that has it. -/
theorem find_unified_code (key : Text) :
    arena.unifiedCodeTable.find? key
      = (arena.ids.filter fun id => (arena.record id).unifiedCode = key).getLast? := by
  rw [unifiedCodeTable, Table.find?_ofList, List.filter_map, List.map_map]
  simp [Function.comp_def]

/-- What holds of the last number with a property holds of the last record with it. -/
theorem map_record_getLast (p : Record → Bool) :
    ((arena.ids.filter fun id => p (arena.record id)).getLast?).map arena.record
      = (arena.records.toList.filter p).getLast? := by
  rw [← List.getLast?_map, ← map_record_ids, List.filter_map]
  rfl

end Arena

namespace Index

variable {index : Index} {records : List Record}

/-- Looking up a short code in any letter case gives the last record that has it. -/
theorem Built.of_short_code_eq (h : index.Built) (code : Text) :
    index.ofShortCode? code
      = (index.records.toList.filter (·.hasShortCode code.lowercase)).getLast? := by
  have htable : index.byShortCode.find? code.lowercase
      = index.shortCodeTable.find? code.lowercase := by
    rw [h]
    rfl
  rw [ofShortCode?, idOfShortCode?, htable, Arena.find_short_code]
  exact index.map_record_getLast (·.hasShortCode code.lowercase)

/-- Looking up a unified code in any letter case gives the last record that has it. -/
theorem Built.of_unified_code_eq (h : index.Built) (code : Text) :
    index.ofUnifiedCode? code
      = (index.records.toList.filter (·.unifiedCode = code.uppercase)).getLast? := by
  have htable : index.byUnifiedCode.find? code.uppercase
      = index.unifiedCodeTable.find? code.uppercase := by
    rw [h]
    rfl
  rw [ofUnifiedCode?, idOfUnifiedCode?, htable, Arena.find_unified_code]
  exact index.map_record_getLast (·.unifiedCode = code.uppercase)

end Index

end EmojiText
