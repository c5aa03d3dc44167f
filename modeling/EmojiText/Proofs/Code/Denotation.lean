import EmojiText.Proofs.Code.Canonical
import EmojiText.Proofs.Code.Grammar
import EmojiText.Proofs.Dataset.Records

/-!
# What upper-case codes list

The text of a record is decoded from a code as it is written, and the key of the record is the
upper-case form of a code. A code that lists code points is made of blanks, decimal digits, signs,
marks, underscores and hexadecimal letters. Of these upper case changes the letters of ASCII only,
and each of them into a single one: blanks and digits lie apart from everything in the table of
upper-case letters. Capital letters are the same to literals as small ones. So an upper-case form
lists the code points of the code, and the main statement `code_points_of_unified_code` has this for
codes and for the keys of records.
-/

namespace EmojiText

namespace Code

open Text CodePoint

variable {c : CodePoint} {written : Text} {points : List CodePoint}

/-! ### Capital letters in codes -/

/-- A capital letter is thirty-two numbers below the small one, and all else stays. -/
theorem capital_cases (c : CodePoint) :
    (0x61 ≤ c.val ∧ c.val ≤ 0x7A ∧ (capital c).val = c.val - 0x20) ∨ capital c = c := by
  by_cases hletter : 0x61 ≤ c.val ∧ c.val ≤ 0x7A
  · refine .inl ⟨hletter.1, hletter.2, ?_⟩
    rw [capital, if_pos (by simpa using hletter), Fin.sub_def]
    show (0x110000 - 0x20 + c.val) % 0x110000 = _
    omega
  · exact .inr (if_neg (by simpa using hletter))

/-- A capital letter is alike to the small one. -/
theorem keeps_literals_capital : KeepsLiterals capital := by
  intro c
  rcases capital_cases c with ⟨hfirst, hlast, hval⟩ | hsame
  · have hunderscore : underscore.val = 0x5F := rfl
    have hsmall : c.digit? = none := digit_eq_none (by omega) (by omega)
    have hcapital : (capital c).digit? = none := digit_eq_none (by omega) (by omega)
    constructor
    · rw [(not_blank_of_val (by omega) (by omega)).1, (not_blank_of_val (by omega) (by omega)).1]
    · simp only [hexDigit?, hsmall, hcapital, hval, Bool.and_eq_true, decide_eq_true_eq]
      by_cases hhex : c.val ≤ 0x66
      · rw [if_pos (by omega), if_neg (by omega), if_pos (by omega), Option.some.injEq]
        omega
      · rw [if_neg (by omega), if_neg (by omega), if_neg (by omega), if_neg (by omega)]
    · rw [hsmall, hcapital]
    · omega
    · rw [Fin.ext_iff, Fin.ext_iff, hunderscore]
      omega
    · omega
    · omega
  · rw [hsame]
    exact Alike.refl c

/-- A capital letter is as blank as the small one. -/
theorem is_blank_capital (c : CodePoint) : (capital c).isBlank = c.isBlank := by
  rcases capital_cases c with ⟨hfirst, hlast, hval⟩ | hsame
  · rw [(not_blank_of_val (by omega) (by omega)).2, (not_blank_of_val (by omega) (by omega)).2]
  · rw [hsame]

/-- Capital letters stand in the same parts as the small ones. -/
theorem parts_map_capital (written : Text) :
    parts (written.map capital) = (parts written).map (List.map capital) := by
  have hhyphen : ∀ c, capital c = hyphen ↔ c = hyphen := by
    intro c
    rw [Fin.ext_iff, Fin.ext_iff]
    exact (keeps_literals_capital c).minus
  rw [parts, strip, trim_map is_blank_capital, split_map hhyphen]
  rfl

/-- A code with capital letters lists the same as the one with small ones. -/
theorem lists_map_capital_iff :
    Lists (some (written.map capital)) points ↔ Lists (some written) points := by
  have hdenotes : ∀ part c, Denotes (List.map capital part) c ↔ Denotes part c :=
    fun part c => and_congr_left' keeps_literals_capital.hex_literal_map_iff
  simp only [Lists, Option.some.injEq, exists_eq_left', parts_map_capital, List.length_map,
    List.forall₂_map_left_iff, hdenotes]

/-! ### Code points that upper case leaves alone -/

/-- The ranges of blanks and of decimal digits. -/
def caselessRanges : List CaseRange :=
  ((0x1C, 0x1F) :: whiteSpaceRanges).map (fun range => ⟨range.1, range.2, 1, 0⟩)
    ++ zeros.map fun start => ⟨start, start + 9, 1, 0⟩

/-- The table of upper-case letters changes no number in these ranges. -/
theorem caseless_ranges_apart : ∀ range ∈ caselessRanges,
    range.apartFromAll 6 (asciiSmallLetters :: uppercaseMap.sources) = true := by
  decide +kernel

/-- Blanks and decimal digits lie in these ranges. -/
theorem exists_caseless_range (h : c.isBlank = true ∨ c.digit?.isSome = true) :
    ∃ range ∈ caselessRanges, range.holds c.val = true := by
  rcases h with hblank | hdigit
  · obtain ⟨range, hrange, hfirst, hlast⟩ :
        ∃ range ∈ (0x1C, 0x1F) :: whiteSpaceRanges, range.1 ≤ c.val ∧ c.val ≤ range.2 := by
      simp only [isBlank, isWhiteSpace, inRanges, Bool.or_eq_true, Bool.and_eq_true,
        List.any_eq_true, decide_eq_true_eq] at hblank
      rcases hblank with ⟨range, hrange, hbounds⟩ | hbounds
      · exact ⟨range, List.mem_cons_of_mem _ hrange, hbounds⟩
      · exact ⟨_, List.mem_cons_self, hbounds⟩
    exact ⟨_, List.mem_append_left _ (List.mem_map_of_mem hrange),
      CaseRange.holds_iff.2 ⟨hfirst, hlast, Nat.mod_one _⟩⟩
  · obtain ⟨d, hdigit⟩ := Option.isSome_iff_exists.1 hdigit
    obtain ⟨start, hstart, hval, hlt⟩ := exists_zero_of_digit hdigit
    have hfirst : start ≤ c.val := by omega
    have hlast : c.val ≤ start + 9 := by omega
    exact ⟨_, List.mem_append_right _ (List.mem_map_of_mem hstart),
      CaseRange.holds_iff.2 ⟨hfirst, hlast, Nat.mod_one _⟩⟩

/-- Upper case leaves blanks and digits alone. -/
theorem apply_of_caseless (h : c.isBlank = true ∨ c.digit?.isSome = true) :
    uppercaseMap.apply c = [capital c] := by
  obtain ⟨range, hrange, hholds⟩ := exists_caseless_range h
  have hapart : ∀ source ∈ asciiSmallLetters :: uppercaseMap.sources, source.holds c.val = false :=
    fun source hsource => CaseRange.not_holds_of_apart
      (CaseRange.apart_of_apart_from_all (caseless_ranges_apart range hrange) hsource) hholds
  obtain ⟨hsmall, hsources⟩ := List.forall_mem_cons.1 hapart
  rw [CaseMap.apply_of_not_changes (CaseMap.not_changes_of_sources hsources)]
  rcases capital_cases c with ⟨hfirst, hlast, _⟩ | hsame
  · have hletter : asciiSmallLetters.holds c.val = true :=
      CaseRange.holds_iff.2 ⟨hfirst, hlast, Nat.mod_one _⟩
    rw [hsmall] at hletter
    cases hletter
  · rw [hsame]

/-- Upper case makes of what stands in literals the capital letters of ASCII. -/
theorem apply_of_literal_unit : ∀ c ∈ literalUnits, uppercaseMap.apply c = [capital c] :=
  List.all_iff_forall_prop.1 (by decide +kernel)

/-- A code that lists code points is made of blanks, digits, and what stands in literals, with
hyphens between them. -/
theorem Lists.mem_units (h : Lists (some written) points) :
    ∀ c ∈ written, c.isBlank = true ∨ c.digit?.isSome = true ∨ c ∈ hyphen :: literalUnits := by
  obtain ⟨_, hsame, _, _, hparts⟩ := h
  obtain rfl : written = _ := Option.some.inj hsame
  obtain ⟨ahead, behind, hform, hahead, hbehind⟩ := exists_append_trim CodePoint.isBlank written
  intro c hc
  rw [hform, ← join_split hyphen (trim CodePoint.isBlank written)] at hc
  simp only [List.mem_append] at hc
  rcases hc with (hc | hc) | hc
  · exact .inl (hahead c hc)
  · rcases mem_join hc with hhyphen | ⟨part, hpart, hc⟩
    · rw [List.mem_singleton.1 hhyphen]
      exact .inr (.inr List.mem_cons_self)
    · obtain ⟨_, hliteral, _⟩ := exists_denotes_of_mem hparts hpart
      rcases hliteral.mem_units c hc with hblank | hdigit | hunit
      · exact .inl (isBlank_of_isWhiteSpace hblank)
      · exact .inr (.inl hdigit)
      · exact .inr (.inr (List.mem_cons_of_mem _ hunit))
  · exact .inl (hbehind c hc)

/-- The upper-case form of a code that lists code points has the capital letters of ASCII. -/
theorem Lists.uppercase_eq (h : Lists (some written) points) :
    written.uppercase = written.map capital := by
  refine CaseMap.flat_map_apply fun c hc => ?_
  rcases h.mem_units c hc with hblank | hdigit | hunit
  · exact apply_of_caseless (.inl hblank)
  · exact apply_of_caseless (.inr hdigit)
  · rcases List.mem_cons.1 hunit with rfl | hunit
    · exact (apply_of_unit hyphen List.mem_cons_self).2
    · exact apply_of_literal_unit c hunit

/-- The upper-case form of a code lists what the code lists. -/
theorem code_points_uppercase (h : codePoints written = .ok points) :
    codePoints written.uppercase = .ok points := by
  have hlists : Lists (some written) points := code_points_eq_ok_iff_lists.1 h
  rw [hlists.uppercase_eq]
  exact code_points_eq_ok_iff_lists.2 (lists_map_capital_iff.2 hlists)

end Code

section

variable {first second : Option Text} {text : Text}

/-- The second text takes the place of a first one that is missing or empty. -/
theorem or_text_of_empty (h : first.getD [] = []) : orText first second = second := by
  rcases first with _ | _ | ⟨c, rest⟩
  · rfl
  · rfl
  · cases h

/-- The first text counts if it is there and not empty. -/
theorem or_text_of_ne_nil (hne : text ≠ []) : orText (some text) second = some text := by
  cases text with
  | nil => exact absurd rfl hne
  | cons c rest => rfl

/-- If only one of two texts is there and not empty, it does not matter which one comes first. -/
theorem or_text_of_one (hone : first.getD [] = [] ∨ second.getD [] = [])
    (h : orText second first = some text) (hne : text ≠ []) :
    orText first second = some text := by
  by_cases hsecond : second.getD [] = []
  · obtain rfl : first = some text := (or_text_of_empty hsecond).symm.trans h
    exact or_text_of_ne_nil hne
  · obtain ⟨other, rfl⟩ : ∃ other, second = some other := by
      cases second with
      | none => exact absurd rfl hsecond
      | some other => exact ⟨other, rfl⟩
    rw [or_text_of_empty (hone.resolve_right hsecond)]
    exact (or_text_of_ne_nil hsecond).symm.trans h

end

/-- The unified code of a record lists the code points of its text, wherever its entry gives only
one of its two codes. And the upper-case form of every code that lists code points lists the same
ones. -/
theorem code_points_of_unified_code :
    (∀ (entry : Entry) (shortCode : Option Text) (record : Record),
      (entry.unified.getD [] = [] ∨ entry.nonQualified.getD [] = []) →
      (entry.record shortCode).value = some record →
      Code.codePoints record.unifiedCode = .ok record.text) ∧
    ∀ (code : Text) (points : List CodePoint), Code.codePoints code = .ok points →
      Code.codePoints code.uppercase = .ok points := by
  refine ⟨?_, fun code points => Code.code_points_uppercase⟩
  intro entry shortCode record hone hrecord
  obtain ⟨_, text, htext, rfl⟩ := Entry.record_eq_some.1 hrecord
  obtain ⟨code, hcode, hpoints⟩ := Entry.text_eq_ok.1 htext
  have hne : code ≠ [] := by
    rintro rfl
    cases hpoints
  have hunified : (entry.recordWith (entry.shortCodes shortCode) text).unifiedCode
      = code.uppercase := by
    show Text.uppercase ((orText entry.unified entry.nonQualified).getD []) = _
    rw [or_text_of_one hone hcode hne, Option.getD_some]
  rw [hunified]
  exact Code.code_points_uppercase hpoints

/-- A variation whose only code has blanks around it, a plus, a mark, an underscore and a digit of
another script, and such a code in lower case by itself. -/
theorem code_points_of_unified_code_of_variation :
    let code : Text := " +0x1f_44d-1f3f٧\x1f"
    let entry : Entry := ⟨["thumb"], some [], some code, ∅, []⟩
    let record : Record :=
      ⟨["thumb_tone"], " +0X1F_44D-1F3F٧\x1f", [0x1F44D, 0x1F3F7], some code, ∅⟩
    ((entry.unified.getD [] = [] ∨ entry.nonQualified.getD [] = []) ∧
      (entry.record (some "thumb_tone")).value = some record ∧
      Code.codePoints record.unifiedCode = .ok record.text) ∧
    Code.codePoints "0xfe_0f" = .ok [0xFE0F] ∧
    Code.codePoints (Text.uppercase "0xfe_0f") = .ok [0xFE0F] := by
  intro code entry record
  obtain ⟨hrecords, hcodes⟩ := code_points_of_unified_code
  have hone : entry.unified.getD [] = [] ∨ entry.nonQualified.getD [] = [] := .inl rfl
  have hrecord : (entry.record (some "thumb_tone")).value = some record := by decide +kernel
  have hpoints : Code.codePoints "0xfe_0f" = .ok [0xFE0F] := by decide +kernel
  exact ⟨⟨hone, hrecord, hrecords entry _ record hone hrecord⟩, hpoints, hcodes _ _ hpoints⟩

end EmojiText
