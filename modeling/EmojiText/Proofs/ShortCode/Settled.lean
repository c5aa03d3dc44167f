import EmojiText.Proofs.Index.Records
import EmojiText.Proofs.ShortCode.Separator

/-!
# Replacing short codes a second time

A replacement that holds neither a colon nor a part of a code keeps the texts on both sides of it
apart: no token reaches over it, and none starts in it. So where no token started before the
replacements, none starts after them, by `code_at_start_substitute`, and what is kept of the text has
the tokens that it had. All of these stand for nothing, and the main statement
`replace_short_codes_settled` follows: a second pass finds no short code and changes nothing.
-/

namespace EmojiText

namespace Token

/-- The text is not empty and has neither colons nor parts of codes. -/
def Parting (text : Text) : Prop :=
  text ≠ [] ∧ ∀ c ∈ text, c ≠ colon ∧ isCodeUnit c = false

/-- All replacements keep apart what stands on both sides of them. -/
def AllParting (replacement : Text → Option Text) : Prop :=
  ∀ code image, replacement code = some image → Parting image

variable {replacement : Text → Option Text} {text rest image code after : Text} {position : Nat}
  {c : CodePoint}

/-! ### Where tokens start after the replacements -/

/-- What is substituted for a token starts with no part of a code. -/
theorem head_not_unit (hparting : AllParting replacement)
    (h : (replacement code).getD (span ⟨position, code⟩) ++ rest = c :: after) :
    isCodeUnit c = false := by
  cases himage : replacement code with
  | none =>
      rw [himage, Option.getD_none, span, List.cons_append, List.cons_append] at h
      rw [← (List.cons.inj h).1]
      exact colon_not_unit
  | some image =>
      obtain ⟨hne, hunits⟩ := hparting code image himage
      rw [himage, Option.getD_some] at h
      obtain ⟨d, others, rfl⟩ := List.exists_cons_of_ne_nil hne
      rw [List.cons_append] at h
      rw [← (List.cons.inj h).1]
      exact (hunits d List.mem_cons_self).2

/-- Parts of codes with a colon behind them stood in front of the replacements already. -/
theorem starts_of_substitute (hparting : AllParting replacement)
    (hunits : ∀ d ∈ code, isCodeUnit d = true)
    (h : substitute replacement text = code ++ colon :: after) :
    ∃ behind, text = code ++ colon :: behind := by
  induction code generalizing text with
  | nil =>
      cases text with
      | nil =>
          rw [substitute_nil] at h
          cases h
      | cons c rest =>
          have hc : c = colon := by
            cases hcode : codeAtStart? (c :: rest) with
            | none =>
                rw [substitute_cons_of_no_code hcode] at h
                exact (List.cons.inj h).1
            | some found => exact (List.cons.inj (code_at_start_eq_some.1 hcode).1).1
          exact ⟨rest, by rw [hc, List.nil_append]⟩
  | cons d code ih =>
      obtain ⟨hd, hcodeUnits⟩ := List.forall_mem_cons.1 hunits
      cases text with
      | nil =>
          rw [substitute_nil] at h
          cases h
      | cons c rest =>
          cases hcode : codeAtStart? (c :: rest) with
          | none =>
              rw [substitute_cons_of_no_code hcode, List.cons_append] at h
              obtain ⟨rfl, hrest⟩ := List.cons.inj h
              obtain ⟨behind, rfl⟩ := ih hcodeUnits hrest
              exact ⟨behind, rfl⟩
          | some found =>
              rw [substitute_of_code hcode] at h
              have hnot := head_not_unit hparting h
              rw [hd] at hnot
              cases hnot

/-- Where no token starts, none starts after the replacements behind it. -/
theorem code_at_start_substitute (hparting : AllParting replacement)
    (h : codeAtStart? (c :: rest) = none) :
    codeAtStart? (c :: substitute replacement rest) = none := by
  rw [Option.eq_none_iff_forall_ne_some]
  rintro ⟨code, after⟩ hcode
  obtain ⟨htext, hne, hunits⟩ := code_at_start_eq_some.1 hcode
  obtain ⟨rfl, hrest⟩ := List.cons.inj htext
  obtain ⟨behind, rfl⟩ := starts_of_substitute hparting hunits hrest
  have hfound : codeAtStart? (colon :: (code ++ colon :: behind)) = some (code, behind) :=
    code_at_start_eq_some.2 ⟨rfl, hne, hunits⟩
  cases h.symm.trans hfound

/-- No token starts in a text without colons. -/
theorem all_from_append (h : colon ∉ image) (position : Nat) (text : Text) :
    allFrom position (image ++ text) = allFrom (position + image.length) text := by
  induction image generalizing position with
  | nil => rfl
  | cons c image ih =>
      obtain ⟨hc, himage⟩ := not_or.1 (List.mem_cons.not.1 h)
      have hnone : codeAtStart? (c :: (image ++ text)) = none := by
        simp [codeAtStart?, Ne.symm hc]
      rw [List.cons_append, all_from_cons_of_no_code hnone, ih himage, List.length_cons,
        Nat.add_assoc, Nat.add_comm 1]

/-! ### The tokens that are left -/

/-- No token that is left after the replacements has a replacement. -/
theorem no_replacement_of_mem_all_from (hparting : AllParting replacement) (text : Text)
    (position : Nat) :
    ∀ token ∈ allFrom position (substitute replacement text), replacement token.code = none := by
  fun_induction substitute replacement text generalizing position with
  | case1 =>
      rw [allFrom]
      exact List.forall_mem_nil _
  | case2 c rest code after h ih =>
      cases himage : replacement code with
      | none =>
          -- the token stays, and what follows it was rewritten on its own
          obtain ⟨_, hne, hunits⟩ := code_at_start_eq_some.1 h
          have hcode : codeAtStart? (span ⟨0, code⟩ ++ substitute replacement after)
              = some (code, substitute replacement after) :=
            code_at_start_eq_some_span.2 ⟨rfl, hne, hunits⟩
          rw [Option.getD_none, all_from_of_code hcode]
          exact List.forall_mem_cons.2 ⟨himage, ih _⟩
      | some image =>
          have hcolon : colon ∉ image := fun hmem => ((hparting code image himage).2 _ hmem).1 rfl
          rw [Option.getD_some, all_from_append hcolon]
          exact ih _
  | case3 c rest h ih =>
      rw [all_from_cons_of_no_code (code_at_start_substitute hparting h)]
      exact ih _

/-- A text of whose tokens none has a replacement stays as it is. -/
theorem substitute_eq_self
    (h : ∀ token ∈ allFrom position text, replacement token.code = none) :
    substitute replacement text = text := by
  fun_induction substitute replacement text generalizing position with
  | case1 => rfl
  | case2 c rest code after hcode ih =>
      rw [all_from_of_code hcode] at h
      obtain ⟨hnone, hafter⟩ := List.forall_mem_cons.1 h
      rw [show replacement code = none from hnone, Option.getD_none, ih hafter]
      exact (code_at_start_eq_some_span.1 hcode).1.symm
  | case3 c rest hcode ih =>
      rw [all_from_cons_of_no_code hcode] at h
      rw [ih h]

end Token

namespace Index

/-- Over an index of which no text has a colon or a part of a short code, a text in which short
codes were replaced has none left that the index knows, and replacing them again changes nothing. -/
theorem replace_short_codes_settled (index : Index)
    (h : ∀ record ∈ index.records, ∀ c ∈ record.text,
      c ≠ Token.colon ∧ Token.isCodeUnit c = false)
    (text : Text) :
    let replaced := (index.replaceShortCodes text).value
    (index.replaceShortCodes replaced).value = replaced ∧ index.findShortCodes replaced = [] := by
  have hparting :
      Token.AllParting fun code => (index.ofShortCode? code).map Record.text := by
    intro code image himage
    obtain ⟨record, hknown, rfl⟩ := Option.map_eq_some_iff.1 himage
    obtain ⟨id, _, rfl⟩ := Option.map_eq_some_iff.1 hknown
    exact ⟨index.text_id_ne_nil id, h _ (Array.getElem_mem _)⟩
  have hunknown := Token.no_replacement_of_mem_all_from hparting text 0
  simp only [value_replace_short_codes, replaced_eq_substitute]
  refine ⟨Token.substitute_eq_self hunknown, ?_⟩
  rw [findShortCodes, List.map_eq_nil_iff, knownTokens, List.filterMap_eq_nil_iff]
  intro token hmem
  rw [Option.map_eq_none_iff]
  exact Option.map_eq_none_iff.1 (hunknown token hmem)

/-- Unknown tokens share colons with known ones, stand next to them, and one colon is left between
two replacements. -/
theorem replace_short_codes_settled_shared_colons :
    let index := (Index.build [⟨["a", "b"], "1F600", [0x1F600], none, ∅⟩]).value
    let text : Text := ":x:a:b:::a:a:B:::b::x:a"
    (∀ record ∈ index.records, ∀ c ∈ record.text,
      c ≠ Token.colon ∧ Token.isCodeUnit c = false) ∧
    (index.replaceShortCodes text).value = ":x:a😀:😀a😀:😀:x:a" ∧
    (index.replaceShortCodes ":x:a😀:😀a😀:😀:x:a").value = ":x:a😀:😀a😀:😀:x:a" ∧
    index.findShortCodes ":x:a😀:😀a😀:😀:x:a" = [] := by
  intro index text
  have hparting : ∀ record ∈ index.records, ∀ c ∈ record.text,
      c ≠ Token.colon ∧ Token.isCodeUnit c = false := by
    intro record hmem c hc
    obtain rfl := List.mem_singleton.1 (mem_of_mem_records hmem)
    obtain rfl := List.mem_singleton.1 hc
    decide
  have hreplaced : (index.replaceShortCodes text).value = ":x:a😀:😀a😀:😀:x:a" := by
    decide +kernel
  have hsettled := replace_short_codes_settled index hparting text
  simp only [hreplaced] at hsettled
  exact ⟨hparting, hreplaced, hsettled⟩

end Index

end EmojiText
