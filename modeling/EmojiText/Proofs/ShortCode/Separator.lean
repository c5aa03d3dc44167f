import EmojiText.Proofs.ShortCode.Replacement
import EmojiText.Proofs.Text.Parts

/-!
# Replacing short codes on both sides of a separator

A code point that is no colon and stands in no short code separates a text: no token reaches over
it. `Token.substitute` replaces tokens where they are met, without positions, so its result for what
stands behind the separator does not depend on what stands in front of it. The running replacement
gives the same text, by `replaced_eq_substitute`, and the main statement is
`replaced_append_separator`.
-/

namespace EmojiText

namespace Token

/-- The text with every token replaced by what its code stands for, if it stands for anything. -/
def substitute (replacement : Text → Option Text) (text : Text) : Text :=
  match text with
  | [] => []
  | c :: rest =>
    match _h : codeAtStart? (c :: rest) with
    | some (code, after) =>
      (replacement code).getD (span ⟨0, code⟩) ++ substitute replacement after
    | none => c :: substitute replacement rest
termination_by text.length
decreasing_by
  · exact length_codeAtStart? _h
  · exact Nat.lt_succ_self rest.length

variable {replacement : Text → Option Text} {full text rest code after : Text} {position : Nat}
  {c : CodePoint}

@[simp] theorem substitute_nil (replacement : Text → Option Text) :
    substitute replacement [] = [] := by
  rw [substitute]

/-- A token at the start of a text is replaced. -/
theorem substitute_of_code (h : codeAtStart? text = some (code, after)) :
    substitute replacement text
      = (replacement code).getD (span ⟨0, code⟩) ++ substitute replacement after := by
  cases text with
  | nil => cases h
  | cons c rest =>
      rw [substitute]
      split
      · rename_i h'
        obtain ⟨rfl, rfl⟩ := Prod.mk.inj (Option.some.inj (h'.symm.trans h))
        rfl
      · rename_i h'
        cases h'.symm.trans h

/-- A code point with which no token starts is kept. -/
theorem substitute_cons_of_no_code (h : codeAtStart? (c :: rest) = none) :
    substitute replacement (c :: rest) = c :: substitute replacement rest := by
  rw [substitute]
  split
  · rename_i h'
    cases h'.symm.trans h
  · rfl

/-! ### Substituting is what rewriting does -/

/-- A code point in front of all tokens is kept by rewriting, too. -/
theorem rewritten_cons {tokens : List Token} (hfull : full.drop position = c :: rest)
    (h : ∀ token ∈ tokens, position < token.start) :
    rewritten replacement full position tokens
      = c :: rewritten replacement full (position + 1) tokens := by
  have hrest : full.drop (position + 1) = rest := drop_succ hfull
  cases tokens with
  | nil =>
      show full.drop position = c :: full.drop (position + 1)
      rw [hfull, hrest]
  | cons token tokens =>
      have hlt := h token List.mem_cons_self
      have hextract : full.extract position token.start
          = c :: full.extract (position + 1) token.start := by
        have hsub : token.start - position = token.start - (position + 1) + 1 := by omega
        rw [List.extract_eq_take_drop, List.extract_eq_take_drop, hfull, hrest, hsub,
          List.take_succ_cons]
      simp only [rewritten, hextract, List.cons_append]

/-- Rewriting the tokens from a position on substitutes them in what stands there. -/
theorem rewritten_all_from (hfull : full.drop position = text) :
    rewritten replacement full position (allFrom position text) = substitute replacement text := by
  fun_induction allFrom position text with
  | case1 position =>
      rw [substitute_nil]
      exact hfull
  | case2 position c rest code after h first ih =>
      have hextract : full.extract position first.start = [] := by
        show full.extract position position = []
        rw [List.extract_eq_take_drop, Nat.sub_self, List.take_zero]
      have hafter := ih (drop_stop (hfull.symm ▸ h))
      rw [substitute_of_code h, ← hafter, rewritten, hextract, List.nil_append]
      rfl
  | case3 position c rest h ih =>
      have hrest : full.drop (position + 1) = rest := drop_succ hfull
      rw [substitute_cons_of_no_code h, ← ih hrest]
      refine rewritten_cons hfull ?_
      intro token hmem
      exact (stands_of_mem_all_from hrest hmem).1

/-! ### Separators -/

variable {front behind : Text}

/-- A text of which a code is read consists of the span of a token and what follows. -/
theorem code_at_start_eq_some_span :
    codeAtStart? text = some (code, after) ↔
      text = span ⟨0, code⟩ ++ after ∧ code ≠ [] ∧ ∀ d ∈ code, isCodeUnit d = true := by
  rw [code_at_start_eq_some]
  simp [span]

/-- No token has a code point in its span that is neither a colon nor part of codes. -/
theorem not_mem_span (hcolon : c ≠ colon) (hunit : isCodeUnit c = false)
    (hunits : ∀ d ∈ code, isCodeUnit d = true) : c ∉ span ⟨position, code⟩ := by
  intro hmem
  simp only [span, List.cons_append, List.mem_cons, List.mem_append, List.not_mem_nil,
    or_false] at hmem
  rcases hmem with rfl | hcode | rfl
  · exact hcolon rfl
  · rw [hunits c hcode] at hunit
    cases hunit
  · exact hcolon rfl

/-- The code at the start of a text is read in front of a separator, if there is one. -/
theorem code_at_start_append_separator (hcolon : c ≠ colon) (hunit : isCodeUnit c = false)
    (front behind : Text) :
    codeAtStart? (front ++ c :: behind)
      = (codeAtStart? front).map fun (code, after) => (code, after ++ c :: behind) := by
  ext ⟨code, after⟩
  simp only [Option.map_eq_some_iff, Prod.exists, Prod.mk.injEq, code_at_start_eq_some_span]
  constructor
  · rintro ⟨htext, hne, hunits⟩
    obtain ⟨rest, rfl⟩ := (Text.prefix_append_separator (not_mem_span hcolon hunit hunits) front
      behind).1 ⟨after, htext.symm⟩
    rw [List.append_assoc] at htext
    exact ⟨code, rest, ⟨rfl, hne, hunits⟩, rfl, List.append_cancel_left htext⟩
  · rintro ⟨code, rest, ⟨hfront, hne, hunits⟩, rfl, rfl⟩
    exact ⟨by rw [hfront, List.append_assoc], hne, hunits⟩

/-- Substituting works on both sides of a separator alone. -/
theorem substitute_append_separator (hcolon : c ≠ colon) (hunit : isCodeUnit c = false)
    (front behind : Text) :
    substitute replacement (front ++ c :: behind)
      = substitute replacement front ++ c :: substitute replacement behind := by
  have hread := code_at_start_append_separator hcolon hunit
  fun_induction substitute replacement front with
  | case1 =>
      rw [List.nil_append, List.nil_append]
      exact substitute_cons_of_no_code (hread [] behind)
  | case2 d rest code after h ih =>
      have hcode := hread (d :: rest) behind
      rw [h, Option.map_some] at hcode
      rw [substitute_of_code hcode, ih, List.append_assoc]
  | case3 d rest h ih =>
      have hcode := hread (d :: rest) behind
      rw [h, Option.map_none, List.cons_append] at hcode
      rw [List.cons_append, substitute_cons_of_no_code hcode, ih, List.cons_append]

end Token

namespace Index

/-- The running replacement substitutes the texts of the records that the index knows. -/
theorem replaced_eq_substitute (index : Index) (text : Text) :
    index.replaced text
      = Token.substitute (fun code => (index.ofShortCode? code).map Record.text) text := by
  have hall := Token.leftmost_all text
  obtain ⟨last, final, hfinal, htext⟩ :=
    (Splicing.reached_start text).run index.ofShortCode? hall.stands (fun _ _ => Nat.zero_le _)
      hall.disjoint
  calc
    index.replaced text = final ++ text.drop last := hfinal.text_eq
    _ = Token.rewritten _ text 0 (Token.all text) := htext
    _ = Token.substitute _ text := Token.rewritten_all_from rfl

/-- Nothing is replaced in a text that is empty. -/
@[simp] theorem replaced_nil (index : Index) : index.replaced [] = [] := by
  rw [replaced_eq_substitute, Token.substitute_nil]

/-- Short codes are replaced on both sides of a separator alone. -/
theorem replaced_append_separator (index : Index) {c : CodePoint} (hcolon : c ≠ Token.colon)
    (hunit : Token.isCodeUnit c = false) (front behind : Text) :
    index.replaced (front ++ c :: behind) = index.replaced front ++ c :: index.replaced behind := by
  simp only [replaced_eq_substitute]
  exact Token.substitute_append_separator hcolon hunit front behind

end Index

end EmojiText
