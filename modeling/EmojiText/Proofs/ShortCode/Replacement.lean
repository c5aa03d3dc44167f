import EmojiText.Proofs.ShortCode.Leftmost
import Mathlib

/-!
# Replacing tokens piece by piece

The running replacement edits a text whose length changes under it, at positions that were found in
the first text. `Token.rewritten` puts the same result together from pieces of the first text, with
no position but those in it. The invariant between the two is `Splicing.Reached`: what stands in
front of the last edit is final, and what stands behind it is an untouched end of the first text.
The main statement is `replace_short_codes_rewritten`.
-/

namespace EmojiText

/-- The text from a position on: each token whose code has a replacement is replaced, and each other
token, like all that stands between tokens, is kept. -/
def Token.rewritten (replacement : Text → Option Text) (text : Text) (position : Nat) :
    List Token → Text
  | [] => text.drop position
  | token :: tokens =>
    text.extract position token.start ++ (replacement token.code).getD token.span
      ++ rewritten replacement text token.stop tokens

namespace Token

variable {text : Text} {position : Nat} {token : Token}

/-- What is left from a position on consists of the text up to a token, the token, and what stands
behind it. -/
theorem StandsIn.drop_eq (h : token.StandsIn text) (hle : position ≤ token.start) :
    text.drop position
      = text.extract position token.start ++ token.span ++ text.drop token.stop := by
  obtain ⟨after, happend⟩ := h.starts
  have hstart : position + (token.start - position) = token.start := by omega
  have hafter : text.drop token.stop = after := by
    rw [stop, ← List.drop_drop, ← happend, ← length_span, List.drop_left]
  have hsplit := List.take_append_drop (token.start - position) (text.drop position)
  rw [List.drop_drop, hstart, ← happend] at hsplit
  rw [hafter, List.extract_eq_take_drop, List.append_assoc]
  exact hsplit.symm

/-- The text up to a token is as long as the distance to it. -/
theorem StandsIn.length_extract (h : token.StandsIn text) :
    (text.extract position token.start).length = token.start - position := by
  have hstop := h.stop_le
  have hlt := token.start_lt_stop
  simp only [List.extract_eq_take_drop, List.length_take, List.length_drop]
  omega

end Token

namespace Splicing

/-- The edits have reached a position of the first text: the output in front of it is final, and the
offset moves the position to the end of the output. -/
structure Reached (text : Text) (position : Nat) (output : Text) (state : Splicing) : Prop where
  position_le : position ≤ text.length
  text_eq : state.text = output ++ text.drop position
  offset_eq : state.offset = (output.length : Int) - position

variable {text output : Text} {position : Nat} {state : Splicing} {token : Token}

/-- Before the first edit the whole text is untouched. -/
theorem reached_start (text : Text) : Reached text 0 [] ⟨text, 0⟩ := ⟨Nat.zero_le _, rfl, rfl⟩

/-- A token that is kept becomes part of the output. -/
theorem Reached.keep (h : Reached text position output state) (hstands : token.StandsIn text)
    (hle : position ≤ token.start) :
    Reached text token.stop (output ++ text.extract position token.start ++ token.span) state where
  position_le := hstands.stop_le
  text_eq := by
    rw [h.text_eq, hstands.drop_eq hle]
    simp only [List.append_assoc]
  offset_eq := by
    simp only [List.length_append, hstands.length_extract, Token.length_span, h.offset_eq,
      Token.stop]
    omega

/-- A token that is replaced becomes part of the output as its replacement. -/
theorem Reached.replace (h : Reached text position output state) (hstands : token.StandsIn text)
    (hle : position ≤ token.start) (replacement : Text) :
    Reached text token.stop (output ++ text.extract position token.start ++ replacement)
      (state.replace token replacement) := by
  have hstart : ((token.start : Int) + state.offset).toNat
      = (output ++ text.extract position token.start).length := by
    rw [List.length_append, hstands.length_extract, h.offset_eq]
    omega
  have htext : state.text
      = output ++ text.extract position token.start ++ (token.span ++ text.drop token.stop) := by
    rw [h.text_eq, hstands.drop_eq hle]
    simp only [List.append_assoc]
  refine ⟨hstands.stop_le, ?_, ?_⟩
  · show state.text.take _ ++ replacement ++ state.text.drop _ = _
    rw [hstart, htext, List.take_left, ← List.drop_drop, List.drop_left, ← Token.length_span,
      List.drop_left]
  · show state.offset + replacement.length - token.length = _
    simp only [List.length_append, hstands.length_extract, h.offset_eq, Token.stop]
    omega

/-- At the end the text has grown by the offset. -/
theorem Reached.length_eq (h : Reached text position output state) :
    (state.text.length : Int) = text.length + state.offset := by
  have hle := h.position_le
  rw [h.text_eq, h.offset_eq, List.length_append, List.length_drop]
  omega

/-- Editing known tokens one after the other, in the order in which they stand, gives the output
followed by the rewritten rest of the text. -/
theorem Reached.run {tokens : List Token} (recordOf : Text → Option Record)
    (h : Reached text position output state) (hstands : ∀ token ∈ tokens, token.StandsIn text)
    (hle : ∀ token ∈ tokens, position ≤ token.start)
    (hdisjoint : tokens.Pairwise fun first second => first.stop ≤ second.start) :
    ∃ last final, Reached text last final
        ((tokens.filterMap fun token => (recordOf token.code).map fun record => (token, record)).foldl
          (fun state (token, record) => state.replace token record.text) state) ∧
      final ++ text.drop last
        = output ++ Token.rewritten (fun code => (recordOf code).map Record.text) text position
            tokens := by
  induction tokens generalizing position output state with
  | nil => exact ⟨position, output, h, rfl⟩
  | cons token tokens ih =>
      have hrest : ∀ other ∈ tokens, other.StandsIn text :=
        fun other hmem => hstands other (List.mem_cons_of_mem _ hmem)
      obtain ⟨hbehind, hdisjoint⟩ := List.pairwise_cons.1 hdisjoint
      have htoken := hstands token List.mem_cons_self
      have hstart := hle token List.mem_cons_self
      cases hrecord : recordOf token.code with
      | none =>
          obtain ⟨last, final, hfinal, htext⟩ :=
            ih (h.keep htoken hstart) hrest hbehind hdisjoint
          refine ⟨last, final, ?_, ?_⟩
          · simpa [hrecord] using hfinal
          · rw [htext]
            simp [Token.rewritten, hrecord]
      | some record =>
          obtain ⟨last, final, hfinal, htext⟩ :=
            ih (h.replace htoken hstart record.text) hrest hbehind hdisjoint
          refine ⟨last, final, ?_, ?_⟩
          · simpa [hrecord] using hfinal
          · rw [htext]
            simp [Token.rewritten, hrecord]

/-- The offset adds up what each replacement adds to the length or takes away from it. -/
theorem offset_foldl (pairs : List (Token × Record)) (state : Splicing) :
    (pairs.foldl (fun state (token, record) => state.replace token record.text) state).offset
      = state.offset + (pairs.map fun (token, record) =>
          (record.text.length : Int) - token.length).sum := by
  induction pairs generalizing state with
  | nil => simp
  | cons pair pairs ih =>
      rw [List.foldl_cons, ih, List.map_cons, List.sum_cons]
      simp only [Splicing.replace]
      omega

end Splicing

namespace Index

/-- The report on replacements changes nothing about their result. -/
@[simp] theorem value_replace_short_codes (index : Index) (text : Text) :
    (index.replaceShortCodes text).value = index.replaced text := by
  unfold replaceShortCodes
  dsimp only
  split <;> rfl

/-- In every text the tokens are the only choice from the left, and replacing short codes replaces
exactly those of them that the index knows: the result is the text with their spans rewritten, its
records are the ones that are found in the text, and its length differs by what each of them adds
to the length of its span. -/
theorem replace_short_codes_rewritten (index : Index) (text : Text) :
    (∀ tokens, Token.Leftmost text tokens ↔ tokens = Token.all text) ∧
    (index.replaceShortCodes text).value
      = Token.rewritten (fun code => (index.ofShortCode? code).map Record.text) text 0
          (Token.all text) ∧
    index.findShortCodes text
      = (Token.all text).filterMap (fun token => index.ofShortCode? token.code) ∧
    ((index.replaceShortCodes text).value.length : Int)
      = text.length + ((Token.all text).filterMap fun token =>
          (index.ofShortCode? token.code).map fun record =>
            (record.text.length : Int) - token.length).sum := by
  have hall := Token.leftmost_all text
  obtain ⟨last, final, hfinal, htext⟩ :=
    (Splicing.reached_start text).run index.ofShortCode? hall.stands (fun _ _ => Nat.zero_le _)
      hall.disjoint
  refine ⟨fun tokens => Token.leftmost_iff, ?_, ?_, ?_⟩
  · rw [value_replace_short_codes]
    exact hfinal.text_eq.trans htext
  · simp [findShortCodes, knownTokens, List.map_filterMap, Function.comp_def]
  · rw [value_replace_short_codes]
    refine hfinal.length_eq.trans ?_
    rw [Splicing.offset_foldl]
    simp [List.map_filterMap, Function.comp_def]

/-- A known token on either side of an unknown one. -/
example :
    let index := (build [⟨["smile"], "1F604", [0x1F604], none, ∅⟩]).value
    (index.replaceShortCodes ":smile: :frown::smile:!").value = "😄 :frown:😄!" := by
  decide +kernel

end Index

end EmojiText
