import EmojiText.Proofs.Text.Case
import Mathlib.Data.List.TakeWhile

/-!
# Lower-case forms of the parts of a text

The lower-case form of a text is made of its parts one after the other, each lowered in its place:
`lowercase_after_append`. What stands behind a part shows only in whether it goes on with a letter,
because a capital sigma is a final one at the end of a word. So a part that is lowered on its own
has another form than in its place exactly if the cut behind it parts a sigma from the rest of its
word. The main statement is `lowercase_prefix_iff`, which says when the lower-case form of the front
of a text is the front of its lower-case form.
-/

namespace EmojiText.Text

/-- What becomes of a code point between a text, given in reverse, and another one. -/
def lowered (before : Text) (c : CodePoint) (after : Text) : Text :=
  if c = capitalSigma then [smallSigma before after] else lowercaseMap.apply c

/-- The lower-case form of a text between another one, given in reverse, and a third. -/
def lowercaseBetween (before : Text) : Text → Text → Text
  | [], _ => []
  | c :: rest, after =>
    lowered before c (rest ++ after) ++ lowercaseBetween (c :: before) rest after

/-- The cut between two parts of a text, of which the first one follows `before`, given in reverse,
parts a capital sigma from the rest of its word: marks apart, the first part ends with the sigma, a
letter stands in front of it, and the second part starts with a letter. -/
def CutsWordAfter (before front rest : Text) : Prop :=
  ∃ word marks, front = word ++ capitalSigma :: marks ∧
    (∀ c ∈ marks, c.isCaseIgnorable = true) ∧
    startsCased (word.reverse ++ before) = true ∧ startsCased rest = true

/-- The cut between two parts of a text parts a capital sigma from the rest of its word. -/
def CutsWord (front rest : Text) : Prop := CutsWordAfter [] front rest

variable {before front rest s t : Text} {c : CodePoint}

/-! ### A sigma and what stands around it -/

/-- Marks in front of a text do not decide whether it starts with a letter. -/
theorem starts_cased_append_of_marks (h : ∀ c ∈ s, c.isCaseIgnorable = true) (t : Text) :
    startsCased (s ++ t) = startsCased t := by
  rw [startsCased, List.dropWhile_append_of_pos h]
  rfl

/-- A text that has more than marks decides on its own. -/
theorem starts_cased_append_of_letter (h : ¬ ∀ c ∈ s, c.isCaseIgnorable = true) (t : Text) :
    startsCased (s ++ t) = startsCased s := by
  have hne : s.dropWhile CodePoint.isCaseIgnorable ≠ [] := by
    rwa [Ne, List.dropWhile_eq_nil_iff]
  obtain ⟨d, others, hdrop⟩ := List.exists_cons_of_ne_nil hne
  rw [startsCased, startsCased, List.dropWhile_append, hdrop]
  rfl

/-- Marks alone do not start with a letter. -/
theorem starts_cased_of_marks (h : ∀ c ∈ s, c.isCaseIgnorable = true) : startsCased s = false := by
  rw [startsCased, List.dropWhile_eq_nil_iff.2 h]

/-- Of the text that follows a part, the part shows only whether it starts with a letter. -/
theorem starts_cased_append_congr (h : startsCased s = startsCased t) (front : Text) :
    startsCased (front ++ s) = startsCased (front ++ t) := by
  by_cases hmarks : ∀ c ∈ front, c.isCaseIgnorable = true
  · rw [starts_cased_append_of_marks hmarks, starts_cased_append_of_marks hmarks, h]
  · rw [starts_cased_append_of_letter hmarks, starts_cased_append_of_letter hmarks]

/-- A sigma is another one where more text follows exactly if it ends its word only without it. -/
theorem small_sigma_append_iff :
    smallSigma before (front ++ rest) = smallSigma before front ↔
      ¬ ((∀ c ∈ front, c.isCaseIgnorable = true) ∧ startsCased before = true ∧
        startsCased rest = true) := by
  by_cases hmarks : ∀ c ∈ front, c.isCaseIgnorable = true
  · rw [smallSigma, smallSigma, starts_cased_append_of_marks hmarks, starts_cased_of_marks hmarks,
      and_iff_right hmarks]
    cases startsCased before <;> cases startsCased rest <;> decide
  · rw [smallSigma, smallSigma, starts_cased_append_of_letter hmarks]
    exact iff_of_true rfl fun h => hmarks h.1

/-! ### Code points in their places -/

/-- What becomes of a code point has one length wherever it stands. -/
theorem length_lowered (c : CodePoint) (before after ahead behind : Text) :
    (lowered before c after).length = (lowered ahead c behind).length := by
  unfold lowered
  split <;> rfl

/-- No code point is lowered to nothing. -/
theorem lowered_ne_nil (before : Text) (c : CodePoint) (after : Text) :
    lowered before c after ≠ [] := by
  unfold lowered
  split
  · exact List.cons_ne_nil _ _
  · exact CaseMap.apply_ne_nil is_stable_lowercase_map c

/-- A code point becomes the same wherever a letter follows, and wherever none does. -/
theorem lowered_congr (h : startsCased s = startsCased t) :
    lowered before c s = lowered before c t := by
  rw [lowered, lowered, smallSigma, smallSigma, h]

/-- A code point becomes something else where more text follows exactly if it is a sigma that ends
its word only without it. -/
theorem lowered_append_iff :
    lowered before c (front ++ rest) = lowered before c front ↔
      ¬ (c = capitalSigma ∧ (∀ c ∈ front, c.isCaseIgnorable = true) ∧
        startsCased before = true ∧ startsCased rest = true) := by
  unfold lowered
  by_cases hsigma : c = capitalSigma
  · rw [if_pos hsigma, if_pos hsigma, List.cons.injEq, small_sigma_append_iff,
      and_iff_right hsigma, and_iff_left rfl]
  · rw [if_neg hsigma, if_neg hsigma]
    exact iff_of_true rfl fun h => hsigma h.1

/-! ### The parts of a lower-case form -/

/-- The lower-case form of two parts is the form of the first one in front of the second, and that of
the second one behind the first. -/
theorem lowercase_after_append (before s t : Text) :
    lowercaseAfter before (s ++ t)
      = lowercaseBetween before s t ++ lowercaseAfter (s.reverse ++ before) t := by
  induction s generalizing before with
  | nil => rfl
  | cons c rest ih =>
      rw [List.cons_append, lowercaseAfter, ih, lowercaseBetween, lowered, List.append_assoc,
        List.reverse_cons, List.append_assoc]
      rfl

/-- A lower-case form starts with what becomes of the first code point. -/
theorem lowercase_cons (c : CodePoint) (rest : Text) :
    lowercase (c :: rest) = lowered [] c rest ++ lowercaseAfter [c] rest := rfl

/-- A lower-case form ends with what becomes of the last code point. -/
theorem lowercase_concat (front : Text) (c : CodePoint) :
    lowercase (front ++ [c]) = lowercaseBetween [] front [c] ++ lowered front.reverse c [] := by
  rw [lowercase, lowercase_after_append, List.append_nil]
  exact congrArg _ (List.append_nil _)

/-- A part has a lower-case form of one length wherever it stands. -/
theorem length_lowercase_between (s before after ahead : Text) :
    (lowercaseBetween before s after).length = (lowercaseAfter ahead s).length := by
  induction s generalizing before ahead with
  | nil => rfl
  | cons c rest ih =>
      rw [lowercaseBetween, lowercaseAfter, List.length_append, List.length_append, ih _ (c :: ahead),
        length_lowered c before (rest ++ after) ahead rest]
      rfl

/-- A part has the same lower-case form wherever a letter follows, and wherever none does. -/
theorem lowercase_between_congr (h : startsCased s = startsCased t) (before front : Text) :
    lowercaseBetween before front s = lowercaseBetween before front t := by
  induction front generalizing before with
  | nil => rfl
  | cons c rest ih =>
      rw [lowercaseBetween, lowercaseBetween, ih, lowered_congr (starts_cased_append_congr h rest)]

/-- The sigma that is cut from its word is the first code point of the part, or it stands in what
follows that. -/
theorem cuts_word_after_cons :
    CutsWordAfter before (c :: front) rest ↔
      (c = capitalSigma ∧ (∀ c ∈ front, c.isCaseIgnorable = true) ∧
        startsCased before = true ∧ startsCased rest = true) ∨
      CutsWordAfter (c :: before) front rest := by
  constructor
  · rintro ⟨word, marks, hfront, hmarks, hword, hrest⟩
    cases word with
    | nil =>
        obtain ⟨rfl, rfl⟩ := List.cons.inj hfront
        exact .inl ⟨rfl, hmarks, hword, hrest⟩
    | cons first others =>
        obtain ⟨rfl, rfl⟩ := List.cons.inj hfront
        rw [List.reverse_cons, List.append_assoc] at hword
        exact .inr ⟨others, marks, rfl, hmarks, hword, hrest⟩
  · rintro (⟨rfl, hmarks, hword, hrest⟩ | ⟨word, marks, rfl, hmarks, hword, hrest⟩)
    · exact ⟨[], front, rfl, hmarks, hword, hrest⟩
    · refine ⟨c :: word, marks, rfl, hmarks, ?_, hrest⟩
      rwa [List.reverse_cons, List.append_assoc]

/-- A part is lowered in its place as it is on its own unless the cut behind it parts a sigma from
the rest of its word. -/
theorem lowercase_between_eq_iff :
    lowercaseBetween before front rest = lowercaseAfter before front ↔
      ¬ CutsWordAfter before front rest := by
  induction front generalizing before with
  | nil =>
      refine iff_of_true rfl ?_
      rintro ⟨word, marks, hfront, _⟩
      cases word <;> cases hfront
  | cons c front ih =>
      rw [cuts_word_after_cons, not_or, ← ih, ← lowered_append_iff]
      constructor
      · exact fun h => List.append_inj h (length_lowered c before _ before _)
      · rintro ⟨hfirst, hothers⟩
        rw [lowercaseBetween, hfirst, hothers]
        rfl

/-- Only behind a capital sigma a cut can part one from its word. -/
theorem CutsWord.sigma_mem (h : CutsWord front rest) : capitalSigma ∈ front := by
  obtain ⟨word, marks, rfl, _⟩ := h
  exact List.mem_append_right word List.mem_cons_self

/-- The lower-case form of the front of a text is the front of its lower-case form unless the cut
behind it parts a sigma from the rest of its word. -/
theorem lowercase_prefix_iff (front rest : Text) :
    front.lowercase <+: (front ++ rest).lowercase ↔ ¬ CutsWord front rest := by
  have hlength : front.lowercase.length = (lowercaseBetween [] front rest).length :=
    (length_lowercase_between front [] rest []).symm
  rw [CutsWord, ← lowercase_between_eq_iff, lowercase, lowercase, lowercase_after_append]
  constructor
  · intro h
    have hpart := List.prefix_of_prefix_length_le h (List.prefix_append _ _) hlength.le
    exact (hpart.eq_of_length hlength).symm
  · intro h
    rw [h]
    exact List.prefix_append _ _

end EmojiText.Text
