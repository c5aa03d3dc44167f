import EmojiText.Text.Blank
import Mathlib.Data.List.TakeWhile

/-!
# Splitting and trimming

Joined parts are split again where they were joined, unless a part has the separator itself: with
`join_split`, the main statement `split_join` makes splitting and joining inverse to one another.
Trimming takes away what may be trimmed at both ends, `exists_append_trim`, and what stands around a
text of which nothing may be trimmed is all that it takes away, `trim_append`; `trim_between` and
`trim_of_ends` say what the ends of a text decide. Maps of code points go through both if they keep
apart what is looked for.
-/

namespace EmojiText.Text

variable {separator : CodePoint} {part behind : Text} {parts : List Text}

/-- A text without the separator is one piece. -/
theorem split_of_not_mem (h : separator ∉ part) : split separator part = [part] := by
  induction part with
  | nil => rfl
  | cons c rest ih =>
      simp only [List.mem_cons, not_or] at h
      obtain ⟨hc, hrest⟩ := h
      rw [split, if_neg (Ne.symm hc), ih hrest]

/-- A text without the separator in front of one is a piece of its own. -/
theorem split_append_cons (h : separator ∉ part) (behind : Text) :
    split separator (part ++ separator :: behind) = part :: split separator behind := by
  induction part with
  | nil => simp [split]
  | cons c rest ih =>
      simp only [List.mem_cons, not_or] at h
      obtain ⟨hc, hrest⟩ := h
      rw [List.cons_append, split, if_neg (Ne.symm hc), ih hrest]

/-- The pieces in front of a separator come before those behind it. -/
theorem split_append_separator (separator : CodePoint) (front behind : Text) :
    split separator (front ++ separator :: behind)
      = split separator front ++ split separator behind := by
  induction front with
  | nil => simp [split]
  | cons c front ih =>
      rw [List.cons_append, split, split, ih]
      split
      · rfl
      · cases hpieces : split separator front with
        | nil => exact absurd hpieces (split_ne_nil separator front)
        | cons => rfl

/-- Joining one part with others puts the separator behind it. -/
theorem join_cons_cons (separator : Text) (first second : Text) (rest : List Text) :
    join separator (first :: second :: rest)
      = first ++ separator ++ join separator (second :: rest) := rfl

/-- Splitting gives the parts that were joined. -/
theorem split_join (hne : parts ≠ []) (h : ∀ part ∈ parts, separator ∉ part) :
    split separator (join [separator] parts) = parts := by
  induction parts with
  | nil => exact absurd rfl hne
  | cons first rest ih =>
      have hfirst := h first List.mem_cons_self
      cases rest with
      | nil => exact split_of_not_mem hfirst
      | cons second others =>
          have hrest := ih (List.cons_ne_nil second others)
            fun part hpart => h part (List.mem_cons_of_mem first hpart)
          rw [join_cons_cons, List.append_assoc, List.singleton_append,
            split_append_cons hfirst, hrest]

/-- No piece has the separator. -/
theorem not_mem_of_mem_split {t : Text} (h : part ∈ split separator t) : separator ∉ part := by
  induction t generalizing part with
  | nil =>
      cases List.mem_singleton.1 h
      exact List.not_mem_nil
  | cons c rest ih =>
      rw [split] at h
      split at h
      · rcases List.mem_cons.1 h with rfl | hrest
        · exact List.not_mem_nil
        · exact ih hrest
      · rename_i hc
        split at h
        · rename_i hnil
          exact absurd hnil (split_ne_nil separator rest)
        · rename_i piece pieces hpieces
          rw [hpieces] at ih
          rcases List.mem_cons.1 h with rfl | hpiece
          · have hpiece := ih List.mem_cons_self
            simp [hpiece, Ne.symm hc]
          · exact ih (List.mem_cons_of_mem piece hpiece)

/-- Joining puts the separator behind every part but the last. -/
theorem join_concat (separator last : Text) (parts : List Text) :
    join separator (parts ++ [last]) = parts.flatMap (· ++ separator) ++ last := by
  induction parts with
  | nil => rfl
  | cons first rest ih =>
      have hjoin : join separator (first :: (rest ++ [last]))
          = first ++ separator ++ join separator (rest ++ [last]) := by
        cases rest <;> rfl
      rw [List.cons_append, hjoin, ih, List.flatMap_cons, List.append_assoc _ _ last]

/-- A map of code points goes through joining. -/
theorem map_join (f : CodePoint → CodePoint) (separator : Text) (parts : List Text) :
    (join separator parts).map f = join (separator.map f) (parts.map (List.map f)) := by
  induction parts with
  | nil => rfl
  | cons first rest ih =>
      cases rest with
      | nil => rfl
      | cons second others =>
          rw [join_cons_cons, List.map_append, List.map_append, ih]
          rfl

/-- What stands in joined parts stands in one of them or in the separator. -/
theorem mem_join {separator : Text} {c : CodePoint} (h : c ∈ join separator parts) :
    c ∈ separator ∨ ∃ part ∈ parts, c ∈ part := by
  induction parts with
  | nil => cases h
  | cons first rest ih =>
      cases rest with
      | nil => exact .inr ⟨first, List.mem_cons_self, h⟩
      | cons second others =>
          rw [join_cons_cons, List.mem_append, List.mem_append] at h
          rcases h with (h | h) | h
          · exact .inr ⟨first, List.mem_cons_self, h⟩
          · exact .inl h
          · rcases ih h with h | ⟨part, hpart, h⟩
            · exact .inl h
            · exact .inr ⟨part, List.mem_cons_of_mem first hpart, h⟩

/-- What has not the separator starts a text exactly if it starts what stands in front of it. -/
theorem prefix_append_separator (h : separator ∉ part) (front behind : Text) :
    part <+: front ++ separator :: behind ↔ part <+: front := by
  constructor
  · rintro ⟨after, hafter⟩
    rcases List.append_eq_append_iff.1 hafter with ⟨rest, rfl, _⟩ | ⟨rest, hpart, hrest⟩
    · exact List.prefix_append part rest
    · -- the part would go on with the separator
      cases rest with
      | nil => exact ⟨[], by rw [hpart, List.append_nil, List.append_nil]⟩
      | cons d rest =>
          have hd : separator = d := (List.cons.inj hrest).1
          rw [hpart, hd] at h
          exact absurd (List.mem_append_right front List.mem_cons_self) h
  · intro hstarts
    exact hstarts.trans (List.prefix_append front _)

/-- There is one piece more than there are separators. -/
theorem length_split (separator : CodePoint) (t : Text) :
    (split separator t).length = t.count separator + 1 := by
  induction t with
  | nil => rfl
  | cons c rest ih =>
      rw [split]
      split
      · rename_i hc
        rw [hc, List.length_cons, ih, List.count_cons_self]
      · rename_i hc
        rw [List.count_cons_of_ne hc, ← ih]
        split
        · rename_i hnil
          exact absurd hnil (split_ne_nil separator rest)
        · rename_i piece pieces hpieces
          rw [hpieces]
          rfl

/-- A map of code points goes through splitting if it keeps the separator apart from all others. -/
theorem split_map {f : CodePoint → CodePoint} (h : ∀ c, f c = separator ↔ c = separator)
    (t : Text) : split separator (t.map f) = (split separator t).map (List.map f) := by
  induction t with
  | nil => rfl
  | cons c rest ih =>
      rw [List.map_cons, split, split, ih]
      by_cases hc : c = separator
      · rw [if_pos hc, if_pos ((h c).2 hc)]
        rfl
      · rw [if_neg hc, if_neg (hc ∘ (h c).1)]
        cases split separator rest <;> rfl

/-- A map of code points goes through trimming if it keeps apart what is trimmed. -/
theorem trim_map {f : CodePoint → CodePoint} {p : CodePoint → Bool} (h : ∀ c, p (f c) = p c)
    (t : Text) : trim p (t.map f) = (t.trim p).map f := by
  have hsame : p ∘ f = p := funext h
  simp only [trim, trimEnd, List.dropWhile_map, ← List.map_reverse, hsame]

/-- Trimming takes away what may be trimmed at both ends. -/
theorem exists_append_trim (p : CodePoint → Bool) (t : Text) :
    ∃ ahead behind, t = ahead ++ t.trim p ++ behind ∧
      (∀ c ∈ ahead, p c = true) ∧ ∀ c ∈ behind, p c = true := by
  have hend : ∀ u : Text, u = u.trimEnd p ++ (u.reverse.takeWhile p).reverse := by
    intro u
    rw [trimEnd, ← List.reverse_append, List.takeWhile_append_dropWhile, List.reverse_reverse]
  refine ⟨t.takeWhile p, ((t.dropWhile p).reverse.takeWhile p).reverse, ?_, ?_, ?_⟩
  · rw [List.append_assoc, trim, ← hend, List.takeWhile_append_dropWhile]
  · exact fun c hc => List.mem_takeWhile_imp hc
  · exact fun c hc => List.mem_takeWhile_imp (List.mem_reverse.1 hc)

/-- Nothing is dropped from a text whose start may stay. -/
theorem drop_while_of_head {p : CodePoint → Bool} {t : Text} (h : ∀ c ∈ t.head?, p c = false) :
    t.dropWhile p = t := by
  cases t with
  | nil => rfl
  | cons c rest => rw [List.dropWhile_cons, h c rfl, if_neg Bool.false_ne_true]

/-- What may be trimmed around a text of which nothing may be trimmed is all that is trimmed. -/
theorem trim_append {p : CodePoint → Bool} {ahead body behind : Text}
    (hahead : ∀ c ∈ ahead, p c = true) (hbody : ∀ c ∈ body, p c = false)
    (hbehind : ∀ c ∈ behind, p c = true) : trim p (ahead ++ body ++ behind) = body := by
  have hback : ∀ c ∈ body.reverse.head?, p c = false :=
    fun c hc => hbody c (List.mem_reverse.1 (List.mem_of_mem_head? hc))
  have hend : trimEnd p (body ++ behind) = body := by
    rw [trimEnd, List.reverse_append, List.dropWhile_append_of_pos (by simpa using hbehind),
      drop_while_of_head hback, List.reverse_reverse]
  rw [trim, List.append_assoc, List.dropWhile_append_of_pos hahead]
  cases body with
  | nil =>
      have hnone : behind.dropWhile p = [] := List.dropWhile_eq_nil_iff.2 hbehind
      rw [List.nil_append, hnone]
      rfl
  | cons c rest =>
      rw [List.cons_append, List.dropWhile_cons, hbody c List.mem_cons_self,
        if_neg Bool.false_ne_true]
      exact hend

/-- What may be trimmed on both sides of a text leaves what is left of the text. -/
theorem trim_between {p : CodePoint → Bool} {c : CodePoint} (hc : p c = true) (t : Text) :
    trim p (c :: t ++ [c]) = trim p t := by
  rw [trim, trim, List.cons_append, List.dropWhile_cons, if_pos hc, List.dropWhile_append]
  split
  · rename_i hnone
    rw [List.isEmpty_iff.1 hnone, List.dropWhile_cons, if_pos hc]
    rfl
  · rw [trimEnd, trimEnd, List.reverse_append, List.reverse_singleton, List.singleton_append,
      List.dropWhile_cons, if_pos hc]

/-- Trimming leaves some of the text. -/
theorem mem_of_mem_trim {p : CodePoint → Bool} {c : CodePoint} {t : Text} (h : c ∈ t.trim p) :
    c ∈ t := by
  obtain ⟨ahead, behind, heq, _⟩ := exists_append_trim p t
  rw [heq]
  exact List.mem_append_left behind (List.mem_append_right ahead h)

/-- A text of which neither end may be trimmed stays as it is. -/
theorem trim_of_ends {p : CodePoint → Bool} {t : Text} (hhead : ∀ c ∈ t.head?, p c = false)
    (hlast : ∀ c ∈ t.getLast?, p c = false) : t.trim p = t := by
  rw [trim, drop_while_of_head hhead, trimEnd, drop_while_of_head (by rwa [List.head?_reverse]),
    List.reverse_reverse]

/-- What is left of a text behind its start starts the text only if the start is empty or the text
has nothing else. -/
theorem drop_while_prefix_iff {p : CodePoint → Bool} {t : Text} :
    t.dropWhile p <+: t ↔ (∀ c ∈ t.head?, p c = false) ∨ ∀ c ∈ t, p c = true := by
  cases t with
  | nil => simp
  | cons c rest =>
      rw [List.head?_cons, List.dropWhile_cons]
      by_cases hc : p c = true
      · rw [if_pos hc]
        constructor
        · intro hprefix
          right
          -- what is left would start with the code point that was dropped
          have hnil : rest.dropWhile p = [] := by
            by_contra hne
            obtain ⟨d, others, hdrop⟩ := List.exists_cons_of_ne_nil hne
            rw [hdrop, List.cons_prefix_cons] at hprefix
            have hnot := List.dropWhile_get_zero_not p rest (by rw [hdrop]; simp)
            simp [hdrop, hprefix.1, hc] at hnot
          exact List.forall_mem_cons.2 ⟨hc, List.dropWhile_eq_nil_iff.1 hnil⟩
        · rintro (hhead | hall)
          · exact absurd (hhead c rfl) (by rw [hc]; exact Bool.noConfusion)
          · rw [List.dropWhile_eq_nil_iff.2 fun d hd => hall d (List.mem_cons_of_mem c hd)]
            exact List.nil_prefix
      · rw [if_neg hc]
        refine iff_of_true (List.prefix_refl _) (.inl ?_)
        rintro d ⟨⟩
        exact Bool.eq_false_iff.2 hc

/-- A text of which nothing may be trimmed stays as it is. -/
theorem trim_of_none {p : CodePoint → Bool} {t : Text} (h : ∀ c ∈ t, p c = false) :
    t.trim p = t :=
  trim_of_ends (fun c hc => h c (List.mem_of_mem_head? hc))
    fun c hc => h c (List.mem_of_mem_getLast? hc)

end EmojiText.Text
