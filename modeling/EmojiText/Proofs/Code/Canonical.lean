import EmojiText.Proofs.Code.LetterCase

/-!
# Canonical codes

A canonical code is a sequence of hexadecimal numbers in upper case with hyphens between them. Keys
of emoji are upper-case forms, and such a form is canonical exactly if the code that was written is
a sequence of numbers in any letter case, by `canonical_uppercase_iff`: nothing is trimmed, and no
sign, mark or underscore is taken out. The table of upper-case letters has one letter that stands
for digits without being one, the ligature `ﬀ`, which becomes two of them. The lower-case form of a
key is such a sequence exactly if the key is, which is `canonical_iff_lowercase`.
-/

namespace EmojiText.Code

open Text CodePoint

/-- The code consists of parts with hyphens between them, each of which is made of one or more of
the digits. -/
def Joined (digits code : Text) : Prop :=
  ∀ part ∈ code.split hyphen, part ≠ [] ∧ ∀ c ∈ part, c ∈ digits

instance (digits code : Text) : Decidable (Joined digits code) :=
  -- code points are looked for among the digits, not the other way round
  decidable_of_iff ((code.split hyphen).all fun part => part ≠ [] && part.all (digits.contains ·))
    (by simp [Joined])

/-- The digits of hexadecimal numbers in upper case. -/
def capitalDigits : Text := "0123456789ABCDEF"

/-- The digits of hexadecimal numbers in lower case. -/
def smallDigits : Text := "0123456789abcdef"

/-- The code points that are digits in upper case: digits in any letter case, and the ligature that
stands for two of them. -/
def plainDigits : Text := 0xFB00 :: hexUnits

/-- The code is a sequence of hexadecimal numbers in upper case. -/
def Canonical (code : Text) : Prop := Joined capitalDigits code

/-- The code is a sequence of hexadecimal numbers. -/
def Plain (code : Text) : Prop := Joined plainDigits code

instance (code : Text) : Decidable (Canonical code) := inferInstanceAs (Decidable (Joined _ code))

instance (code : Text) : Decidable (Plain code) := inferInstanceAs (Decidable (Joined _ code))

/-- The range of the ASCII small letters. -/
def asciiSmallLetters : CaseRange := ⟨0x61, 0x7A, 1, -32⟩

/-- The range of numbers in which the hyphen and the digits in upper case lie. -/
def capitalSpan : CaseRange := ⟨0x2D, 0x46, 1, 0⟩

variable {c : CodePoint} {t code digits others : Text} {parts : List Text}

/-! ### The table of upper-case letters -/

/-- The ranges of the table lead to digits and hyphens only from the small letters of ASCII: the
images of all others are apart from them. -/
theorem uppercase_map_ranges : ∀ range ∈ uppercaseMap.ranges, range ≠ asciiSmallLetters →
    range.image.apart capitalSpan = true := by
  decide +kernel

/-- Of the expansions of the table, the one of the ligature alone is made of digits. -/
theorem uppercase_map_expansions : ∀ expansion ∈ uppercaseMap.expansions,
    expansion.1 ≠ 0xFB00 → (ofNats expansion.2).all (capitalDigits.contains ·) = false := by
  decide +kernel

/-- The upper-case form of a plain digit is made of digits. -/
theorem apply_of_plain (h : c ∈ plainDigits) : ∀ d ∈ uppercaseMap.apply c, d ∈ capitalDigits := by
  rcases List.mem_cons.1 h with rfl | hdigit
  · have hligature : uppercaseMap.apply 0xFB00 = [0x46, 0x46] := by decide +kernel
    rw [hligature]
    exact List.all_iff_forall_prop.1 (by decide)
  · have hcapital : ∀ c ∈ hexUnits, capital c ∈ capitalDigits :=
      List.all_iff_forall_prop.1 (by decide)
    rw [(apply_of_unit c (List.mem_cons_of_mem _ hdigit)).2]
    simpa using hcapital c hdigit

/-- A letter that moves to a number thirty-two less is the small letter of what it moves to. -/
theorem small_of_val_eq {d : CodePoint} (h : d.val = c.val - 0x20) (hfirst : 0x61 ≤ c.val)
    (hlast : c.val ≤ 0x7A) : d.small = c := by
  have hletter : (0x41 ≤ d.val && d.val ≤ 0x5A) = true := by
    simp only [Bool.and_eq_true, decide_eq_true_eq]
    omega
  apply Fin.ext
  rw [small, if_pos hletter, Fin.val_add]
  show (d.val + 0x20) % 0x110000 = c.val
  omega

/-- A code point whose upper-case form is made of digits is a plain digit. -/
theorem apply_digits_iff :
    (∀ d ∈ uppercaseMap.apply c, d ∈ capitalDigits) ↔ c ∈ plainDigits := by
  refine ⟨fun h => ?_, apply_of_plain⟩
  rcases uppercaseMap.apply_cases c with ⟨ns, hmem, heq⟩ | ⟨range, hrange, hholds, heq⟩ | ⟨_, heq⟩
  · by_cases hligature : c.val = 0xFB00
    · have hc : c = 0xFB00 := Fin.ext hligature
      rw [hc]
      exact List.mem_cons_self
    · have hmore := uppercase_map_expansions _ hmem hligature
      rw [← heq, ← Bool.not_eq_true, List.all_eq_true] at hmore
      exact absurd (fun d hd => List.contains_iff_mem.2 (h d hd)) hmore
  · obtain ⟨d, hval, himage, hmoved⟩ :=
      CaseMap.of_nats_moved is_stable_uppercase_map hrange hholds
    have hd : d ∈ capitalDigits := h d (by rw [heq, hmoved]; exact List.mem_singleton_self d)
    by_cases hascii : range = asciiSmallLetters
    · subst hascii
      obtain ⟨hfirst, hlast, _⟩ := CaseRange.holds_iff.1 hholds
      simp only [asciiSmallLetters] at hfirst hlast hval
      have hsmall : ∀ d ∈ capitalDigits, d.small ∈ plainDigits :=
        List.all_iff_forall_prop.1 (by decide)
      rw [← small_of_val_eq (c := c) (d := d) (by omega) hfirst hlast]
      exact hsmall d hd
    · -- the other ranges lead to where no digit is
      have hnot := CaseRange.not_holds_of_apart (uppercase_map_ranges range hrange hascii) himage
      have hspan : ∀ d ∈ capitalDigits, capitalSpan.holds d.val = true :=
        List.all_iff_forall_prop.1 (by decide)
      rw [hspan d hd] at hnot
      cases hnot
  · have hplain : ∀ d ∈ capitalDigits, d ∈ plainDigits := List.all_iff_forall_prop.1 (by decide)
    exact hplain c (h c (by rw [heq]; exact List.mem_singleton_self c))

/-- Only the hyphen has a hyphen in its upper-case form. -/
theorem eq_hyphen_of_mem_apply (h : hyphen ∈ uppercaseMap.apply c) : c = hyphen :=
  CaseMap.eq_of_mem_apply is_stable_uppercase_map (by decide +kernel) (by decide +kernel) h

/-! ### Upper-case forms of codes -/

/-- The upper-case form of joined parts joins their upper-case forms. -/
theorem uppercase_join (parts : List Text) :
    (join [hyphen] parts).uppercase = join [hyphen] (parts.map uppercase) := by
  have hhyphen : uppercase [hyphen] = [hyphen] := by
    rw [uppercase, List.flatMap_singleton]
    exact (apply_of_unit hyphen List.mem_cons_self).2
  induction parts with
  | nil => rfl
  | cons first rest ih =>
      cases rest with
      | nil => rfl
      | cons second others =>
          rw [join_cons_cons, uppercase_append, uppercase_append, ih, hhyphen]
          rfl

/-- The parts of an upper-case form are the upper-case forms of the parts. -/
theorem split_uppercase (t : Text) :
    t.uppercase.split hyphen = (t.split hyphen).map uppercase := by
  have hne : (t.split hyphen).map uppercase ≠ [] := by simp [split_ne_nil]
  have hparts : ∀ part ∈ (t.split hyphen).map uppercase, hyphen ∉ part := by
    intro part hpart hmem
    obtain ⟨written, hwritten, rfl⟩ := List.mem_map.1 hpart
    obtain ⟨c, hc, hform⟩ := List.mem_flatMap.1 hmem
    rw [eq_hyphen_of_mem_apply hform] at hc
    exact not_mem_of_mem_split hwritten hc
  have hjoin : t.uppercase = join [hyphen] ((t.split hyphen).map uppercase) := by
    rw [← uppercase_join, join_split]
  rw [hjoin, split_join hne hparts]

/-- An upper-case form is a sequence of numbers exactly if the text is one. -/
theorem canonical_uppercase_iff : Canonical t.uppercase ↔ Plain t := by
  have hpart : ∀ part : Text, (part.uppercase ≠ [] ∧ ∀ d ∈ part.uppercase, d ∈ capitalDigits) ↔
      (part ≠ [] ∧ ∀ c ∈ part, c ∈ plainDigits) := by
    intro part
    have hdigits : (∀ d ∈ part.uppercase, d ∈ capitalDigits) ↔ ∀ c ∈ part, c ∈ plainDigits := by
      simp only [uppercase, List.forall_mem_flatMap, apply_digits_iff]
    rw [Ne, uppercase_eq_nil_iff, hdigits]
  unfold Canonical Plain Joined
  rw [split_uppercase, List.forall_mem_map]
  simp only [hpart]

/-! ### Lower-case forms of keys -/

/-- Joining parts that are made of digits gives a code of such parts. -/
theorem joined_join (hne : parts ≠ []) (hdigits : hyphen ∉ digits)
    (h : ∀ part ∈ parts, part ≠ [] ∧ ∀ c ∈ part, c ∈ digits) :
    Joined digits (join [hyphen] parts) := by
  have hparts : ∀ part ∈ parts, hyphen ∉ part :=
    fun part hpart hmem => hdigits ((h part hpart).2 hyphen hmem)
  rw [Joined, split_join hne hparts]
  exact h

/-- Replacing digits by others, and the hyphen by itself, replaces them in each part of a code. -/
theorem Joined.map {f : CodePoint → CodePoint} (h : Joined digits code)
    (hhyphen : f hyphen = hyphen) (hdigits : ∀ c ∈ digits, f c ∈ others)
    (hothers : hyphen ∉ others) : Joined others (List.map f code) := by
  have hcode : List.map f code = join [hyphen] ((code.split hyphen).map (List.map f)) := by
    rw [← join_split hyphen code, map_join, List.map_singleton, hhyphen, join_split]
  rw [hcode]
  refine joined_join (by simp [split_ne_nil]) hothers ?_
  rw [List.forall_mem_map]
  intro part hpart
  obtain ⟨hne, hmem⟩ := h part hpart
  refine ⟨by simpa using hne, ?_⟩
  rw [List.forall_mem_map]
  exact fun c hc => hdigits c (hmem c hc)

/-- A code of parts that are made of units is made of units. -/
theorem Joined.mem_units (h : Joined digits code) (hdigits : ∀ c ∈ digits, c ∈ units) :
    ∀ c ∈ code, c ∈ units := by
  intro c hc
  rw [← join_split hyphen code] at hc
  rcases mem_join hc with hc | ⟨part, hpart, hc⟩
  · rw [List.mem_singleton.1 hc]
    exact List.mem_cons_self
  · exact hdigits c ((h part hpart).2 c hc)

/-- A code that is its own upper-case form is canonical exactly if its lower-case form is a sequence
of numbers in lower case. -/
theorem canonical_iff_lowercase (h : code.uppercase = code) :
    Canonical code ↔ Joined smallDigits code.lowercase := by
  constructor
  · intro hcanonical
    have hunits := hcanonical.mem_units (List.all_iff_forall_prop.1 (by decide))
    rw [lowercase_of_units hunits]
    exact hcanonical.map (by decide) (List.all_iff_forall_prop.1 (by decide)) (by decide)
  · intro hsmall
    -- nothing but units has a lower-case form of units
    have hform := hsmall.mem_units (List.all_iff_forall_prop.1 (by decide))
    have hunits := units_of_lowercase_eq hform (lowercase_lowercase code).symm
    have hcode : code = code.lowercase.map capital := by
      rw [lowercase_of_units hunits, List.map_map]
      calc
        code = code.map capital := by rw [← uppercase_of_units hunits, h]
        _ = code.map (capital ∘ small) :=
          List.map_congr_left fun c hc => ((case_of_case c (hunits c hc)).1).symm
    rw [hcode]
    exact hsmall.map (by decide) (List.all_iff_forall_prop.1 (by decide)) (by decide)

end EmojiText.Code
