import EmojiText.Code
import EmojiText.Proofs.Text.Case
import EmojiText.Proofs.Text.Hexadecimal

/-!
# Letter cases of codes

Codes are written with hexadecimal digits and hyphens, whose case forms are those of ASCII. So the
two case forms of a code say the same, `lowercase_uppercase`, and no letter outside ASCII can stand
for one of a code: a text with the lower-case form of a code has its upper-case form, too, which is
the main statement `uppercase_eq_of_lowercase_eq`.
-/

namespace EmojiText.Code

open Text CodePoint

/-- The code points with which codes are written. -/
def units : Text := hyphen :: hexUnits

/-- The ASCII letter in upper case. -/
def capital (c : CodePoint) : CodePoint := if 0x61 ≤ c.val && c.val ≤ 0x7A then c - 0x20 else c

/-- The range of numbers in which the units lie. -/
def span : CaseRange := ⟨0x2D, 0x66, 1, 0⟩

/-- The range of the ASCII capital letters. -/
def asciiLetters : CaseRange := ⟨0x41, 0x5A, 1, 32⟩

variable {c : CodePoint} {t : Text}

/-- The units have the case forms of ASCII. -/
theorem apply_of_unit :
    ∀ c ∈ units, lowercaseMap.apply c = [c.small] ∧ uppercaseMap.apply c = [capital c] :=
  List.all_iff_forall_prop.1 (by decide)

/-- The case forms of units are units. -/
theorem case_mem_units : ∀ c ∈ units, c.small ∈ units ∧ capital c ∈ units :=
  List.all_iff_forall_prop.1 (by decide)

/-- The case forms of the case forms of a unit are those of the unit. -/
theorem case_of_case : ∀ c ∈ units, capital c.small = capital c ∧ (capital c).small = c.small :=
  List.all_iff_forall_prop.1 (by decide)

/-- No sigma is a unit. -/
theorem sigma_not_mem_units : capitalSigma ∉ units ∧ 0x3C2 ∉ units ∧ 0x3C3 ∉ units := by
  decide

/-- The table of lower-case letters leads to units only from units: the images of all ranges but the
one of ASCII are apart from them, and every expansion has more than units. -/
theorem lowercase_map_units :
    (∀ range ∈ lowercaseMap.ranges, range ≠ asciiLetters → range.image.apart span = true) ∧
      ∀ expansion ∈ lowercaseMap.expansions, (ofNats expansion.2).all (units.contains ·) = false := by
  decide +kernel

/-- What has only units in its lower-case form is a unit. -/
theorem unit_of_apply (h : ∀ d ∈ lowercaseMap.apply c, d ∈ units) : c ∈ units := by
  rcases lowercaseMap.apply_cases c with ⟨ns, hmem, heq⟩ | ⟨range, hrange, hholds, heq⟩ | ⟨_, heq⟩
  · -- expansions have more than units
    have hmore := lowercase_map_units.2 _ hmem
    rw [← heq, ← Bool.not_eq_true, List.all_eq_true] at hmore
    exact absurd (fun d hd => List.contains_iff_mem.2 (h d hd)) hmore
  · obtain ⟨d, hval, himage, hmoved⟩ :=
      CaseMap.of_nats_moved is_stable_lowercase_map hrange hholds
    have hd : d ∈ units := h d (by rw [heq, hmoved]; exact List.mem_singleton_self d)
    by_cases hascii : range = asciiLetters
    · subst hascii
      obtain ⟨hfirst, hlast, _⟩ := CaseRange.holds_iff.1 hholds
      simp only [asciiLetters] at hfirst hlast hval
      have hletters : ∀ d ∈ units, 0x61 ≤ d.val → d - 0x20 ∈ units :=
        List.all_iff_forall_prop.1 (by decide)
      have hletter := hletters d hd (by omega)
      rwa [sub_of_val_eq (c := c) (by omega)] at hletter
    · -- the other ranges lead to where no unit is
      have hnot := CaseRange.not_holds_of_apart (lowercase_map_units.1 range hrange hascii) himage
      have hspan : ∀ d ∈ units, span.holds d.val = true :=
        List.all_iff_forall_prop.1 (by decide)
      rw [hspan d hd] at hnot
      cases hnot
  · exact h c (by rw [heq]; exact List.mem_singleton_self c)

/-! ### Case forms of texts of units -/

/-- The lower-case form of a text of units is that of ASCII. -/
theorem lowercase_of_units (h : ∀ c ∈ t, c ∈ units) : t.lowercase = t.map small := by
  have hsigma : ∀ c ∈ t, c ≠ capitalSigma := by
    rintro c hc rfl
    exact sigma_not_mem_units.1 (h capitalSigma hc)
  rw [lowercase, lowercase_after_of_no_sigma hsigma]
  exact CaseMap.flat_map_apply fun c hc => (apply_of_unit c (h c hc)).1

/-- The upper-case form of a text of units is that of ASCII. -/
theorem uppercase_of_units (h : ∀ c ∈ t, c ∈ units) : t.uppercase = t.map capital :=
  CaseMap.flat_map_apply fun c hc => (apply_of_unit c (h c hc)).2

/-- The lower-case form of an upper-case form is the one of the text. -/
theorem lowercase_uppercase (h : ∀ c ∈ t, c ∈ units) : t.uppercase.lowercase = t.lowercase := by
  have hcapitals : ∀ c ∈ t.map capital, c ∈ units := by
    intro d hd
    obtain ⟨c, hc, rfl⟩ := List.mem_map.1 hd
    exact (case_mem_units c (h c hc)).2
  rw [uppercase_of_units h, lowercase_of_units hcapitals, lowercase_of_units h, List.map_map]
  exact List.map_congr_left fun c hc => (case_of_case c (h c hc)).2

/-- A text with the lower-case form of a text of units is made of units, too. -/
theorem units_of_lowercase_eq {query : Text} (h : ∀ c ∈ t, c ∈ units)
    (hquery : query.lowercase = t.lowercase) : ∀ c ∈ query, c ∈ units := by
  have hform : ∀ d ∈ query.lowercase, d ∈ units := by
    rw [hquery, lowercase_of_units h]
    intro d hd
    obtain ⟨c, hc, rfl⟩ := List.mem_map.1 hd
    exact (case_mem_units c (h c hc)).1
  intro c hc
  obtain ⟨ahead, behind, hsubset⟩ := lowered_subset hc []
  split at hsubset
  · -- no small sigma is a unit
    have hsmall := hform _ (hsubset (List.mem_singleton_self _))
    unfold smallSigma at hsmall
    split at hsmall
    · exact absurd hsmall sigma_not_mem_units.2.1
    · exact absurd hsmall sigma_not_mem_units.2.2
  · exact unit_of_apply fun d hd => hform d (hsubset hd)

/-- A text that differs from a code at most in its letter case has the upper-case form of the code. -/
theorem uppercase_eq_of_lowercase_eq {query : Text} (h : ∀ c ∈ t, c ∈ units)
    (hquery : query.lowercase = t.lowercase) : query.uppercase = t.uppercase := by
  have hunits := units_of_lowercase_eq h hquery
  have hcapital : ∀ {u : Text}, (∀ c ∈ u, c ∈ units) → u.uppercase = u.lowercase.map capital := by
    intro u hu
    rw [uppercase_of_units hu, lowercase_of_units hu, List.map_map]
    exact List.map_congr_left fun c hc => (case_of_case c (hu c hc)).1.symm
  rw [hcapital hunits, hquery, hcapital h]

end EmojiText.Code
