import EmojiText.Proofs.Code.Grammar
import EmojiText.Proofs.Code.LetterCase

/-!
# Written codes

A code point is written as its hexadecimal form behind any number of zeros, with letters in either
case. Codes of one to nine scalar values that are written so list these values, which is the main
statement `code_points_of_spells`.
-/

namespace EmojiText.Code

open Text CodePoint

/-- The part of a code writes a code point: apart from zeros in front and the letter case it is the
hexadecimal form of its number. -/
def Spells (part : Text) (c : CodePoint) : Prop :=
  ∃ zeros, part.asciiLowercase = List.replicate zeros 0x30 ++ hexadecimal c.val

variable {part : Text} {parts : List Text} {c : CodePoint} {points : List CodePoint}

/-- What writes a code point is not empty. -/
theorem Spells.ne_nil (h : Spells part c) : part ≠ [] := by
  obtain ⟨zeros, hform⟩ := h
  rintro rfl
  have hlength := congrArg List.length hform
  have hpos := Nat.length_toDigits_pos (b := 16) (n := c.val)
  simp only [asciiLowercase, List.map_nil, List.length_nil, List.length_append, hexadecimal,
    List.length_map] at hlength
  omega

/-- What writes a code point is made of digits. -/
theorem Spells.mem_hex_units (h : Spells part c) : ∀ d ∈ part, d ∈ hexUnits := by
  obtain ⟨zeros, hform⟩ := h
  intro d hd
  have hsmall : d.small ∈ part.asciiLowercase := List.mem_map_of_mem (f := small) hd
  rw [hform] at hsmall
  refine mem_hex_units_of_small ?_
  rcases List.mem_append.1 hsmall with hzero | hdigit
  · rw [List.eq_of_mem_replicate hzero]
    decide
  · exact (value_of_hexadecimal c.val).1 _ hdigit

/-- The value of what writes a code point is its number. -/
theorem Spells.value_eq (h : Spells part c) : valueOfDigits 16 (part.map hexValue) = c.val := by
  have hunits := h.mem_hex_units
  obtain ⟨zeros, hform⟩ := h
  have hsmall : part.map hexValue = part.asciiLowercase.map hexValue := by
    show _ = (part.map small).map hexValue
    rw [List.map_map]
    exact List.map_congr_left fun d hd => ((value_of_hex_unit d (hunits d hd)).2).symm
  have hzero : hexValue 0x30 = 0 := by decide
  rw [hsmall, hform, List.map_append, List.map_replicate, hzero, value_of_digits_zeros]
  exact (value_of_hexadecimal c.val).2

/-- What writes a scalar value denotes it. -/
theorem Spells.denotes (h : Spells part c) (hscalar : c.isScalar = true) : Denotes part c := by
  have hminus : ∀ d ∈ part, d.val ≠ 0x2D :=
    fun d hd => (not_mark_of_hex_unit d (h.mem_hex_units d hd)).2.2.2.1
  have hnumber : part.hexInt? = some (Int.ofNat c.val) := by
    rw [hex_int_of_units h.ne_nil h.mem_hex_units, h.value_eq]
  exact ⟨hex_literal_iff.2 ⟨hminus, hnumber⟩, is_scalar_iff.1 hscalar⟩

/-- Parts that write scalar values denote them. -/
theorem denotes_of_spells (hspells : List.Forall₂ Spells parts points)
    (hscalar : ∀ c ∈ points, c.isScalar = true) : List.Forall₂ Denotes parts points := by
  induction hspells with
  | nil => exact .nil
  | cons h _ ih =>
      obtain ⟨hfirst, hrest⟩ := List.forall_mem_cons.1 hscalar
      exact .cons (h.denotes hfirst) (ih hrest)

/-- The parts of a written code are made of digits, and none of them is empty. -/
theorem part_of_spells (hspells : List.Forall₂ Spells parts points) {part : Text}
    (hpart : part ∈ parts) : part ≠ [] ∧ ∀ d ∈ part, d ∈ hexUnits := by
  induction hspells with
  | nil => cases hpart
  | cons h _ ih =>
      rcases List.mem_cons.1 hpart with rfl | hpart
      · exact ⟨h.ne_nil, h.mem_hex_units⟩
      · exact ih hpart

/-- A written code is made of units. -/
theorem units_of_spells (hspells : List.Forall₂ Spells parts points) :
    ∀ c ∈ join [hyphen] parts, c ∈ units := by
  intro c hc
  rcases mem_join hc with hc | ⟨part, hpart, hc⟩
  · rw [List.mem_singleton.1 hc]
    exact List.mem_cons_self
  · exact List.mem_cons_of_mem _ ((part_of_spells hspells hpart).2 c hc)

/-- A written code is split into the parts that write its code points. -/
theorem split_of_spells (hspells : List.Forall₂ Spells parts points) (hne : points ≠ []) :
    split hyphen (join [hyphen] parts) = parts := by
  refine split_join ?_ ?_
  · rintro rfl
    cases hspells
    exact hne rfl
  · intro part hpart hmem
    have hunit := (part_of_spells hspells hpart).2 hyphen hmem
    exact (not_mark_of_hex_unit hyphen hunit).2.2.2.1 rfl

/-- A written code is not empty. -/
theorem ne_nil_of_spells (hspells : List.Forall₂ Spells parts points) (hne : points ≠ []) :
    join [hyphen] parts ≠ [] := by
  intro hnil
  have hsplit := split_of_spells hspells hne
  rw [hnil] at hsplit
  have hpart : [] ∈ parts := by
    rw [← hsplit]
    exact List.mem_singleton_self _
  exact (part_of_spells hspells hpart).1 rfl

/-- A written code lists the one to nine scalar values that it writes. -/
theorem code_points_of_spells (hspells : List.Forall₂ Spells parts points)
    (hscalar : ∀ c ∈ points, c.isScalar = true) (hne : points ≠ [])
    (hlength : points.length ≤ maxLength) : codePoints (join [hyphen] parts) = .ok points := by
  have hstrip : (join [hyphen] parts).strip = join [hyphen] parts := by
    refine trim_of_none fun c hc => ?_
    rcases List.mem_cons.1 (units_of_spells hspells c hc) with rfl | hdigit
    · decide
    · exact (not_blank_of_hex_unit c hdigit).2
  have hparts : Code.parts (join [hyphen] parts) = parts := by
    rw [Code.parts, hstrip, split_of_spells hspells hne]
  have hlists : Lists (some (join [hyphen] parts)) points := by
    refine ⟨_, rfl, ?_⟩
    rw [hparts, hspells.length_eq]
    exact ⟨List.length_pos_of_ne_nil hne, hlength, denotes_of_spells hspells hscalar⟩
  exact code_points_eq_ok_iff_lists.2 hlists

end EmojiText.Code
