import EmojiText.Code
import EmojiText.Proofs.Text.Literal
import Mathlib.Data.List.Forall2

/-!
# What a code lists

A code is stripped and split at its hyphens, and each part has to be a hexadecimal literal of a
scalar value. `Lists` is the language of codes with what each of them lists, and
`code_points_iff_lists` says that exactly these codes are read, and that all others are refused as
malformed. Since hyphens part a code, no minus is left in it, and no number is negative.
-/

namespace EmojiText.Code

open Text CodePoint

/-- The part is a literal of the number of a scalar value. -/
def Denotes (part : Text) (c : CodePoint) : Prop :=
  HexLiteral part c.val ∧ ¬ (0xD800 ≤ c.val ∧ c.val ≤ 0xDFFF)

/-- The parts of a code: the pieces between the hyphens of what is left of it without blanks at both
ends. -/
def parts (written : Text) : List Text := written.strip.split hyphen

/-- There is a code, and it has one to nine parts, which denote the code points one by one. -/
def Lists (code : Option Text) (points : List CodePoint) : Prop :=
  ∃ written, code = some written ∧ 1 ≤ (parts written).length ∧ (parts written).length ≤ 9 ∧
    List.Forall₂ Denotes (parts written) points

variable {part written : Text} {c : CodePoint} {points : List CodePoint} {pieces : List Text}

/-- No part has a minus. -/
theorem no_minus_of_mem_parts (h : part ∈ parts written) : ∀ c ∈ part, c.val ≠ 0x2D := by
  intro c hc hminus
  have hhyphen : c = hyphen := Fin.ext hminus
  rw [hhyphen] at hc
  exact not_mem_of_mem_split h hc

/-- The scalar values are the code points that are no surrogates. -/
theorem is_scalar_iff : c.isScalar = true ↔ ¬ (0xD800 ≤ c.val ∧ c.val ≤ 0xDFFF) := by
  rw [isScalar, Bool.not_eq_true', ← Bool.not_eq_true, isSurrogate, Bool.and_eq_true,
    decide_eq_true_eq, decide_eq_true_eq]

/-- The number of a scalar value is that of its code point. -/
theorem scalar_eq_some_iff {i : Int} :
    scalar? i = some c ↔ i = Int.ofNat c.val ∧ ¬ (0xD800 ≤ c.val ∧ c.val ≤ 0xDFFF) := by
  cases i with
  | negSucc n => simp [scalar?]
  | ofNat n =>
      rw [scalar?, Option.filter_eq_some_iff, is_scalar_iff]
      refine and_congr_left fun _ => ?_
      unfold ofNat?
      split
      · rw [Option.some.injEq, Fin.ext_iff, Int.ofNat.injEq]
      · rename_i hge
        have hlt := c.isLt
        simp only [reduceCtorEq, Int.ofNat.injEq, false_iff]
        omega

/-- A part lists the code point that it denotes, and no other one. -/
theorem code_point_eq_ok_iff (hminus : ∀ c ∈ part, c.val ≠ 0x2D) :
    codePoint part = .ok c ↔ Denotes part c := by
  have hread : codePoint part = .ok c ↔ ∃ i, part.hexInt? = some i ∧ scalar? i = some c := by
    unfold codePoint
    cases part.hexInt? with
    | none => simp
    | some i =>
        simp only [Option.some.injEq, exists_eq_left']
        cases scalar? i <;> simp
  rw [hread]
  simp only [scalar_eq_some_iff, hex_int_iff_literal hminus, Denotes]
  constructor
  · rintro ⟨i, ⟨n, rfl, hliteral⟩, hval, hscalar⟩
    obtain rfl : n = c.val := Int.ofNat.inj hval
    exact ⟨hliteral, hscalar⟩
  · rintro ⟨hliteral, hscalar⟩
    exact ⟨_, ⟨c.val, rfl, hliteral⟩, rfl, hscalar⟩

/-- Parts list what each of them denotes. -/
theorem code_points_of_parts_eq_ok_iff (hminus : ∀ part ∈ pieces, ∀ c ∈ part, c.val ≠ 0x2D) :
    codePointsOfParts pieces = .ok points ↔ List.Forall₂ Denotes pieces points := by
  induction pieces generalizing points with
  | nil =>
      rw [codePointsOfParts, List.forall₂_nil_left_iff, Except.ok.injEq, eq_comm]
  | cons part pieces ih =>
      obtain ⟨hpart, hpieces⟩ := List.forall_mem_cons.1 hminus
      have hread : codePointsOfParts (part :: pieces) = .ok points ↔
          ∃ c cs, codePoint part = .ok c ∧ codePointsOfParts pieces = .ok cs ∧
            points = c :: cs := by
        rw [codePointsOfParts]
        cases codePoint part with
        | error fault => simp
        | ok c => cases codePointsOfParts pieces <;> simp [eq_comm]
      rw [hread, List.forall₂_cons_left_iff]
      simp only [code_point_eq_ok_iff hpart, ih hpieces]

/-- A code is read if it is not blank, all of its parts are read, and they are not too many. -/
theorem code_points_eq_ok_iff :
    codePoints written = .ok points ↔
      written.strip ≠ [] ∧ codePointsOfParts (parts written) = .ok points ∧
        points.length ≤ maxLength := by
  unfold codePoints parts
  by_cases hblank : written.strip = []
  · simp [hblank]
  · rw [if_neg hblank]
    cases codePointsOfParts (written.strip.split hyphen) with
    | error fault => simp
    | ok cs =>
        simp only [Except.ok.injEq]
        split
        · rename_i hlong
          simp only [reduceCtorEq, false_iff]
          rintro ⟨_, rfl, hle⟩
          omega
        · rename_i hshort
          rw [Except.ok.injEq]
          constructor
          · rintro rfl
            exact ⟨hblank, rfl, Nat.not_lt.1 hshort⟩
          · exact fun h => h.2.1

/-- Each of the parts that denote code points denotes one of them. -/
theorem exists_denotes_of_mem (h : List.Forall₂ Denotes pieces points) (hpart : part ∈ pieces) :
    ∃ c, Denotes part c := by
  induction h with
  | nil => cases hpart
  | cons hdenotes _ ih =>
      rcases List.mem_cons.1 hpart with rfl | hpart
      · exact ⟨_, hdenotes⟩
      · exact ih hpart

/-- Parts denote scalar values. -/
theorem scalar_of_denotes (h : List.Forall₂ Denotes pieces points) :
    ∀ c ∈ points, c.isScalar = true := by
  induction h with
  | nil => exact fun c hc => absurd hc List.not_mem_nil
  | cons hdenotes _ ih => exact List.forall_mem_cons.2 ⟨is_scalar_iff.2 hdenotes.2, ih⟩

/-- What is empty denotes nothing. -/
theorem not_denotes_nil : ¬ Denotes [] c := by
  rintro ⟨hliteral, _⟩
  cases hliteral.hex_int_eq

/-- Exactly the codes of the language are read, and what they list is what is read. -/
theorem code_points_eq_ok_iff_lists {code : Option Text} :
    codePoints? code = .ok points ↔ Lists code points := by
  cases code with
  | none => simp [codePoints?, Lists]
  | some written =>
      have hminus : ∀ part ∈ parts written, ∀ c ∈ part, c.val ≠ 0x2D :=
        fun part hpart => no_minus_of_mem_parts hpart
      rw [codePoints?, code_points_eq_ok_iff, code_points_of_parts_eq_ok_iff hminus]
      constructor
      · rintro ⟨_, hparts, hlength⟩
        refine ⟨written, rfl, ?_, ?_, hparts⟩
        · exact List.length_pos_of_ne_nil (split_ne_nil hyphen written.strip)
        · rwa [hparts.length_eq]
      · rintro ⟨_, hwritten, _, hlength, hparts⟩
        cases hwritten
        refine ⟨?_, hparts, by rwa [← hparts.length_eq]⟩
        intro hblank
        rw [parts, hblank] at hparts
        cases hparts with
        | cons h _ => exact not_denotes_nil h

/-- A code lists at least one code point and not too many, all of them scalar values. -/
theorem scalar_of_code_points (h : codePoints written = .ok points) :
    points ≠ [] ∧ points.length ≤ maxLength ∧ ∀ c ∈ points, c.isScalar = true := by
  have hread : codePoints? (some written) = .ok points := h
  obtain ⟨_, _, hpos, hlength, hparts⟩ := code_points_eq_ok_iff_lists.1 hread
  rw [hparts.length_eq] at hpos hlength
  exact ⟨List.ne_nil_of_length_pos hpos, hlength, scalar_of_denotes hparts⟩

/-- Reading a code accepts the language of codes and gives what a code lists, which is one code
point more than there are hyphens in the code without the blanks around it. All other codes are
refused as malformed, and so is a missing one. No part of a code is read as a negative number. -/
theorem code_points_iff_lists (code : Option Text) :
    (∀ points, codePoints? code = .ok points ↔ Lists code points) ∧
    (∀ written points, code = some written → codePoints? code = .ok points →
      points.length = written.strip.count hyphen + 1) ∧
    ((¬ ∃ points, Lists code points) ↔
      ∃ fault, codePoints? code = .error fault ∧ (fault.toFault code).kind = .malformedCode) ∧
    ∀ written, code = some written →
      ∀ part ∈ parts written, ∀ i, part.hexInt? = some i → 0 ≤ i := by
  refine ⟨fun points => code_points_eq_ok_iff_lists, ?_, ?_, ?_⟩
  · intro written points hwritten hread
    obtain ⟨_, hsame, _, _, hparts⟩ := code_points_eq_ok_iff_lists.1 hread
    obtain rfl : written = _ := Option.some.inj (hwritten.symm.trans hsame)
    rw [← hparts.length_eq, parts, length_split]
  · simp only [← code_points_eq_ok_iff_lists]
    cases codePoints? code with
    | ok points => simp
    | error fault =>
        simp only [reduceCtorEq, exists_false, not_false_eq_true, true_iff]
        exact ⟨fault, rfl, rfl⟩
  · intro written _ part hpart i hread
    obtain ⟨n, rfl, _⟩ := (hex_int_iff_literal (no_minus_of_mem_parts hpart)).1 hread
    exact Int.natCast_nonneg n

/-- Blanks around a code and around a part, a plus, marks with and without an underscore, and a
digit of another script make no difference to what is listed. A minus in front is a hyphen behind an
empty part. -/
theorem code_points_iff_lists_of_marked :
    let written : Text := "\x1c+0X_1f4٦8 - 0x200d\n"
    (Lists (some written) [0x1F468, 0x200D] ∧ written.strip.count hyphen = 1) ∧
    (∃ i, Text.hexInt? "+0X_1f4٦8 " = some i ∧ 0 ≤ i) ∧
    (∃ fault, codePoints? (some "-1F600") = .error fault ∧
      (fault.toFault (some "-1F600")).kind = .malformedCode) ∧
    ¬ ∃ points, Lists (some "-1F600") points := by
  intro written
  have hread : codePoints? (some written) = .ok [0x1F468, 0x200D] := by decide +kernel
  have hrefused : codePoints? (some "-1F600") = .error (.notHexadecimal []) := by decide +kernel
  have hpart : ("+0X_1f4٦8 " : Text) ∈ parts written := by decide +kernel
  have hnumber : Text.hexInt? "+0X_1f4٦8 " = some 0x1F468 := by decide +kernel
  obtain ⟨hlists, hlength, _, hnonneg⟩ := code_points_iff_lists (some written)
  obtain ⟨_, _, hmalformed, _⟩ := code_points_iff_lists (some "-1F600")
  have hcount : 2 = written.strip.count hyphen + 1 := hlength written _ rfl hread
  have hfault : ∃ fault, codePoints? (some "-1F600") = .error fault ∧
      (fault.toFault (some "-1F600")).kind = .malformedCode := ⟨_, hrefused, rfl⟩
  exact ⟨⟨(hlists _).1 hread, by omega⟩,
    ⟨_, hnumber, hnonneg written rfl _ hpart _ hnumber⟩, hfault, hmalformed.2 hfault⟩

end EmojiText.Code
