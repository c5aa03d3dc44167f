import EmojiText.Proofs.Text.Parts
import EmojiText.Text.Numeral
import Mathlib.Data.Bool.AllAny

/-!
# Hexadecimal digits

A text of ASCII hexadecimal digits in any letter case is a literal without sign, mark or underscore,
so reading it gives the value of its digits. Zeros in front and the letter case make no difference to
that value. The main statements are `hex_int_of_units` and `value_of_hexadecimal`.
-/

namespace EmojiText

namespace CodePoint

/-- The hexadecimal digits of ASCII. -/
def hexUnits : Text := "0123456789ABCDEFabcdef"

/-- The ASCII letter in lower case. -/
def small (c : CodePoint) : CodePoint := if 0x41 ≤ c.val && c.val ≤ 0x5A then c + 0x20 else c

/-- The value of a digit. -/
def hexValue (c : CodePoint) : Nat := c.hexDigit?.getD 0

variable {c : CodePoint}

/-- No digit is blank. -/
theorem not_blank_of_hex_unit : ∀ c ∈ hexUnits, c.isWhiteSpace = false ∧ c.isBlank = false :=
  List.all_iff_forall_prop.1 (by decide)

/-- No digit is a part of a mark, a sign or an underscore. -/
theorem not_mark_of_hex_unit :
    ∀ c ∈ hexUnits, c.val ≠ 0x78 ∧ c.val ≠ 0x58 ∧ c.val ≠ 0x2B ∧ c.val ≠ 0x2D ∧
      c ≠ Text.underscore :=
  List.all_iff_forall_prop.1 (by decide)

/-- Every digit has a value, which does not depend on the letter case. -/
theorem value_of_hex_unit :
    ∀ c ∈ hexUnits, c.hexDigit? = some c.hexValue ∧ c.small.hexValue = c.hexValue :=
  List.all_iff_forall_prop.1 (by decide)

/-- The digits of the numbers below sixteen have these numbers as their values. -/
theorem value_of_digit_char :
    ∀ d < 16, ofChar (Nat.digitChar d) ∈ hexUnits ∧ (ofChar (Nat.digitChar d)).hexValue = d := by
  decide

/-- A small letter and its capital are thirty-two numbers apart. -/
theorem sub_of_val_eq {d : CodePoint} (h : d.val = c.val + 0x20) : d - 0x20 = c := by
  apply Fin.ext
  rw [Fin.sub_def, h]
  show (0x110000 - 0x20 + (c.val + 0x20)) % 0x110000 = c.val
  omega

/-- A digit in the other letter case is a digit, too. -/
theorem mem_hex_units_of_small (h : c.small ∈ hexUnits) : c ∈ hexUnits := by
  have hcapital : ∀ d ∈ hexUnits, 0x61 ≤ d.val → d - 0x20 ∈ hexUnits :=
    List.all_iff_forall_prop.1 (by decide)
  unfold small at h
  split at h
  · rename_i hletter
    simp only [Bool.and_eq_true, decide_eq_true_eq] at hletter
    have hval : (c + 0x20).val = c.val + 0x20 := by
      rw [Fin.val_add]
      exact Nat.mod_eq_of_lt (by show c.val + 0x20 < 0x110000; omega)
    rw [← sub_of_val_eq hval]
    exact hcapital (c + 0x20) h (by omega)
  · exact h

end CodePoint

namespace Text

open CodePoint

variable {t : Text}

/-- Digits alone are all of a literal. -/
theorem digit_values_of_units (hne : t ≠ []) (h : ∀ c ∈ t, c ∈ hexUnits) :
    digitValues? hexDigit? t = some (t.map hexValue) := by
  induction t with
  | nil => exact absurd rfl hne
  | cons c rest ih =>
      have hc := (value_of_hex_unit c (h c List.mem_cons_self)).1
      have hrest : ∀ d ∈ rest, d ∈ hexUnits := fun d hd => h d (List.mem_cons_of_mem c hd)
      cases rest with
      | nil => rw [digitValues?, hc, Option.map_some, List.map_singleton]
      | cons d others =>
          obtain ⟨_, _, _, _, hd⟩ := not_mark_of_hex_unit d (hrest d List.mem_cons_self)
          rw [digitValues?, hc, Option.bind_some, if_neg hd,
            ih (List.cons_ne_nil d others) hrest]
          rfl

/-- A text without the cross of a mark has no mark in front. -/
theorem skip_hex_mark_of_no_cross (h : ∀ c ∈ t, c.val ≠ 0x78 ∧ c.val ≠ 0x58) :
    skipHexMark t = t := by
  unfold skipHexMark
  split
  · rename_i first x rest
    obtain ⟨hsmall, hcapital⟩ := h x (by simp)
    simp [hsmall, hcapital]
  · rfl

/-- Digits alone have no mark in front. -/
theorem skip_hex_mark_of_units (h : ∀ c ∈ t, c ∈ hexUnits) : skipHexMark t = t := by
  refine skip_hex_mark_of_no_cross fun c hc => ?_
  obtain ⟨hsmall, hcapital, _⟩ := not_mark_of_hex_unit c (h c hc)
  exact ⟨hsmall, hcapital⟩

/-- A text of digits is read as the number that they have as their value. -/
theorem hex_int_of_units (hne : t ≠ []) (h : ∀ c ∈ t, c ∈ hexUnits) :
    t.hexInt? = some (Int.ofNat (valueOfDigits 16 (t.map hexValue))) := by
  have htrim : t.trim CodePoint.isWhiteSpace = t :=
    trim_of_none fun c hc => (not_blank_of_hex_unit c (h c hc)).1
  have hnat : hexNat? t = some (valueOfDigits 16 (t.map hexValue)) := by
    rw [hexNat?, skip_hex_mark_of_units h, digit_values_of_units hne h, Option.map_some]
  cases t with
  | nil => exact absurd rfl hne
  | cons c rest =>
      obtain ⟨_, _, hplus, hminus, _⟩ := not_mark_of_hex_unit c (h c List.mem_cons_self)
      rw [hexInt?, htrim]
      simp only [if_neg hplus, if_neg hminus, hnat, Option.map_some]

/-! ### The value of digits -/

/-- The last digit counts once and those in front of it sixteen times, or as the base says. -/
theorem value_of_digits_append (base : Nat) (digits : List Nat) (last : Nat) :
    valueOfDigits base (digits ++ [last]) = base * valueOfDigits base digits + last := by
  rw [valueOfDigits, List.foldl_append]
  rfl

/-- Zeros in front do not count. -/
theorem value_of_digits_zeros (base count : Nat) (digits : List Nat) :
    valueOfDigits base (List.replicate count 0 ++ digits) = valueOfDigits base digits := by
  induction count with
  | zero => rfl
  | succ count ih =>
      rw [← ih, List.replicate_succ, List.cons_append]
      simp [valueOfDigits]

/-- The hexadecimal form of a number: digits with lower-case letters, without zeros in front. -/
def hexadecimal (n : Nat) : Text := (Nat.toDigits 16 n).map CodePoint.ofChar

/-- The hexadecimal form is made of digits, and their value is the number. -/
theorem value_of_hexadecimal (n : Nat) :
    (∀ c ∈ hexadecimal n, c ∈ hexUnits) ∧
      valueOfDigits 16 ((hexadecimal n).map hexValue) = n := by
  induction n using Nat.strongRecOn with
  | ind n ih =>
      rcases Nat.lt_or_ge n 16 with hlt | hle
      · obtain ⟨hmem, hvalue⟩ := value_of_digit_char n hlt
        have hdigits : hexadecimal n = [ofChar (Nat.digitChar n)] := by
          rw [hexadecimal, Nat.toDigits_of_lt_base hlt, List.map_singleton]
        rw [hdigits]
        exact ⟨by simpa using hmem, by simp [valueOfDigits, hvalue]⟩
      · -- the last digit is the remainder, those in front of it are the digits of the quotient
        obtain ⟨hfront, hquotient⟩ := ih (n / 16) (by omega)
        obtain ⟨hmem, hvalue⟩ := value_of_digit_char (n % 16) (by omega)
        have hdigits : hexadecimal n = hexadecimal (n / 16) ++ [ofChar (Nat.digitChar (n % 16))] := by
          rw [hexadecimal, Nat.toDigits_of_base_le (by decide) hle, List.map_append,
            List.map_singleton, hexadecimal]
        rw [hdigits]
        refine ⟨?_, ?_⟩
        · intro c hc
          rcases List.mem_append.1 hc with hc | hc
          · exact hfront c hc
          · rwa [List.mem_singleton.1 hc]
        · rw [List.map_append, List.map_singleton, value_of_digits_append, hquotient, hvalue]
          omega

end Text

end EmojiText
