import EmojiText.Proofs.Config.Accepted
import EmojiText.Proofs.Text.Parts

/-!
# Which scales are accepted

The check of the scale of images refuses a number that is zero or below. What is left is above zero,
or it is not a number at all: that is neither above zero nor below, and the check lets it pass.
`Binary64.NamesNan` says which texts name it and `MeansNan` which values are read as it by rules
that `Rules.ReadNan`, as the usual ones do; `Rules.GiveNan` says that the sources have such a value
for the scale. The main statements are `scale_eq_nan_iff` and, from it, `scale_positive_iff`.
-/

namespace EmojiText

namespace Binary64

/-- Whether the number is above zero; never so for what is not a number. -/
def positive : Binary64 → Bool
  | .nan => false
  | .infinite negative => !negative
  | .finite negative mantissa _ => !negative && mantissa != 0

/-- What is not zero or below is above zero, or is not a number. -/
theorem positive_iff {x : Binary64} : x.positive = true ↔ x.nonpositive = false ∧ x ≠ nan := by
  cases x <;> simp [positive, nonpositive]

/-! ### Texts that name what is not a number -/

/-- A code point in lower case, if it is an ASCII letter. -/
def lowerUnit (c : CodePoint) : CodePoint :=
  if 0x41 ≤ c.val && c.val ≤ 0x5A then c + 0x20 else c

/-- Only capital letters change, and they move by a fixed distance. -/
theorem val_lower_unit (c : CodePoint) :
    (lowerUnit c).val = if 0x41 ≤ c.val ∧ c.val ≤ 0x5A then c.val + 0x20 else c.val := by
  have hlimit : (0x20 : CodePoint).val = 0x20 := rfl
  simp only [lowerUnit, Bool.and_eq_true, decide_eq_true_eq]
  split
  · rw [Fin.val_add, hlimit]
    omega
  · rfl

/-- What is rounded from a ratio is a number. -/
theorem of_ratio_ne_nan (negative : Bool) (numerator denominator : Nat) :
    ofRatio negative numerator denominator ≠ nan := by
  unfold ofRatio
  dsimp only
  split_ifs <;> exact nofun

/-- What is rounded from a decimal is a number. -/
theorem of_decimal_ne_nan (negative : Bool) (digits : Nat) (power : Int) :
    ofDecimal negative digits power ≠ nan := by
  unfold ofDecimal
  split_ifs
  · exact nofun
  · exact nofun
  · exact nofun
  · exact of_ratio_ne_nan _ _ _
  · exact of_ratio_ne_nan _ _ _

/-- The text of a decimal is read as a number. -/
theorem of_decimal_text_ne_nan (negative : Bool) (t : Text) :
    ofDecimalText? negative t ≠ some nan := by
  unfold ofDecimalText?
  dsimp only
  split_ifs
  · simp
  · split
    · simpa only [ne_eq, Option.some.injEq] using of_decimal_ne_nan _ _ _
    · split_ifs
      · simp [of_decimal_ne_nan]
      · simp

/-- A decimal starts with a digit or with a point. -/
theorem of_decimal_text_eq_none {negative : Bool} {t : Text}
    (h : ∀ c ∈ t.head?, c.asciiDigit? = none ∧ c.val ≠ 0x2E) :
    ofDecimalText? negative t = none := by
  cases t with
  | nil => rfl
  | cons c rest =>
      obtain ⟨hdigit, hpoint⟩ := h c rfl
      have hspan : spanDigits (c :: rest) = ([], c :: rest) := by
        simp [spanDigits, hdigit]
      simp [ofDecimalText?, hspan, hpoint]

/-- A text without the sign in front of it, if it has one. -/
def unsigned : Text → Text
  | [] => []
  | c :: rest => if c.val = 0x2D ∨ c.val = 0x2B then rest else c :: rest

/-- A text names what is not a number: in any letter case, perhaps behind a sign. -/
def NamesNan (t : Text) : Prop := (unsigned t).asciiLowercase = "nan"

/-- What stands behind a sign is a name or a decimal. -/
theorem exists_of_text_eq (t : Text) : ∃ negative, ofText? t =
    (if (unsigned t).asciiLowercase = "inf" || (unsigned t).asciiLowercase = "infinity" then
        some (infinite negative)
      else if (unsigned t).asciiLowercase = "nan" then some nan
      else ofDecimalText? negative (unsigned t)) := by
  cases t with
  | nil => exact ⟨false, rfl⟩
  | cons c rest =>
      by_cases hminus : c.val = 0x2D
      · have hbody : unsigned (c :: rest) = rest := if_pos (.inl hminus)
        refine ⟨true, ?_⟩
        simp only [hbody, ofText?, hminus, if_true]
      · refine ⟨false, ?_⟩
        by_cases hplus : c.val = 0x2B
        · have hbody : unsigned (c :: rest) = rest := if_pos (.inr hplus)
          simp only [hbody, ofText?, if_neg hminus, if_pos hplus]
        · have hbody : unsigned (c :: rest) = c :: rest := if_neg (not_or.2 ⟨hminus, hplus⟩)
          simp only [hbody, ofText?, if_neg hminus, if_neg hplus]

/-- A text is read as what is not a number exactly if it names it. -/
theorem of_text_eq_nan_iff {t : Text} : ofText? t = some nan ↔ NamesNan t := by
  obtain ⟨negative, heq⟩ := exists_of_text_eq t
  rw [heq, NamesNan]
  have hnames : ("nan" : Text) ≠ "inf" ∧ ("nan" : Text) ≠ "infinity" := by decide
  by_cases hnan : (unsigned t).asciiLowercase = "nan"
  · simp [hnan, hnames]
  · simp only [hnan, if_false, iff_false]
    split
    · exact nofun
    · exact of_decimal_text_ne_nan negative _

/-- A code point with which neither a decimal starts nor a name of infinity. -/
def StartsNone (c : CodePoint) : Prop :=
  c.asciiDigit? = none ∧ c.val ≠ 0x2E ∧ c.val ≠ 0x49 ∧ c.val ≠ 0x69

theorem mem_of_mem_unsigned {c : CodePoint} {t : Text} (h : c ∈ unsigned t) : c ∈ t := by
  cases t with
  | nil => exact h
  | cons d rest =>
      rw [unsigned] at h
      split at h
      · exact List.mem_cons_of_mem d h
      · exact h

/-- A text of such code points is read as what is not a number, or not at all. -/
theorem of_text_of_starts_none {t : Text} (h : ∀ c ∈ t, StartsNone c) :
    ofText? t = none ∨ ofText? t = some nan := by
  obtain ⟨negative, heq⟩ := exists_of_text_eq t
  have hhead : ∀ c ∈ (unsigned t).head?, StartsNone c :=
    fun c hc => h c (mem_of_mem_unsigned (List.mem_of_mem_head? hc))
  have hdecimal : ofDecimalText? negative (unsigned t) = none :=
    of_decimal_text_eq_none fun c hc => ⟨(hhead c hc).1, (hhead c hc).2.1⟩
  have hinfinity : ∀ name : Text, name.head? = some 0x69 → (unsigned t).asciiLowercase ≠ name := by
    rintro _ hname rfl
    obtain ⟨c, hc, hlower⟩ := Option.map_eq_some_iff.1 (List.head?_map.symm.trans hname)
    have hval : (lowerUnit c).val = 0x69 := congrArg Fin.val hlower
    obtain ⟨-, -, hupper, hletter⟩ := hhead c hc
    rw [val_lower_unit] at hval
    split at hval <;> omega
  rw [heq, hdecimal]
  simp only [hinfinity "inf" rfl, hinfinity "infinity" rfl, decide_false, Bool.or_self,
    Bool.false_eq_true, if_false]
  split
  · exact .inr rfl
  · exact .inl rfl

/-- Signs and the letters of the name of what is not a number are such code points. -/
theorem starts_none_of_val {c : CodePoint}
    (h : c.val ∈ [0x2B, 0x2D, 0x41, 0x4E, 0x61, 0x6E]) : StartsNone c := by
  simp only [List.mem_cons, List.not_mem_nil, or_false] at h
  refine ⟨?_, by omega, by omega, by omega⟩
  rw [CodePoint.asciiDigit?, if_neg]
  simp only [Bool.and_eq_true, decide_eq_true_eq]
  omega

/-- All code points of a text that names what is not a number are of that kind. -/
theorem NamesNan.starts_none {t : Text} (h : NamesNan t) {c : CodePoint} (hc : c ∈ t) :
    StartsNone c := by
  have hname : ∀ d ∈ unsigned t, StartsNone d := by
    intro d hd
    have hmem : lowerUnit d ∈ (unsigned t).asciiLowercase := List.mem_map_of_mem hd
    rw [show (unsigned t).asciiLowercase = "nan" from h] at hmem
    have hval : (lowerUnit d).val ∈ [0x6E, 0x61, 0x6E] := List.mem_map_of_mem hmem
    rw [val_lower_unit] at hval
    refine starts_none_of_val ?_
    simp only [List.mem_cons, List.not_mem_nil, or_false] at hval ⊢
    split at hval <;> omega
  cases t with
  | nil => cases hc
  | cons d rest =>
      rw [unsigned] at hname
      split at hname
      · rename_i hsign
        rcases List.mem_cons.1 hc with rfl | hrest
        · exact starts_none_of_val (by simpa using hsign.symm.imp_right .inl)
        · exact hname c hrest
      · exact hname c hc

end Binary64

namespace Config

/-! ### Values that mean what is not a number -/

/-- A text without its underscores has all its other code points. -/
theorem mem_of_without_underscores {t joined : Text} (h : withoutUnderscores? t = some joined)
    {c : CodePoint} (hc : c ∈ t) : c = Text.underscore ∨ c ∈ joined := by
  unfold withoutUnderscores? at h
  dsimp only at h
  split at h
  · cases h
    rw [← Text.join_split Text.underscore t] at hc
    rcases Text.mem_join hc with hseparator | ⟨part, hpart, hc⟩
    · exact .inl (List.mem_singleton.1 hseparator)
    · exact .inr (List.mem_flatten.2 ⟨part, hpart, hc⟩)
  · cases h

/-- A text names what is not a number, with blanks around it or with single underscores in it if it
has any. -/
inductive SpellsNan (t : Text) : Prop where
  | trimmed (h : Binary64.NamesNan (t.trim CodePoint.isWhiteSpace))
  | joined {joined : Text} (hjoined : withoutUnderscores? t = some joined)
      (h : Binary64.NamesNan joined)

/-- A text spells what is not a number if it names it. -/
theorem number_of_text_eq_nan_iff {t : Text} : numberOfText? t = some .nan ↔ SpellsNan t := by
  rw [numberOfText?, Option.or_eq_some_iff, Binary64.of_text_eq_nan_iff]
  constructor
  · rintro (htrimmed | ⟨-, hbind⟩)
    · exact .trimmed htrimmed
    · obtain ⟨joined, hjoined, hnan⟩ := Option.bind_eq_some_iff.1 hbind
      exact .joined hjoined (Binary64.of_text_eq_nan_iff.1 hnan)
  · rintro (htrimmed | ⟨hjoined, hnan⟩)
    · exact .inl htrimmed
    · have hnone : ∀ c ∈ t.trim CodePoint.isWhiteSpace, Binary64.StartsNone c := by
        intro c hc
        rcases mem_of_without_underscores hjoined (Text.mem_of_mem_trim hc) with rfl | hmem
        · unfold Binary64.StartsNone; decide
        · exact hnan.starts_none hmem
      rcases Binary64.of_text_of_starts_none hnone with hplain | hplain
      · refine .inr ⟨hplain, ?_⟩
        rw [hjoined]
        exact Binary64.of_text_eq_nan_iff.2 hnan
      · exact .inl (Binary64.of_text_eq_nan_iff.1 hplain)

/-- A value that is read as what is not a number. -/
inductive MeansNan : Json → Prop where
  | number : MeansNan (.float .nan)
  | text {t : Text} (h : SpellsNan t) : MeansNan (.string t)

/-- A value is read as what is not a number exactly if it means that. -/
theorem check_number_eq_nan_iff {input : Json} :
    checkNumber input = .valid .nan ↔ MeansNan input := by
  constructor
  · intro h
    cases input with
    | null | array | object => cases h
    | bool value => exact absurd (Checked.valid.inj h) (Binary64.of_decimal_ne_nan _ _ _)
    | int n =>
        simp only [checkNumber] at h
        split at h
        · exact absurd (Checked.valid.inj h) (Binary64.of_decimal_ne_nan _ _ _)
        · cases h
    | float x =>
        cases h
        exact .number
    | string t =>
        simp only [checkNumber] at h
        split at h
        · rename_i hnumber
          cases h
          exact .text (number_of_text_eq_nan_iff.1 hnumber)
        · cases h
  · rintro (_ | ⟨hspells⟩)
    · rfl
    · simp [checkNumber, number_of_text_eq_nan_iff.2 hspells]

/-- What is not a number is read from the values that mean it and from no others, as numbers are
documented to be read. -/
def Rules.ReadNan (rules : Rules) : Prop :=
  ∀ input, rules.checkNumber input = .valid .nan ↔ MeansNan input

/-- The usual rules read numbers as documented. -/
theorem read_nan_standard : Rules.standard.ReadNan := fun _ => check_number_eq_nan_iff

/-- The sources have a value for the scale that means what is not a number. -/
def Rules.GiveNan (rules : Rules) (sources : Sources) : Prop :=
  ∃ input, rules.value? sources "EMOJI_IMAGE_SCALE" = some input ∧ MeansNan input

variable {rules : Rules} {sources : Sources} {config : Config}

/-- A number passes the check of the scale unless it is zero or below. -/
theorem check_image_scale_eq_valid_iff {input : Json} {scale : Binary64} :
    rules.checkImageScale input = .valid scale ↔
      rules.checkNumber input = .valid scale ∧ scale.nonpositive = false := by
  rw [Rules.checkImageScale, Checked.and_then_eq_valid_iff]
  constructor
  · rintro ⟨number, hnumber, hscale⟩
    split at hscale
    · cases hscale
    · rename_i hpositive
      cases hscale
      exact ⟨hnumber, Bool.eq_false_iff.2 hpositive⟩
  · rintro ⟨hnumber, hpositive⟩
    exact ⟨scale, hnumber, by rw [hpositive, if_neg Bool.false_ne_true]⟩

/-! ### Accepted scales -/

/-- An accepted scale is not zero or below. -/
theorem nonpositive_of_accepted (h : Accepted rules sources config) :
    config.imageScale.nonpositive = false := by
  rcases Rules.field_eq_valid_iff.1 h.imageScale_eq with ⟨_, _, hcheck⟩ | ⟨_, hdefault⟩
  · exact (check_image_scale_eq_valid_iff.1 hcheck).2
  · rw [hdefault]
    decide +kernel

/-- An accepted scale is not a number exactly if the sources say so. -/
theorem scale_eq_nan_iff (hrules : rules.ReadNan) (h : Accepted rules sources config) :
    config.imageScale = .nan ↔ rules.GiveNan sources := by
  rcases Rules.field_eq_valid_iff.1 h.imageScale_eq with
    ⟨input, hinput, hcheck⟩ | ⟨hnone, hdefault⟩
  · have hnumber := (check_image_scale_eq_valid_iff.1 hcheck).1
    constructor
    · intro hnan
      rw [hnan] at hnumber
      exact ⟨input, hinput, (hrules input).1 hnumber⟩
    · rintro ⟨other, hother, hmeans⟩
      cases hinput.symm.trans hother
      exact Checked.valid.inj (hnumber.symm.trans ((hrules input).2 hmeans))
  · refine iff_of_false ?_ ?_
    · rw [hdefault]
      exact Binary64.of_decimal_ne_nan false 35 (-2)
    · rintro ⟨input, hinput, _⟩
      cases hnone.symm.trans hinput

/-- An accepted scale is above zero, unless the sources give what is not a number. -/
theorem scale_positive_iff (hrules : rules.ReadNan) (h : Accepted rules sources config) :
    config.imageScale.positive = true ↔ ¬ rules.GiveNan sources := by
  rw [Binary64.positive_iff, ← scale_eq_nan_iff hrules h, and_iff_right (nonpositive_of_accepted h)]

end Config

end EmojiText
