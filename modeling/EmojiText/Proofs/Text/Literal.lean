import EmojiText.Proofs.Text.Hexadecimal

/-!
# Hexadecimal literals

Decimal digits of any script count as those of ASCII. With these in their place a literal has white
space at both ends, and between it perhaps a plus, perhaps the mark `0x` with perhaps an underscore
behind it, and a run of digits with single underscores between them: `HexLiteral` is this grammar.
The main statement is `hex_int_iff_literal`: a text without a minus is read as a number exactly if
it is a literal of that number, and so no such number is negative.

A map that keeps what code points are to literals changes no number, by `KeepsLiterals.hex_int_map`.
The map to the digits of ASCII is one, `keeps_literals_plain_digit`.
-/

namespace EmojiText

namespace CodePoint

/-- The digit of ASCII with the same value in place of a decimal digit, else the code point. -/
def plainDigit (c : CodePoint) : CodePoint :=
  match c.digit? with
  | some d => ofChar (Nat.digitChar d)
  | none => c

/-- Two code points are the same to literals. -/
structure Alike (c d : CodePoint) : Prop where
  blank : c.isWhiteSpace = d.isWhiteSpace
  value : c.hexDigit? = d.hexDigit?
  zero : c.digit? = some 0 ↔ d.digit? = some 0
  cross : (c.val = 0x78 ∨ c.val = 0x58) ↔ (d.val = 0x78 ∨ d.val = 0x58)
  underscore : c = Text.underscore ↔ d = Text.underscore
  plus : c.val = 0x2B ↔ d.val = 0x2B
  minus : c.val = 0x2D ↔ d.val = 0x2D

variable {c other : CodePoint} {d : Nat}

/-- Every code point is alike to itself. -/
theorem Alike.refl (c : CodePoint) : Alike c c :=
  ⟨rfl, rfl, Iff.rfl, Iff.rfl, Iff.rfl, Iff.rfl, Iff.rfl⟩

/-- The digits of ASCII are the first ones, those of other scripts come behind all letters of ASCII,
and none is white space. -/
theorem zeros_apart : ∀ start ∈ zeros, (start = 0x30 ∨ 0x660 ≤ start) ∧
    ∀ range ∈ whiteSpaceRanges, start + 9 < range.1 ∨ range.2 < start := by
  decide +kernel

/-- A decimal digit has its place in a run of ten. -/
theorem exists_zero_of_digit (h : c.digit? = some d) :
    ∃ start ∈ zeros, c.val = start + d ∧ d < 10 := by
  have hlt := digit?_lt h
  simp only [digit?, Option.map_eq_some_iff] at h
  obtain ⟨start, hfind, rfl⟩ := h
  have hrange := List.find?_some hfind
  simp only [Bool.and_eq_true, decide_eq_true_eq] at hrange
  exact ⟨start, List.mem_of_find?_eq_some hfind, by omega, hlt⟩

/-- No decimal digit is white space. -/
theorem not_white_space_of_digit (h : c.digit? = some d) : c.isWhiteSpace = false := by
  obtain ⟨start, hstart, hval, hlt⟩ := exists_zero_of_digit h
  rw [isWhiteSpace, inRanges, List.any_eq_false]
  intro range hrange
  have hapart := (zeros_apart start hstart).2 range hrange
  simp only [Bool.and_eq_true, decide_eq_true_eq]
  omega

/-- A decimal digit is one of ASCII, or comes behind all letters of ASCII. -/
theorem val_of_digit (h : c.digit? = some d) :
    (0x30 ≤ c.val ∧ c.val ≤ 0x39) ∨ 0x660 ≤ c.val := by
  obtain ⟨start, hstart, hval, hlt⟩ := exists_zero_of_digit h
  have hplace := (zeros_apart start hstart).1
  omega

/-- Between the digits of ASCII and those of other scripts there are none. -/
theorem digit_eq_none (hfirst : 0x3A ≤ c.val) (hlast : c.val < 0x660) : c.digit? = none := by
  cases h : c.digit? with
  | none => rfl
  | some d =>
      have hplace := val_of_digit h
      omega

/-- Between the space and the first control behind ASCII there is no blank. -/
theorem not_blank_of_val (hfirst : 0x21 ≤ c.val) (hlast : c.val < 0x85) :
    c.isWhiteSpace = false ∧ c.isBlank = false := by
  have hwhite : c.isWhiteSpace = false := by
    have hapart : ∀ range ∈ whiteSpaceRanges, range.2 < 0x21 ∨ 0x85 ≤ range.1 := by decide
    rw [isWhiteSpace, inRanges, List.any_eq_false]
    intro range hrange
    have hbounds := hapart range hrange
    simp only [Bool.and_eq_true, decide_eq_true_eq]
    omega
  refine ⟨hwhite, ?_⟩
  simp only [isBlank, hwhite, Bool.false_or, Bool.and_eq_false_imp, decide_eq_true_eq,
    decide_eq_false_iff_not]
  omega

/-- The hexadecimal value of a decimal digit is its value. -/
theorem hex_digit_of_digit (h : c.digit? = some d) : c.hexDigit? = some d := by
  have hplace := val_of_digit h
  rw [hexDigit?, if_neg (by simp; omega), if_neg (by simp; omega), h]

/-- Decimal digits of the same value are alike, whatever their scripts. -/
theorem alike_of_digit (h : c.digit? = some d) (hother : other.digit? = some d) :
    Alike c other := by
  have hplace := val_of_digit h
  have hplace' := val_of_digit hother
  have hunderscore : Text.underscore.val = 0x5F := rfl
  constructor
  · rw [not_white_space_of_digit h, not_white_space_of_digit hother]
  · rw [hex_digit_of_digit h, hex_digit_of_digit hother]
  · rw [h, hother]
  · omega
  · rw [Fin.ext_iff, Fin.ext_iff, hunderscore]
    omega
  · omega
  · omega

/-- The digits of ASCII have their values as decimal digits, and as hexadecimal ones. -/
theorem digit_of_digit_char : ∀ d < 10, (ofChar (Nat.digitChar d)).digit? = some d ∧
    (ofChar (Nat.digitChar d)).asciiHexDigit? = some d := by
  decide

/-- The digit of ASCII in place of a decimal digit has its value. -/
theorem plain_digit_of_digit (h : c.digit? = some d) :
    c.plainDigit = ofChar (Nat.digitChar d) := by
  rw [plainDigit, h]

/-- Whatever is no decimal digit stays. -/
theorem plain_digit_of_none (h : c.digit? = none) : c.plainDigit = c := by
  rw [plainDigit, h]

/-- The digit of ASCII is alike to the digit in whose place it stands. -/
theorem alike_plain_digit (c : CodePoint) : Alike c.plainDigit c := by
  cases h : c.digit? with
  | none =>
      rw [plain_digit_of_none h]
      exact Alike.refl c
  | some d =>
      rw [plain_digit_of_digit h]
      exact alike_of_digit (digit_of_digit_char d (digit?_lt h)).1 h

/-- The value of a hexadecimal digit is that of the one of ASCII. -/
theorem ascii_hex_digit_plain_digit (c : CodePoint) :
    c.plainDigit.asciiHexDigit? = c.hexDigit? := by
  cases h : c.digit? with
  | some d =>
      rw [plain_digit_of_digit h, hex_digit_of_digit h]
      exact (digit_of_digit_char d (digit?_lt h)).2
  | none =>
      have hnot : c.asciiDigit? = none := by
        rw [asciiDigit?, if_neg]
        intro hdigit
        simp only [Bool.and_eq_true, decide_eq_true_eq] at hdigit
        have hsome : zeros.find? (fun start => start ≤ c.val && c.val < start + 10)
            = some 0x30 := by
          rw [zeros, List.find?_cons_of_pos]
          simp only [Bool.and_eq_true, decide_eq_true_eq]
          omega
        rw [digit?, hsome] at h
        cases h
      rw [plain_digit_of_none h, asciiHexDigit?, hexDigit?, hnot, h]

/-- The digits of ASCII are the code points with a value as such digits. -/
theorem mem_hex_units_of_ascii (h : c.asciiHexDigit? = some d) : c ∈ hexUnits := by
  have hunits : ∀ n < 0x67, ∀ hn : n < 0x110000,
      (asciiHexDigit? ⟨n, hn⟩).isSome = true → (⟨n, hn⟩ : CodePoint) ∈ hexUnits := by decide
  have hlt : c.val < 0x67 := by
    simp only [asciiHexDigit?, asciiDigit?, Bool.and_eq_true, decide_eq_true_eq] at h
    by_contra hge
    rw [if_neg (by omega), if_neg (by omega), if_neg (by omega)] at h
    cases h
  exact hunits c.val hlt c.isLt (by rw [h]; rfl)

/-- The digits of ASCII stay. -/
theorem plain_digit_plain_digit (c : CodePoint) : c.plainDigit.plainDigit = c.plainDigit := by
  cases h : c.digit? with
  | none => rw [plain_digit_of_none h, plain_digit_of_none h]
  | some d =>
      rw [plain_digit_of_digit h, plain_digit_of_digit (digit_of_digit_char d (digit?_lt h)).1]

/-- The only zero that stands in place of a digit is the one of ASCII. -/
theorem plain_digit_of_zero (h : c.plainDigit.digit? = some 0) : c.plainDigit = 0x30 := by
  have hzero := (alike_plain_digit c).zero.1 h
  rw [plain_digit_of_digit hzero]
  rfl

end CodePoint

namespace Text

open CodePoint

variable {t digits : Text} {values : List Nat} {f : CodePoint → CodePoint}

/-! ### Maps that change no number -/

/-- The map gives for every code point one that is alike to literals. -/
def KeepsLiterals (f : CodePoint → CodePoint) : Prop := ∀ c, Alike (f c) c

/-- The map to the digits of ASCII keeps literals. -/
theorem keeps_literals_plain_digit : KeepsLiterals plainDigit := alike_plain_digit

/-- A map that keeps the underscore apart and gives for a digit one of the same value, perhaps in
another reading, keeps the values of digits. -/
theorem digit_values_map {reading other : CodePoint → Option Nat}
    (hvalue : ∀ c, reading (f c) = other c) (hunderscore : ∀ c, f c = underscore ↔ c = underscore)
    (t : Text) : digitValues? reading (t.map f) = digitValues? other t := by
  fun_induction digitValues? other t with
  | case1 => rfl
  | case2 c => rw [List.map_singleton, digitValues?, hvalue]
  | case3 c d rest hskip hnext =>
      rw [List.map_cons] at hnext
      simp only [List.map_cons, digitValues?, hvalue, hunderscore, hskip, hnext]

/-- A map that keeps literals keeps marks. -/
theorem KeepsLiterals.skip_hex_mark_map (h : KeepsLiterals f) (t : Text) :
    skipHexMark (t.map f) = (skipHexMark t).map f := by
  rcases t with _ | ⟨first, _ | ⟨x, rest⟩⟩
  · rfl
  · rfl
  have hmark : (decide ((f first).digit? = some 0) && ((f x).val = 0x78 || (f x).val = 0x58))
      = (decide (first.digit? = some 0) && (x.val = 0x78 || x.val = 0x58)) := by
    rw [Bool.eq_iff_iff]
    simp only [Bool.and_eq_true, Bool.or_eq_true, decide_eq_true_eq, (h first).zero, (h x).cross]
  simp only [List.map_cons, skipHexMark, hmark]
  split
  · cases rest with
    | nil => rfl
    | cons c digits =>
        simp only [List.map_cons, (h c).underscore]
        split <;> rfl
  · rfl

/-- A map that keeps literals keeps the numbers of unsigned ones. -/
theorem KeepsLiterals.hex_nat_map (h : KeepsLiterals f) (t : Text) :
    hexNat? (t.map f) = hexNat? t := by
  rw [hexNat?, h.skip_hex_mark_map,
    digit_values_map (fun c => (h c).value) (fun c => (h c).underscore), hexNat?]

/-- A map that keeps literals keeps their numbers. -/
theorem KeepsLiterals.hex_int_map (h : KeepsLiterals f) (t : Text) :
    hexInt? (t.map f) = hexInt? t := by
  rw [hexInt?, trim_map fun c => (h c).blank, hexInt?]
  cases t.trim isWhiteSpace with
  | nil => rfl
  | cons c rest =>
      have hwhole := h.hex_nat_map (c :: rest)
      rw [List.map_cons] at hwhole ⊢
      simp only [(h c).plus, (h c).minus, h.hex_nat_map, hwhole]

/-! ### The grammar -/

/-- A run of hexadecimal digits of ASCII with at most one underscore between neighbours, and their
values. -/
inductive DigitRun : Text → List Nat → Prop
  | last {c : CodePoint} {value : Nat} (h : c.asciiHexDigit? = some value) : DigitRun [c] [value]
  | next {c : CodePoint} {value : Nat} {rest : Text} {values : List Nat}
      (h : c.asciiHexDigit? = some value) (hrest : DigitRun rest values) :
      DigitRun (c :: rest) (value :: values)
  | separated {c : CodePoint} {value : Nat} {rest : Text} {values : List Nat}
      (h : c.asciiHexDigit? = some value) (hrest : DigitRun rest values) :
      DigitRun (c :: underscore :: rest) (value :: values)

/-- What may stand in front of the mark of a literal. -/
def hexSigns : List Text := ["", "+"]

/-- What may stand in front of the digits of a literal. -/
def hexMarks : List Text := ["", "0x", "0X", "0x_", "0X_"]

/-- With digits of ASCII for those of other scripts the text has a sign, a mark and a run of digits
between white space, and the digits have the number as their value. -/
inductive HexLiteral : Text → Nat → Prop
  | intro {t ahead sign mark digits behind : Text} {values : List Nat}
      (hform : t.map plainDigit = ahead ++ (sign ++ (mark ++ digits)) ++ behind)
      (hahead : ∀ c ∈ ahead, c.isWhiteSpace = true) (hbehind : ∀ c ∈ behind, c.isWhiteSpace = true)
      (hsign : sign ∈ hexSigns) (hmark : mark ∈ hexMarks) (hdigits : DigitRun digits values) :
      HexLiteral t (valueOfDigits 16 values)

/-- A run starts with a digit. -/
theorem DigitRun.exists_cons (h : DigitRun digits values) :
    ∃ c rest value, digits = c :: rest ∧ c.asciiHexDigit? = some value := by
  cases h with
  | last h => exact ⟨_, _, _, rfl, h⟩
  | next h _ => exact ⟨_, _, _, rfl, h⟩
  | separated h _ => exact ⟨_, _, _, rfl, h⟩

/-- A run has a digit. -/
theorem DigitRun.ne_nil (h : DigitRun digits values) : digits ≠ [] := by
  obtain ⟨c, rest, _, rfl, _⟩ := h.exists_cons
  exact List.cons_ne_nil c rest

/-- The values that are read from a text are those of a run. -/
theorem digit_values_iff_run :
    digitValues? asciiHexDigit? t = some values ↔ DigitRun t values := by
  constructor
  · intro h
    fun_induction digitValues? asciiHexDigit? t generalizing values with
    | case1 => cases h
    | case2 c =>
        obtain ⟨value, hvalue, rfl⟩ := Option.map_eq_some_iff.1 h
        exact .last hvalue
    | case3 c d rest hskip hnext =>
        obtain ⟨value, hvalue, hrest⟩ := Option.bind_eq_some_iff.1 h
        split at hrest
        · rename_i hd
          obtain ⟨others, hothers, rfl⟩ := Option.map_eq_some_iff.1 hrest
          rw [hd]
          exact .separated hvalue (hskip hothers)
        · obtain ⟨others, hothers, rfl⟩ := Option.map_eq_some_iff.1 hrest
          exact .next hvalue (hnext hothers)
  · intro h
    induction h with
    | last h => rw [digitValues?, h, Option.map_some]
    | @next c value rest values h hrest ih =>
        obtain ⟨d, others, _, rfl, hd⟩ := hrest.exists_cons
        have hne : d ≠ underscore := by
          rintro rfl
          cases hd
        rw [digitValues?, h, Option.bind_some, if_neg hne, ih, Option.map_some]
    | separated h _ ih =>
        rw [digitValues?, h, Option.bind_some, if_pos rfl, ih, Option.map_some]

/-- The code points of runs of digits. -/
def runUnits : Text := underscore :: hexUnits

/-- No code point of a run is white space or a part of a sign or a mark. -/
theorem not_mark_of_run_unit : ∀ c ∈ runUnits,
    c.isWhiteSpace = false ∧ c.val ≠ 0x2B ∧ c.val ≠ 0x2D ∧ c.val ≠ 0x78 ∧ c.val ≠ 0x58 :=
  List.all_iff_forall_prop.1 (by decide)

/-- No code point of a mark is white space or a sign. -/
theorem not_sign_of_mark : ∀ c ∈ hexMarks.flatten,
    c.isWhiteSpace = false ∧ c.val ≠ 0x2B ∧ c.val ≠ 0x2D :=
  List.all_iff_forall_prop.1 (by decide)

/-- Runs consist of their code points. -/
theorem DigitRun.mem_units (h : DigitRun digits values) : ∀ c ∈ digits, c ∈ runUnits := by
  have hunit : ∀ {c : CodePoint} {value : Nat}, c.asciiHexDigit? = some value → c ∈ runUnits :=
    fun h => List.mem_cons_of_mem _ (mem_hex_units_of_ascii h)
  induction h with
  | last h => simpa using hunit h
  | next h _ ih => exact List.forall_mem_cons.2 ⟨hunit h, ih⟩
  | separated h _ ih =>
      exact List.forall_mem_cons.2 ⟨hunit h, List.forall_mem_cons.2 ⟨List.mem_cons_self, ih⟩⟩

/-! ### Reading literals -/

/-- What is skipped in front of digits is a mark. -/
theorem exists_mark_append (hplain : ∀ c ∈ t, c.plainDigit = c) :
    ∃ mark ∈ hexMarks, t = mark ++ skipHexMark t := by
  unfold skipHexMark
  split
  · rename_i first x rest
    split
    · rename_i hmark
      simp only [Bool.and_eq_true, Bool.or_eq_true, decide_eq_true_eq] at hmark
      obtain ⟨hzero, hcross⟩ := hmark
      have hfirst : first = 0x30 := by
        have hplace := hplain first List.mem_cons_self
        rw [← hplace] at hzero ⊢
        exact plain_digit_of_zero hzero
      have hmarks : [0x30, x] ∈ hexMarks ∧ [0x30, x, underscore] ∈ hexMarks := by
        rcases hcross with hx | hx
        · rw [show x = 0x78 from Fin.ext hx]
          decide
        · rw [show x = 0x58 from Fin.ext hx]
          decide
      rw [hfirst]
      cases rest with
      | nil => exact ⟨_, hmarks.1, rfl⟩
      | cons c digits =>
          by_cases hc : c = underscore
          · exact ⟨_, hmarks.2, by simp [hc]⟩
          · exact ⟨_, hmarks.1, by simp [hc]⟩
    · exact ⟨[], by decide, rfl⟩
  · exact ⟨[], by decide, rfl⟩

/-- A mark in front of a run of digits is skipped. -/
theorem skip_hex_mark_append {mark : Text} (hmark : mark ∈ hexMarks)
    (hdigits : DigitRun digits values) : skipHexMark (mark ++ digits) = digits := by
  obtain ⟨c, rest, value, rfl, hc⟩ := hdigits.exists_cons
  have hne : c ≠ underscore := by
    rintro rfl
    cases hc
  simp only [hexMarks, List.mem_cons, List.not_mem_nil, or_false] at hmark
  rcases hmark with rfl | rfl | rfl | rfl | rfl
  · refine skip_hex_mark_of_no_cross fun d hd => ?_
    obtain ⟨_, _, _, hsmall, hcapital⟩ := not_mark_of_run_unit d (hdigits.mem_units d hd)
    exact ⟨hsmall, hcapital⟩
  · exact if_neg hne
  · exact if_neg hne
  · rfl
  · rfl

/-- With the digits of ASCII an unsigned literal is a mark and a run of digits. -/
theorem hex_nat_iff_run (hplain : ∀ c ∈ t, c.plainDigit = c) {n : Nat} :
    hexNat? t = some n ↔ ∃ mark ∈ hexMarks, ∃ digits values,
      t = mark ++ digits ∧ DigitRun digits values ∧ n = valueOfDigits 16 values := by
  have hmap : t.map plainDigit = t := (List.map_congr_left hplain).trans (List.map_id t)
  have hvalues : digitValues? hexDigit? (skipHexMark t)
      = digitValues? asciiHexDigit? (skipHexMark t) := by
    have hskip := keeps_literals_plain_digit.skip_hex_mark_map t
    rw [hmap] at hskip
    rw [← digit_values_map ascii_hex_digit_plain_digit (fun c => (alike_plain_digit c).underscore),
      ← hskip]
  rw [hexNat?, hvalues, Option.map_eq_some_iff]
  simp only [digit_values_iff_run]
  constructor
  · rintro ⟨values, hrun, rfl⟩
    obtain ⟨mark, hmark, hform⟩ := exists_mark_append hplain
    exact ⟨mark, hmark, _, values, hform, hrun, rfl⟩
  · rintro ⟨mark, hmark, digits, values, rfl, hrun, rfl⟩
    refine ⟨values, ?_, rfl⟩
    rwa [skip_hex_mark_append hmark hrun]

/-- A text without white space around it and with a plus in front has the number of the rest. -/
theorem hex_int_of_plus {rest : Text} (h : t.trim CodePoint.isWhiteSpace = 0x2B :: rest) :
    t.hexInt? = (hexNat? rest).map Int.ofNat := by
  rw [hexInt?, h]
  rfl

/-- Without a sign in front all of a text without white space around it counts. -/
theorem hex_int_of_unsigned {c : CodePoint} {rest : Text}
    (h : t.trim CodePoint.isWhiteSpace = c :: rest) (hplus : c.val ≠ 0x2B) (hminus : c.val ≠ 0x2D) :
    t.hexInt? = (hexNat? (c :: rest)).map Int.ofNat := by
  rw [hexInt?, h]
  simp only [if_neg hplus, if_neg hminus]

/-- A literal is read as its number. -/
theorem HexLiteral.hex_int_eq {n : Nat} (h : HexLiteral t n) : t.hexInt? = some (Int.ofNat n) := by
  obtain ⟨hform, hahead, hbehind, hsign, hmark, hdigits⟩ := h
  rename_i ahead sign mark digits behind values
  have hplain : ∀ c ∈ mark ++ digits, c.plainDigit = c := by
    intro c hc
    have hmem : c ∈ t.map plainDigit := by
      rw [hform]
      exact List.mem_append_left _ (List.mem_append_right _ (List.mem_append_right _ hc))
    obtain ⟨d, _, rfl⟩ := List.mem_map.1 hmem
    exact plain_digit_plain_digit d
  have hnat : hexNat? (mark ++ digits) = some (valueOfDigits 16 values) :=
    (hex_nat_iff_run hplain).2 ⟨mark, hmark, digits, values, rfl, hdigits, rfl⟩
  have hunsigned : ∀ c ∈ mark ++ digits,
      c.isWhiteSpace = false ∧ c.val ≠ 0x2B ∧ c.val ≠ 0x2D := by
    refine List.forall_mem_append.2
      ⟨fun c hc => not_sign_of_mark c (List.mem_flatten_of_mem hmark hc), fun c hc => ?_⟩
    obtain ⟨hblank, hplus, hminus, _⟩ := not_mark_of_run_unit c (hdigits.mem_units c hc)
    exact ⟨hblank, hplus, hminus⟩
  have htrim : trim CodePoint.isWhiteSpace (t.map plainDigit) = sign ++ (mark ++ digits) := by
    have hsigns : ∀ c ∈ hexSigns.flatten, c.isWhiteSpace = false :=
      List.all_iff_forall_prop.1 (by decide)
    rw [hform]
    refine trim_append hahead (List.forall_mem_append.2 ⟨fun c hc => ?_, fun c hc => ?_⟩) hbehind
    · exact hsigns c (List.mem_flatten_of_mem hsign hc)
    · exact (hunsigned c hc).1
  rw [← keeps_literals_plain_digit.hex_int_map]
  simp only [hexSigns, List.mem_cons, List.not_mem_nil, or_false] at hsign
  rcases hsign with rfl | rfl
  · obtain ⟨c, rest, hcons⟩ := List.exists_cons_of_ne_nil
      (List.append_ne_nil_of_right_ne_nil mark hdigits.ne_nil)
    obtain ⟨_, hplus, hminus⟩ := hunsigned c (by rw [hcons]; exact List.mem_cons_self)
    rw [hcons] at hnat htrim
    rw [hex_int_of_unsigned htrim hplus hminus, hnat, Option.map_some]
  · have hplus : trim CodePoint.isWhiteSpace (t.map plainDigit) = 0x2B :: (mark ++ digits) := htrim
    rw [hex_int_of_plus hplus, hnat, Option.map_some]

/-- A text without a minus is read as a number exactly if it is a literal of that number. -/
theorem hex_int_iff_literal (hminus : ∀ c ∈ t, c.val ≠ 0x2D) {i : Int} :
    t.hexInt? = some i ↔ ∃ n : Nat, i = n ∧ HexLiteral t n := by
  constructor
  · intro h
    rw [← keeps_literals_plain_digit.hex_int_map] at h
    obtain ⟨ahead, behind, hform, hahead, hbehind⟩ :=
      exists_append_trim CodePoint.isWhiteSpace (t.map plainDigit)
    have hmem : ∀ c ∈ trim CodePoint.isWhiteSpace (t.map plainDigit),
        c.plainDigit = c ∧ c.val ≠ 0x2D := by
      intro c hc
      have hwhole : c ∈ t.map plainDigit := by
        rw [hform]
        exact List.mem_append_left _ (List.mem_append_right _ hc)
      obtain ⟨d, hd, rfl⟩ := List.mem_map.1 hwhole
      exact ⟨plain_digit_plain_digit d, hminus d hd ∘ (alike_plain_digit d).minus.1⟩
    -- what a sign and a number make up is a literal
    have hliteral : ∀ sign ∈ hexSigns, ∀ body, (∀ c ∈ body, c.plainDigit = c) →
        (hexNat? body).map Int.ofNat = some i →
        trim CodePoint.isWhiteSpace (t.map plainDigit) = sign ++ body →
        ∃ n : Nat, i = n ∧ HexLiteral t n := by
      intro sign hsign body hplain hnumber htrim
      obtain ⟨n, hnat, rfl⟩ := Option.map_eq_some_iff.1 hnumber
      obtain ⟨mark, hmark, digits, values, rfl, hrun, rfl⟩ := (hex_nat_iff_run hplain).1 hnat
      rw [htrim] at hform
      exact ⟨_, rfl, .intro hform hahead hbehind hsign hmark hrun⟩
    cases hbody : trim CodePoint.isWhiteSpace (t.map plainDigit) with
    | nil =>
        rw [hexInt?, hbody] at h
        cases h
    | cons c rest =>
        rw [hbody] at hmem
        obtain ⟨⟨_, hsign⟩, hrest⟩ := List.forall_mem_cons.1 hmem
        by_cases hplus : c.val = 0x2B
        · obtain rfl : c = 0x2B := Fin.ext hplus
          rw [hex_int_of_plus hbody] at h
          exact hliteral "+" (by decide) rest (fun c hc => (hrest c hc).1) h hbody
        · rw [hex_int_of_unsigned hbody hplus hsign] at h
          exact hliteral "" (by decide) (c :: rest) (fun c hc => (hmem c hc).1) h hbody
  · rintro ⟨n, rfl, h⟩
    exact h.hex_int_eq

/-! ### What literals consist of -/

/-- The code points of signs, marks and runs. -/
def literalUnits : Text := "+xX" ++ runUnits

/-- A literal consists of white space, decimal digits of any script, and the code points of signs,
marks and runs. -/
theorem HexLiteral.mem_units {n : Nat} (h : HexLiteral t n) :
    ∀ c ∈ t, c.isWhiteSpace = true ∨ c.digit?.isSome = true ∨ c ∈ literalUnits := by
  obtain ⟨hform, hahead, hbehind, hsign, hmark, hdigits⟩ := h
  rename_i ahead sign mark digits behind values
  have hfront : ∀ c ∈ hexSigns.flatten ++ hexMarks.flatten, c ∈ literalUnits :=
    List.all_iff_forall_prop.1 (by decide)
  intro c hc
  cases hdigit : c.digit? with
  | some d => exact .inr (.inl rfl)
  | none =>
      have hmem : c ∈ t.map plainDigit := by
        rw [← plain_digit_of_none hdigit]
        exact List.mem_map_of_mem hc
      rw [hform] at hmem
      simp only [List.mem_append] at hmem
      rcases hmem with (h | h | h | h) | h
      · exact .inl (hahead c h)
      · exact .inr (.inr (hfront c (List.mem_append_left _ (List.mem_flatten_of_mem hsign h))))
      · exact .inr (.inr (hfront c (List.mem_append_right _ (List.mem_flatten_of_mem hmark h))))
      · exact .inr (.inr (List.mem_append_right _ (hdigits.mem_units c h)))
      · exact .inl (hbehind c h)

/-- No literal has a minus. -/
theorem HexLiteral.no_minus {n : Nat} (h : HexLiteral t n) : ∀ c ∈ t, c.val ≠ 0x2D := by
  intro c hc hminus
  obtain rfl : c = 0x2D := Fin.ext hminus
  have hnot : (0x2D : CodePoint).isWhiteSpace = false ∧ (0x2D : CodePoint).digit?.isSome = false ∧
      0x2D ∉ literalUnits := by decide
  simpa [hnot] using h.mem_units 0x2D hc

/-- The literals of a number are the texts without a minus that are read as this number. -/
theorem hex_literal_iff {n : Nat} :
    HexLiteral t n ↔ (∀ c ∈ t, c.val ≠ 0x2D) ∧ t.hexInt? = some (Int.ofNat n) := by
  constructor
  · exact fun h => ⟨h.no_minus, h.hex_int_eq⟩
  · rintro ⟨hminus, hnumber⟩
    obtain ⟨m, hm, h⟩ := (hex_int_iff_literal hminus).1 hnumber
    obtain rfl : n = m := Int.ofNat.inj hm
    exact h

/-- A map that keeps literals keeps them as literals of the same numbers, and makes no others. -/
theorem KeepsLiterals.hex_literal_map_iff (h : KeepsLiterals f) {n : Nat} :
    HexLiteral (t.map f) n ↔ HexLiteral t n := by
  have hminus : (∀ c ∈ t.map f, c.val ≠ 0x2D) ↔ ∀ c ∈ t, c.val ≠ 0x2D := by
    simp only [List.forall_mem_map, Ne, (h _).minus]
  rw [hex_literal_iff, hex_literal_iff, hminus, h.hex_int_map]

end Text

end EmojiText
