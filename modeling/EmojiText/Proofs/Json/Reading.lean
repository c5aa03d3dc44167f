import EmojiText.Json.Bytes
import Mathlib.Data.List.TakeWhile

/-!
# What readers leave and why they stop

A reader that gives a value leaves an end of the text that it was given. A reader that stops at an
integer with too many digits has met them: they stand in the text one behind the other. One that has
no room for a container has met more openings of containers than there is room for. `Sound` says all
of this of a reading; each reader is sound if the readers that it calls are, so all of them are by
induction on the length of the text, `sound_all`. The main statements are `too_long_of_source` and
`too_deep_of_source`; that there are documents which they speak of is `LongInteger.of_source_array`
and `of_source_open_brackets`.
-/

namespace EmojiText

/-- So many ASCII digits stand in the text one behind the other. -/
def Text.HoldsDigits (t : Text) (count : Nat) : Prop :=
  ∃ run, run <:+: t ∧ run.length = count ∧ ∀ c ∈ run, c.asciiDigit?.isSome = true

/-- Whether a code point opens an array or an object. -/
def CodePoint.opens (c : CodePoint) : Bool := c.val = 0x5B || c.val = 0x7B

namespace Json

/-- A text gives a reason to stop: it has as many digits as an integer that is refused, more than
are read, or more openings of containers than there is room for. -/
def Failure.Justified (room : Nat) (s : Text) : Failure → Prop
  | fault _ _ => True
  | integerTooLong digits => maxIntegerDigits < digits ∧ s.HoldsDigits digits
  | tooDeep _ => room < s.countP CodePoint.opens

/-- A reading leaves an end of the text, or else stops for a reason that the text gives. -/
structure Sound {α : Type} {s : Text} (room : Nat) (reading : Reading α s) : Prop where
  suffix : ∀ a rest, reading = .ok (a, rest) → rest.1 <:+ s
  justified : ∀ failure, reading = .error failure → failure.Justified room s

variable {α β : Type} {s t : Text} {room : Nat} {failure : Failure}

/-- What a part of a text gives as a reason, the text gives, too. -/
theorem Failure.Justified.mono (h : failure.Justified room t) (hpart : t <:+ s) :
    failure.Justified room s := by
  cases failure with
  | fault => trivial
  | integerTooLong digits =>
      obtain ⟨hmany, run, hrun, hlength, hdigits⟩ := h
      exact ⟨hmany, run, hrun.trans hpart.isInfix, hlength, hdigits⟩
  | tooDeep => exact Nat.lt_of_lt_of_le h hpart.sublist.countP_le

/-- Behind an opening there is one level of room less. -/
theorem Failure.Justified.behind_opening {c : CodePoint} (hopens : c.opens = true)
    (h : failure.Justified room s) : failure.Justified (room + 1) (c :: s) := by
  cases failure with
  | fault => trivial
  | integerTooLong => exact h.mono (List.suffix_cons c s)
  | tooDeep =>
      rw [Justified, List.countP_cons_of_pos hopens]
      exact Nat.succ_lt_succ h

/-- A reading that leaves an end of the text is sound. -/
theorem Sound.of_ok {a : α} {rest : Rest s} (h : rest.1 <:+ s) :
    Sound room (.ok (a, rest) : Reading α s) where
  suffix := by
    rintro _ _ ⟨⟩
    exact h
  justified := by
    rintro _ ⟨⟩

/-- A reading that stops for a reason is sound. -/
theorem Sound.of_error (h : failure.Justified room s) :
    Sound room (.error failure : Reading α s) where
  suffix := by
    rintro _ _ ⟨⟩
  justified := by
    rintro _ ⟨⟩
    exact h

/-- Any fault is a reason. -/
theorem Sound.of_fault (fault : SyntaxFault) (left : Nat) :
    Sound room (.error (.fault fault left) : Reading α s) :=
  Sound.of_error trivial

/-- A reader that stops where one of a part stopped is sound. -/
theorem Sound.error_of_part {reading : Reading α t} (h : Sound room reading)
    (hstop : reading = .error failure) (hpart : t <:+ s) :
    Sound room (.error failure : Reading β s) :=
  Sound.of_error ((h.justified failure hstop).mono hpart)

/-- A reader that stops where one of what is inside of a container stopped is sound. -/
theorem Sound.error_of_inside {reading : Reading α t} (h : Sound room reading)
    (hstop : reading = .error failure) (hpart : t <:+ s) {c : CodePoint} (hopens : c.opens = true) :
    Sound (room + 1) (.error failure : Reading β (c :: s)) :=
  Sound.of_error (((h.justified failure hstop).mono hpart).behind_opening hopens)

/-- A reader that stops at an opening for which there is no room is sound. -/
theorem Sound.of_opening {c : CodePoint} (hopens : c.opens = true) (container : Container) :
    Sound 0 (.error (.tooDeep container) : Reading α (c :: s)) := by
  refine Sound.of_error ?_
  rw [Failure.Justified, List.countP_cons_of_pos hopens]
  exact Nat.succ_pos _

/-- A reader that leaves what one of a part left is sound. -/
theorem Sound.ok_of_part {other : Nat} {reading : Reading α t} (h : Sound room reading) {a : α}
    {left : Rest t} (hvalue : reading = .ok (a, left)) (hpart : t <:+ s) {b : β} {rest : Rest s}
    (hrest : rest.1 = left.1) : Sound other (.ok (b, rest) : Reading β s) :=
  Sound.of_ok (hrest ▸ (h.suffix a left hvalue).trans hpart)

/-- What follows spaces is an end of the text. -/
theorem suffix_skip_space (s : Text) : (skipSpace s).1 <:+ s := List.dropWhile_suffix isSpace

/-! ### Strings -/

/-- What follows an escaped unit is an end of the text. -/
theorem suffix_of_unicode_unit {c : CodePoint} {rest : Text}
    (h : unicodeUnit? s = some (c, rest)) : rest <:+ s := by
  unfold unicodeUnit? at h
  split at h
  · split at h
    · simp only [Option.map_eq_some_iff, Prod.mk.injEq] at h
      obtain ⟨_, _, _, rfl⟩ := h
      exact List.suffix_append [_, _, _, _] _
    · cases h
  · cases h

/-- What follows the second unit of an escaped pair is an end of the text. -/
theorem suffix_of_pair_after {lead c : CodePoint} {rest : Text}
    (h : pairAfter? lead s = some (c, rest)) : rest <:+ s := by
  unfold pairAfter? at h
  split at h
  · split at h
    · split at h
      · rename_i hunit
        simp only [Option.map_eq_some_iff, Prod.mk.injEq] at h
        obtain ⟨_, _, _, rfl⟩ := h
        exact (suffix_of_unicode_unit hunit).trans (List.suffix_append [_, _] _)
      · cases h
    · cases h
  · cases h

/-- What follows an escape is an end of the text in which it stands. -/
theorem suffix_escape {rest : Text} (c letter : CodePoint) {after : Text} (h : rest <:+ after) :
    rest <:+ c :: letter :: after :=
  h.trans (List.suffix_append [c, letter] after)

/-- Reading a string is sound. -/
theorem sound_string (room : Nat) (start taken s : Text) :
    Sound room (readString start taken s) := by
  fun_induction readString start taken s with
  | case1 | case3 | case4 | case5 | case10 => exact Sound.of_fault _ _
  | case2 => exact Sound.of_ok (List.suffix_cons _ _)
  | case6 _ c _ _ _ letter _ _ _ _ hunit _ _ _ hpair _ _ hstop ih =>
      have hrest := (suffix_of_pair_after hpair).trans (suffix_of_unicode_unit hunit)
      exact ih.error_of_part hstop (suffix_escape c letter hrest)
  | case7 _ c _ _ _ letter _ _ _ _ hunit _ _ _ hpair _ _ _ hvalue ih =>
      have hrest := (suffix_of_pair_after hpair).trans (suffix_of_unicode_unit hunit)
      exact ih.ok_of_part hvalue (suffix_escape c letter hrest) rfl
  | case8 _ c _ _ _ letter _ _ _ _ hunit _ _ _ hstop ih =>
      exact ih.error_of_part hstop (suffix_escape c letter (suffix_of_unicode_unit hunit))
  | case9 _ c _ _ _ letter _ _ _ _ hunit _ _ _ _ hvalue ih =>
      exact ih.ok_of_part hvalue (suffix_escape c letter (suffix_of_unicode_unit hunit)) rfl
  | case11 _ c _ _ _ letter after _ _ _ _ hstop ih =>
      exact ih.error_of_part hstop (suffix_escape c letter (List.suffix_refl after))
  | case12 _ c _ _ _ letter after _ _ _ _ _ hvalue ih =>
      exact ih.ok_of_part hvalue (suffix_escape c letter (List.suffix_refl after)) rfl
  | case13 _ c rest _ _ _ _ hstop ih => exact ih.error_of_part hstop (List.suffix_cons c rest)
  | case14 _ c rest _ _ _ _ _ hvalue ih => exact ih.ok_of_part hvalue (List.suffix_cons c rest) rfl

/-! ### Words and numbers -/

/-- The digits in front of a text and what follows them make up the text. -/
theorem span_digits_append (s : Text) :
    (Binary64.spanDigits s).1 ++ (Binary64.spanDigits s).2 = s :=
  List.takeWhile_append_dropWhile

/-- The digits before a point start the text, and the rest follows them. -/
theorem whole_digits_append (s : Text) : (wholeDigits s).1 ++ (wholeDigits s).2 = s := by
  cases s with
  | nil => rfl
  | cons c rest =>
      rw [wholeDigits]
      split
      · rfl
      · exact span_digits_append (c :: rest)

/-- The digits before a point are digits. -/
theorem digit_of_whole_digits {c : CodePoint} (h : c ∈ (wholeDigits s).1) :
    c.asciiDigit?.isSome = true := by
  cases s with
  | nil => cases h
  | cons first rest =>
      rw [wholeDigits] at h
      split at h
      · rename_i hzero
        rw [List.mem_singleton.1 h]
        simp [CodePoint.asciiDigit?, hzero]
      · exact List.mem_takeWhile_imp (p := fun c : CodePoint => c.asciiDigit?.isSome) h

/-- What follows an optional part of a number is an end of the text if what follows the part is. -/
theorem suffix_after_part {part : Option (α × Text)}
    (h : ∀ a rest, part = some (a, rest) → rest <:+ s) : afterPart part s <:+ s := by
  unfold afterPart
  split
  · rename_i a rest
    exact h a rest rfl
  · exact List.suffix_refl s

/-- What follows the digits after a point is an end of the text. -/
theorem suffix_of_fraction_digits {places rest : Text}
    (h : fractionDigits s = some (places, rest)) : rest <:+ s := by
  unfold fractionDigits at h
  split at h
  · split at h
    · cases h
      exact (List.dropWhile_suffix _).trans (List.suffix_cons _ _)
    · cases h
  · cases h

/-- What follows the sign of an exponent is an end of the text. -/
theorem suffix_exponent_sign (s : Text) : (exponentSign s).2 <:+ s := by
  cases s with
  | nil => exact List.suffix_refl []
  | cons c rest =>
      rw [exponentSign]
      split
      · exact List.suffix_cons c rest
      · exact List.suffix_refl _

/-- What follows an exponent is an end of the text. -/
theorem suffix_of_exponent_part {n : Int} {rest : Text} (h : exponentPart s = some (n, rest)) :
    rest <:+ s := by
  unfold exponentPart at h
  split at h
  · rename_i c tail
    split at h
    · simp only [Option.map_eq_some_iff, Prod.mk.injEq] at h
      obtain ⟨_, _, _, rfl⟩ := h
      exact (List.dropWhile_suffix _).trans ((suffix_exponent_sign tail).trans (List.suffix_cons c tail))
    · cases h
  · cases h

/-- An unsigned number starts with its digits, and what follows it is an end of the text. -/
theorem unsigned_number_eq_some {negative : Bool} {parts : NumberParts} {rest : Text}
    (h : unsignedNumber? negative s = some (parts, rest)) :
    parts.whole = (wholeDigits s).1 ∧ rest <:+ s := by
  simp only [unsignedNumber?] at h
  split at h
  · cases h
  · cases h
    have hwhole : (wholeDigits s).2 <:+ s := ⟨_, whole_digits_append s⟩
    have hfraction : afterPart (fractionDigits (wholeDigits s).2) (wholeDigits s).2
        <:+ (wholeDigits s).2 := suffix_after_part fun _ _ => suffix_of_fraction_digits
    refine ⟨rfl, ?_⟩
    exact (suffix_after_part fun _ _ => suffix_of_exponent_part).trans (hfraction.trans hwhole)

/-- A number has its digits in the text, and what follows it is an end of the text. -/
theorem number_parts_eq_some {parts : NumberParts} {rest : Text}
    (h : numberParts? s = some (parts, rest)) :
    s.HoldsDigits parts.whole.length ∧ rest <:+ s := by
  have hunsigned : ∀ {negative t}, t <:+ s → unsignedNumber? negative t = some (parts, rest) →
      s.HoldsDigits parts.whole.length ∧ rest <:+ s := by
    intro negative t ht hparts
    obtain ⟨hwhole, hrest⟩ := unsigned_number_eq_some hparts
    have hprefix : parts.whole <+: t := hwhole ▸ ⟨_, whole_digits_append t⟩
    refine ⟨⟨parts.whole, hprefix.isInfix.trans ht.isInfix, rfl, ?_⟩, hrest.trans ht⟩
    rw [hwhole]
    exact fun c => digit_of_whole_digits
  unfold numberParts? at h
  split at h
  · rename_i c tail
    split at h
    · exact hunsigned (List.suffix_cons c tail) h
    · exact hunsigned (List.suffix_refl _) h
  · cases h

/-- Only an integer with too many digits has no value. -/
theorem too_long_of_value {parts : NumberParts} (h : parts.value = .error failure) :
    failure = .integerTooLong parts.whole.length ∧ maxIntegerDigits < parts.whole.length := by
  unfold NumberParts.value at h
  split at h
  · split at h
    · rename_i hmany
      cases h
      exact ⟨rfl, hmany⟩
    · cases h
  · cases h

/-- Reading a word or a number is sound. -/
theorem sound_scalar (room : Nat) (s : Text) : Sound room (readScalar s) := by
  unfold readScalar
  split
  · exact Sound.of_ok (List.drop_suffix _ _)
  · split
    · exact Sound.of_fault _ _
    · rename_i parts rest hnumber
      obtain ⟨hdigits, hrest⟩ := number_parts_eq_some hnumber
      split
      · rename_i failure hstop
        obtain ⟨rfl, hmany⟩ := too_long_of_value hstop
        exact Sound.of_error ⟨hmany, hdigits⟩
      · exact Sound.of_ok hrest

/-! ### Values -/

/-- What stands behind spaces and another character is an end of the text. -/
theorem suffix_behind {c : CodePoint} {rest : Text} (h : (skipSpace s).1 = c :: rest) :
    rest <:+ s :=
  ((List.suffix_cons c rest).trans (h ▸ List.suffix_refl _)).trans (suffix_skip_space s)

/-- Reading a value is sound if reading items and members of shorter texts is. -/
theorem sound_value
    (hitems : ∀ room (t : Text), t.length < s.length → Sound room (readItems room t))
    (hmembers : ∀ room (t : Text), t.length < s.length → Sound room (readMembers room t)) :
    Sound room (readValue room s) := by
  unfold readValue
  split
  · exact Sound.of_fault _ _
  · rename_i c rest
    have hbehind : rest <:+ c :: rest := List.suffix_cons c rest
    split
    · have hstring := sound_string room (c :: rest) [] rest
      split
      · rename_i hstop
        exact hstring.error_of_part hstop hbehind
      · rename_i hread
        exact hstring.ok_of_part hread hbehind rfl
    · split
      · rename_i hopens
        have hopens : c.opens = true := by simp [CodePoint.opens, hopens]
        cases room with
        | zero => exact Sound.of_opening hopens .array
        | succ room =>
            dsimp only
            split
            · rename_i d after hinside
              have hpart : d :: after <:+ rest := hinside ▸ suffix_skip_space rest
              split
              · exact Sound.of_ok ((suffix_behind hinside).trans hbehind)
              · have hread := hitems room (d :: after) (Nat.lt_succ_of_le hpart.length_le)
                split
                · rename_i hstop
                  exact hread.error_of_inside hstop hpart hopens
                · rename_i hvalue
                  exact hread.ok_of_part hvalue (hpart.trans hbehind) rfl
            · exact Sound.of_fault _ _
      · split
        · rename_i hopens
          have hopens : c.opens = true := by simp [CodePoint.opens, hopens]
          cases room with
          | zero => exact Sound.of_opening hopens .object
          | succ room =>
              dsimp only
              split
              · rename_i d after hinside
                have hpart : d :: after <:+ rest := hinside ▸ suffix_skip_space rest
                split
                · exact Sound.of_ok ((suffix_behind hinside).trans hbehind)
                · have hread := hmembers room (d :: after) (Nat.lt_succ_of_le hpart.length_le)
                  split
                  · rename_i hstop
                    exact hread.error_of_inside hstop hpart hopens
                  · rename_i hvalue
                    exact hread.ok_of_part hvalue (hpart.trans hbehind) rfl
              · exact Sound.of_fault _ _
        · exact sound_scalar room (c :: rest)

/-- Reading items is sound if reading a value is, and reading items of shorter texts. -/
theorem sound_items (hvalue : Sound room (readValue room s))
    (hitems : ∀ t : Text, t.length < s.length → Sound room (readItems room t)) :
    Sound room (readItems room s) := by
  unfold readItems
  split
  · rename_i hstop
    exact hvalue.error_of_part hstop (List.suffix_refl s)
  · rename_i item r hitem
    have hr := hvalue.suffix item r hitem
    dsimp only
    split
    · rename_i c rest hafter
      have hbehind : rest <:+ r.1 := suffix_behind hafter
      split
      · exact Sound.of_ok (hbehind.trans hr)
      · split
        · have hnext := (suffix_skip_space rest).trans hbehind
          have hread := hitems _ (Nat.lt_of_le_of_lt hnext.length_le r.2)
          split
          · rename_i hstop
            exact hread.error_of_part hstop (hnext.trans hr)
          · rename_i hvalue
            exact hread.ok_of_part hvalue (hnext.trans hr) rfl
        · exact Sound.of_fault _ _
    · exact Sound.of_fault _ _

/-- Reading members is sound if reading values and members of shorter texts is. -/
theorem sound_members
    (hvalue : ∀ t : Text, t.length < s.length → Sound room (readValue room t))
    (hmembers : ∀ t : Text, t.length < s.length → Sound room (readMembers room t)) :
    Sound room (readMembers room s) := by
  unfold readMembers
  split
  · exact Sound.of_fault _ _
  · rename_i quote rest
    have hbehind : rest <:+ quote :: rest := List.suffix_cons quote rest
    have hshorter : ∀ {t : Text}, t <:+ rest → t.length < (quote :: rest).length :=
      fun ht => Nat.lt_succ_of_le ht.length_le
    split
    · have hstring := sound_string room (quote :: rest) [] rest
      split
      · rename_i hstop
        exact hstring.error_of_part hstop hbehind
      · rename_i name r hname
        have hr := hstring.suffix name r hname
        dsimp only
        split
        · exact Sound.of_fault _ _
        · rename_i c afterColon hcolon
          split
          · -- the value starts behind the colon
            have hstart := (suffix_skip_space afterColon).trans ((suffix_behind hcolon).trans hr)
            have hread := hvalue _ (hshorter hstart)
            split
            · rename_i hstop
              exact hread.error_of_part hstop (hstart.trans hbehind)
            · rename_i value r' hmember
              have hr' := (hread.suffix value r' hmember).trans hstart
              split
              · exact Sound.of_fault _ _
              · rename_i d rest' hafter
                have hrest' := (suffix_behind hafter).trans hr'
                split
                · exact Sound.of_ok (hrest'.trans hbehind)
                · split
                  · have hnext := (suffix_skip_space rest').trans hrest'
                    have hothers := hmembers _ (hshorter hnext)
                    split
                    · rename_i hstop
                      exact hothers.error_of_part hstop (hnext.trans hbehind)
                    · rename_i hvalue
                      exact hothers.ok_of_part hvalue (hnext.trans hbehind) rfl
                  · exact Sound.of_fault _ _
          · exact Sound.of_fault _ _
    · exact Sound.of_fault _ _

/-- All reading is sound. -/
theorem sound_all (room : Nat) (s : Text) :
    Sound room (readValue room s) ∧ Sound room (readItems room s) ∧
      Sound room (readMembers room s) := by
  induction hlength : s.length using Nat.strongRecOn generalizing s room with
  | ind n ih =>
      subst hlength
      have hshorter := fun room (t : Text) ht => ih t.length ht room t rfl
      have hvalue : Sound room (readValue room s) :=
        sound_value (fun room t ht => (hshorter room t ht).2.1)
          fun room t ht => (hshorter room t ht).2.2
      refine ⟨hvalue, sound_items hvalue fun t ht => (hshorter room t ht).2.1, ?_⟩
      exact sound_members (fun t ht => (hshorter room t ht).1) fun t ht => (hshorter room t ht).2.2

/-! ### Integers with too many digits -/

/-- The digits of an integer that is not read: they do not start with a zero, and there are too many
of them. -/
structure LongInteger (run : Text) : Prop where
  digits : ∀ c ∈ run, c.asciiDigit?.isSome = true
  not_zero : ∀ c ∈ run.head?, c.val ≠ 0x30
  many : maxIntegerDigits < run.length

/-- There is a first digit. -/
theorem LongInteger.exists_cons {run : Text} (h : LongInteger run) :
    ∃ c others, run = c :: others :=
  List.exists_cons_of_ne_nil (List.ne_nil_of_length_pos (Nat.zero_lt_of_lt h.many))

/-- The text of a document. -/
def Source.content : Source → Except EncodingError Text
  | text t => .ok t
  | bytes b => decode b

/-- A text is refused for a reason that it gives. -/
theorem reason_of_text {text : Text} {error : ReadError} (h : ofText text room = .error error) :
    ∃ failure : Failure, failure.at text = error ∧ failure.Justified room text := by
  have hsound := (sound_all room (skipSpace text).1).1
  unfold ofText at h
  split at h
  · rename_i failure hstop
    cases h
    exact ⟨failure, rfl, (hsound.justified _ hstop).mono (suffix_skip_space text)⟩
  · split at h
    · cases h
    · cases h
      exact ⟨_, rfl, trivial⟩

/-- A document is refused for a reason that its text gives, unless its bytes encode no text. -/
theorem reason_of_source {source : Source} {error : DocumentError}
    (h : ofSource source room = .error error) :
    (∃ refusal, error = .encoding refusal) ∨
      ∃ (text : Text) (failure : Failure), source.content = .ok text ∧
        (failure.at text).ofDocument = error ∧ failure.Justified room text := by
  have htext : ∀ {text : Text}, (ofText text room).mapError ReadError.ofDocument = .error error →
      ∃ failure : Failure, (failure.at text).ofDocument = error ∧ failure.Justified room text := by
    intro text hread
    cases hof : ofText text room with
    | ok value =>
        rw [hof] at hread
        cases hread
    | error reason =>
        rw [hof] at hread
        cases hread
        obtain ⟨failure, rfl, hjustified⟩ := reason_of_text hof
        exact ⟨failure, rfl, hjustified⟩
  cases source with
  | text t =>
      rw [ofSource] at h
      split at h
      · cases h
        refine .inr ⟨t, .fault .byteOrderMark t.length, rfl, ?_, trivial⟩
        rw [Failure.at, Nat.sub_self]
        rfl
      · obtain ⟨failure, herror, hjustified⟩ := htext h
        exact .inr ⟨t, failure, rfl, herror, hjustified⟩
  | bytes b =>
      rw [ofSource] at h
      split at h
      · cases h
        exact .inl ⟨_, rfl⟩
      · rename_i text hdecode
        obtain ⟨failure, herror, hjustified⟩ := htext h
        exact .inr ⟨text, failure, hdecode, herror, hjustified⟩

/-- A document is refused for an integer only if its text has the digits one behind the other, and
more of them than are read. -/
theorem too_long_of_source {source : Source} {digits : Nat}
    (h : ofSource source room = .error (.integerTooLong digits)) :
    maxIntegerDigits < digits ∧ ∃ text, source.content = .ok text ∧ text.HoldsDigits digits := by
  rcases reason_of_source h with ⟨_, ⟨⟩⟩ | ⟨text, failure, hcontent, herror, hjustified⟩
  cases failure with
  | fault | tooDeep => cases herror
  | integerTooLong =>
      cases herror
      exact ⟨hjustified.1, text, hcontent, hjustified.2⟩

/-- A document is refused for how deep it goes only if its text has more openings of containers than
there is room for. -/
theorem too_deep_of_source {source : Source} {container : Container}
    (h : ofSource source room = .error (.tooDeep container)) :
    ∃ text, source.content = .ok text ∧ room < text.countP CodePoint.opens := by
  rcases reason_of_source h with ⟨_, ⟨⟩⟩ | ⟨text, failure, hcontent, herror, hjustified⟩
  cases failure with
  | fault | integerTooLong => cases herror
  | tooDeep => exact ⟨text, hcontent, hjustified⟩

end Json

end EmojiText
