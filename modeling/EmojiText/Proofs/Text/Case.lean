import EmojiText.Text.Lowercase
import EmojiText.Text.Uppercase
import Mathlib.Data.List.Basic

/-!
# Case forms of case forms

Taking the lower-case form of a text twice gives what taking it once gives, also where a capital
sigma is involved, and the same goes for upper case. It comes down to the tables of letters, which
move nothing to where they would move it again: `CaseMap.isStable` compares the ranges of a table
with one another, so no letter has to be looked at on its own, and `CaseMap.isStableByHalves` compares
most of them by what lies between the bounds of many. The main statements are `lowercase_lowercase`
and `uppercase_uppercase`.
-/

namespace EmojiText

namespace CaseRange

/-- The numbers to which a range moves its own. -/
def image (range : CaseRange) : CaseRange where
  first := (range.first + range.shift).toNat
  last := (range.last + range.shift).toNat
  stride := range.stride
  shift := 0

/-- The range moves no number out of the code space. -/
def staysInside (range : CaseRange) : Bool :=
  0 ≤ range.first + range.shift && range.last + range.shift < 0x110000

/-- No number lies in both ranges, which their bounds show, or else their parities if both have
numbers of one parity only. -/
def apart (range other : CaseRange) : Bool :=
  Nat.blt range.last other.first || Nat.blt other.last range.first
    || (other.stride == 2 && (range.stride == 2 || range.first == range.last)
      && (range.first + other.first) % 2 == 1)

/-- The least range without gaps that covers others. -/
def hull : List CaseRange → CaseRange
  | [] => ⟨0x110000, 0, 1, 0⟩
  | range :: others =>
    ⟨min range.first (hull others).first, max range.last (hull others).last, 1, 0⟩

/-- No number lies in the range and in one of the others, which are looked at only where the hull of
their half of them shows nothing. They are halved so many times. -/
def apartFromAll (range : CaseRange) : Nat → List CaseRange → Bool
  | 0, others => others.all range.apart
  | depth + 1, others =>
    range.apart (hull others) ||
      (range.apartFromAll depth (others.take (others.length / 2))
        && range.apartFromAll depth (others.drop (others.length / 2)))

variable {range other : CaseRange} {others : List CaseRange} {n : Nat}

theorem holds_iff :
    range.holds n = true ↔
      range.first ≤ n ∧ n ≤ range.last ∧ (n - range.first) % range.stride = 0 := by
  simp [holds, and_assoc]

/-- What lies in a range is moved into its image. -/
theorem holds_image (hinside : range.staysInside = true) (h : range.holds n = true) :
    range.image.holds (n + range.shift).toNat = true := by
  simp only [staysInside, Bool.and_eq_true, decide_eq_true_eq] at hinside
  obtain ⟨hfirst, hlast, hstride⟩ := holds_iff.1 h
  have hdistance : (n + range.shift).toNat - range.image.first = n - range.first := by
    simp only [image]
    omega
  refine holds_iff.2 ⟨?_, ?_, ?_⟩
  · simp only [image]
    omega
  · simp only [image]
    omega
  · rw [hdistance]
    exact hstride

/-- Ranges that are apart share no number. -/
theorem not_holds_of_apart (hapart : range.apart other = true) (h : range.holds n = true) :
    other.holds n = false := by
  rw [← Bool.not_eq_true, holds_iff]
  rintro ⟨hfirst, hlast, hstride⟩
  obtain ⟨hleast, hgreatest, hparity⟩ := holds_iff.1 h
  simp only [apart, Bool.or_eq_true, Bool.and_eq_true, Nat.blt_eq, beq_iff_eq] at hapart
  rcases hapart with (hlt | hlt) | ⟨⟨hother, hrange⟩, hodd⟩
  · omega
  · omega
  · rw [hother] at hstride
    rcases hrange with hrange | hrange
    · rw [hrange] at hparity
      omega
    · omega

/-- The hull of ranges reaches as far as each of them. -/
theorem hull_bounds (hmem : other ∈ others) :
    (hull others).first ≤ other.first ∧ other.last ≤ (hull others).last := by
  induction others with
  | nil => cases hmem
  | cons range rest ih =>
      simp only [hull]
      rcases List.mem_cons.1 hmem with rfl | hmem
      · omega
      · have hrest := ih hmem
        omega

/-- A range that is apart from the hull of others is apart from each of them. -/
theorem apart_of_hull (hapart : range.apart (hull others) = true) (hmem : other ∈ others) :
    range.apart other = true := by
  obtain ⟨hfirst, hlast⟩ := hull_bounds hmem
  have hstride : (hull others).stride = 1 := by
    cases others <;> rfl
  simp only [apart, hstride, Bool.or_eq_true, Bool.and_eq_true, Nat.blt_eq, beq_iff_eq] at hapart ⊢
  omega

/-- A range is apart from each of the others if halving them shows it. -/
theorem apart_of_apart_from_all {depth : Nat} (h : range.apartFromAll depth others = true)
    (hmem : other ∈ others) : range.apart other = true := by
  induction depth generalizing others with
  | zero => exact List.all_eq_true.1 h other hmem
  | succ depth ih =>
      rw [apartFromAll, Bool.or_eq_true, Bool.and_eq_true] at h
      rcases h with hhull | ⟨hfront, hback⟩
      · exact apart_of_hull hhull hmem
      · rw [← List.take_append_drop (others.length / 2) others] at hmem
        rcases List.mem_append.1 hmem with hmem | hmem
        · exact ih hfront hmem
        · exact ih hback hmem

end CaseRange

namespace CaseMap

/-- The range of a single number, which goes where it is. -/
def single (n : Nat) : CaseRange := ⟨n, n, 1, 0⟩

/-- Whether the map has another image for the code point with a number than itself. -/
def changes (map : CaseMap) (n : Nat) : Bool :=
  (map.expansions.lookup n).isSome || map.ranges.any (·.holds n)

/-- The map changes nothing that it gives, and it gives something for every code point. -/
def isStable (map : CaseMap) : Bool :=
  (map.ranges.all fun range =>
    range.staysInside && map.ranges.all range.image.apart
      && map.expansions.all fun expansion => range.image.apart (single expansion.1)) &&
  map.expansions.all fun expansion =>
    (Text.ofNats expansion.2 != []) && expansion.2.all fun n => !map.changes n

variable {map : CaseMap} {c d : CodePoint}

/-- A map that does not change a code point gives it. -/
theorem apply_of_not_changes (h : map.changes c.val = false) : map.apply c = [c] := by
  simp only [changes, Bool.or_eq_false_iff, Option.isSome_eq_false_iff,
    Option.isNone_iff_eq_none] at h
  have hnone : map.ranges.find? (·.holds c.val) = none := by
    rw [List.find?_eq_none]
    exact List.any_eq_false.1 h.2
  rw [apply, h.1, hnone]

/-- The ranges of everything that the map changes. -/
def sources (map : CaseMap) : List CaseRange :=
  map.ranges ++ map.expansions.map (single ·.1)

/-- The map does not change a number that lies in none of its sources. -/
theorem not_changes_of_sources {n : Nat} (h : ∀ source ∈ map.sources, source.holds n = false) :
    map.changes n = false := by
  simp only [changes, Bool.or_eq_false_iff, Option.isSome_eq_false_iff,
    Option.isNone_iff_eq_none, List.lookup_eq_none_iff, List.any_eq_false]
  refine ⟨fun expansion hexpansion => ?_, fun range hrange => ?_⟩
  · have hsource := h (single expansion.1)
      (List.mem_append_right _ (List.mem_map_of_mem hexpansion))
    rw [bne_iff_ne]
    rintro rfl
    simp [CaseRange.holds, single] at hsource
  · rw [h range (List.mem_append_left _ hrange)]
    exact Bool.false_ne_true

/-- Nothing that is moved by a range of a stable map is moved again. -/
theorem not_changes_of_holds (hstable : map.isStable = true) {range : CaseRange}
    (hrange : range ∈ map.ranges) {n : Nat} (hn : range.holds n = true) :
    map.changes (n + range.shift).toNat = false := by
  simp only [isStable, Bool.and_eq_true, List.all_eq_true] at hstable
  obtain ⟨⟨hinside, hranges⟩, hexpansions⟩ := hstable.1 range hrange
  have himage := CaseRange.holds_image hinside hn
  refine not_changes_of_sources fun source hsource => ?_
  rcases List.mem_append.1 hsource with hsource | hsource
  · exact CaseRange.not_holds_of_apart (hranges source hsource) himage
  · obtain ⟨expansion, hexpansion, rfl⟩ := List.mem_map.1 hsource
    exact CaseRange.not_holds_of_apart (hexpansions expansion hexpansion) himage

/-- Whether the map is stable as far as a comparison with halves of its sources shows. -/
def isStableByHalves (map : CaseMap) (depth : Nat) : Bool :=
  (map.ranges.all fun range =>
    range.staysInside && range.image.apartFromAll depth map.sources) &&
  map.expansions.all fun expansion =>
    (Text.ofNats expansion.2 != [])
      && expansion.2.all fun n => (single n).apartFromAll depth map.sources

/-- A map is stable if the comparison with halves shows it. -/
theorem is_stable_of_halves (depth : Nat) (h : map.isStableByHalves depth = true) :
    map.isStable = true := by
  simp only [isStableByHalves, isStable, Bool.and_eq_true, List.all_eq_true] at h ⊢
  obtain ⟨hranges, hexpansions⟩ := h
  refine ⟨fun range hrange => ?_, fun expansion hexpansion => ?_⟩
  · obtain ⟨hinside, hapart⟩ := hranges range hrange
    refine ⟨⟨hinside, fun other hother => ?_⟩, fun expansion hexpansion => ?_⟩
    · exact CaseRange.apart_of_apart_from_all hapart (List.mem_append_left _ hother)
    · exact CaseRange.apart_of_apart_from_all hapart
        (List.mem_append_right _ (List.mem_map_of_mem hexpansion))
  · obtain ⟨hne, hnumbers⟩ := hexpansions expansion hexpansion
    refine ⟨hne, fun n hn => ?_⟩
    have hsingle : (single n).holds n = true := by simp [CaseRange.holds, single]
    have hsame : map.changes n = false := not_changes_of_sources fun source hsource =>
      CaseRange.not_holds_of_apart (CaseRange.apart_of_apart_from_all (hnumbers n hn) hsource) hsingle
    rw [hsame]
    rfl

/-- What a list of numbers denotes is among them. -/
theorem val_mem_of_mem_ofNats {ns : List Nat} (h : d ∈ Text.ofNats ns) : d.val ∈ ns := by
  obtain ⟨n, hn, hofNat⟩ := List.mem_filterMap.1 h
  unfold CodePoint.ofNat? at hofNat
  split at hofNat
  · cases hofNat
    exact hn
  · cases hofNat

/-- The image of a code point is an expansion, or it was moved by a range, or it did not change. -/
theorem apply_cases (map : CaseMap) (c : CodePoint) :
    (∃ ns, (c.val, ns) ∈ map.expansions ∧ map.apply c = Text.ofNats ns) ∨
      (∃ range ∈ map.ranges, range.holds c.val = true ∧
        map.apply c = Text.ofNats [(c.val + range.shift).toNat]) ∨
      (map.changes c.val = false ∧ map.apply c = [c]) := by
  cases hlookup : map.expansions.lookup c.val with
  | some ns =>
      obtain ⟨before, behind, hsplit, _⟩ := List.lookup_eq_some_iff.1 hlookup
      exact .inl ⟨ns, by simp [hsplit], by rw [apply, hlookup]⟩
  | none =>
      cases hfind : map.ranges.find? (·.holds c.val) with
      | some range =>
          have hholds := List.find?_some (p := fun range : CaseRange => range.holds c.val) hfind
          exact .inr (.inl ⟨range, List.mem_of_find?_eq_some hfind, hholds, by
            rw [apply, hlookup, hfind]⟩)
      | none =>
          refine .inr (.inr ⟨?_, by rw [apply, hlookup, hfind]⟩)
          rw [List.find?_eq_none] at hfind
          rw [changes, hlookup]
          simpa using hfind

/-- What a stable map moves by a range stays in the code space, where the image of the range is. -/
theorem of_nats_moved (hstable : map.isStable = true) {range : CaseRange}
    (hrange : range ∈ map.ranges) {n : Nat} (hn : range.holds n = true) :
    ∃ d : CodePoint, d.val = (n + range.shift).toNat ∧ range.image.holds d.val = true ∧
      Text.ofNats [(n + range.shift).toNat] = [d] := by
  simp only [isStable, Bool.and_eq_true, List.all_eq_true] at hstable
  obtain ⟨⟨hinside, _⟩, _⟩ := hstable.1 range hrange
  obtain ⟨_, hle, _⟩ := CaseRange.holds_iff.1 hn
  have hlt : (n + range.shift).toNat < 0x110000 := by
    simp only [CaseRange.staysInside, Bool.and_eq_true, decide_eq_true_eq] at hinside
    omega
  exact ⟨⟨_, hlt⟩, rfl, CaseRange.holds_image hinside hn, by
    simp [Text.ofNats, CodePoint.ofNat?, hlt]⟩

/-- A stable map changes nothing that it gives. -/
theorem apply_of_mem_apply (hstable : map.isStable = true) (hd : d ∈ map.apply c) :
    map.apply d = [d] := by
  apply apply_of_not_changes
  rcases map.apply_cases c with ⟨ns, hmem, heq⟩ | ⟨range, hrange, hholds, heq⟩ | ⟨hsame, heq⟩
  · rw [heq] at hd
    simp only [isStable, Bool.and_eq_true, List.all_eq_true] at hstable
    simpa using (hstable.2 _ hmem).2 _ (val_mem_of_mem_ofNats hd)
  · rw [heq] at hd
    rw [List.mem_singleton.1 (val_mem_of_mem_ofNats hd)]
    exact not_changes_of_holds hstable hrange hholds
  · rw [heq] at hd
    rwa [List.mem_singleton.1 hd]

/-- A stable map gives something for every code point. -/
theorem apply_ne_nil (hstable : map.isStable = true) (c : CodePoint) : map.apply c ≠ [] := by
  rcases map.apply_cases c with ⟨ns, hmem, heq⟩ | ⟨range, hrange, hholds, heq⟩ | ⟨_, heq⟩
  · rw [heq]
    simp only [isStable, Bool.and_eq_true, List.all_eq_true] at hstable
    simpa using (hstable.2 _ hmem).1
  · obtain ⟨d, _, _, hmoved⟩ := of_nats_moved hstable hrange hholds
    rw [heq, hmoved]
    exact List.cons_ne_nil _ _
  · rw [heq]
    exact List.cons_ne_nil _ _

/-- A map leads to a code point from this one alone if it lies in no image of a range and in no
expansion. -/
theorem eq_of_mem_apply (hstable : map.isStable = true)
    (hranges : ∀ range ∈ map.ranges, range.image.apart (single d.val) = true)
    (hexpansions : ∀ expansion ∈ map.expansions, d.val ∉ expansion.2) (hd : d ∈ map.apply c) :
    c = d := by
  rcases map.apply_cases c with ⟨ns, hmem, heq⟩ | ⟨range, hrange, hholds, heq⟩ | ⟨_, heq⟩
  · rw [heq] at hd
    exact absurd (val_mem_of_mem_ofNats hd) (hexpansions _ hmem)
  · obtain ⟨moved, _, himage, hmoved⟩ := of_nats_moved hstable hrange hholds
    rw [heq, hmoved, List.mem_singleton] at hd
    subst hd
    have hnot := CaseRange.not_holds_of_apart (hranges range hrange) himage
    simp [CaseRange.holds, single] at hnot
  · rw [heq] at hd
    exact (List.mem_singleton.1 hd).symm

/-- A text of which the map moves every code point on its own is moved one by one. -/
theorem flat_map_apply {f : CodePoint → CodePoint} {t : Text}
    (h : ∀ c ∈ t, map.apply c = [f c]) : t.flatMap map.apply = t.map f := by
  rw [List.map_eq_flatMap]
  exact List.flatMap_congr h

end CaseMap

namespace Text

/-- The table of lower-case letters is stable. -/
theorem is_stable_lowercase_map : lowercaseMap.isStable = true :=
  CaseMap.is_stable_of_halves 6 (by decide +kernel)

/-- The table of lower-case letters changes the capital sigma, but neither of the small ones. -/
theorem apply_sigma :
    lowercaseMap.apply capitalSigma ≠ [capitalSigma] ∧
      lowercaseMap.apply 0x3C2 = [0x3C2] ∧ lowercaseMap.apply 0x3C3 = [0x3C3] := by
  decide

/-- A text is lowered one by one if it has no capital sigma. -/
theorem lowercase_after_of_no_sigma {t : Text} (h : ∀ c ∈ t, c ≠ capitalSigma) (before : Text) :
    lowercaseAfter before t = t.flatMap lowercaseMap.apply := by
  induction t generalizing before with
  | nil => rfl
  | cons c rest ih =>
      rw [lowercaseAfter, if_neg (h c List.mem_cons_self),
        ih fun d hd => h d (List.mem_cons_of_mem c hd), List.flatMap_cons]

/-- A text is its own lower-case form if the table changes none of its code points. -/
theorem lowercase_after_of_fixed {t : Text} (h : ∀ c ∈ t, lowercaseMap.apply c = [c])
    (before : Text) : lowercaseAfter before t = t := by
  have hsigma : ∀ c ∈ t, c ≠ capitalSigma := by
    rintro c hc rfl
    exact apply_sigma.1 (h capitalSigma hc)
  rw [lowercase_after_of_no_sigma hsigma, CaseMap.flat_map_apply (f := id) h, List.map_id]

/-- The table changes no code point of a lower-case form. -/
theorem apply_of_mem_lowercase_after {before t : Text} {d : CodePoint}
    (h : d ∈ lowercaseAfter before t) : lowercaseMap.apply d = [d] := by
  induction t generalizing before with
  | nil => cases h
  | cons c rest ih =>
      rw [lowercaseAfter] at h
      rcases List.mem_append.1 h with h | h
      · split at h
        · -- the sigma that was chosen is a small one, wherever it stands
          obtain rfl := List.mem_singleton.1 h
          unfold smallSigma
          split
          · exact apply_sigma.2.1
          · exact apply_sigma.2.2
        · exact CaseMap.apply_of_mem_apply is_stable_lowercase_map h
      · exact ih h

/-- What becomes of a code point stands in the lower-case form of a text that has it. -/
theorem lowered_subset {t : Text} {c : CodePoint} (hc : c ∈ t) (before : Text) :
    ∃ ahead behind, (if c = capitalSigma then [smallSigma ahead behind] else lowercaseMap.apply c)
      ⊆ lowercaseAfter before t := by
  induction t generalizing before with
  | nil => cases hc
  | cons first rest ih =>
      rw [lowercaseAfter]
      rcases List.mem_cons.1 hc with rfl | hc
      · exact ⟨before, rest, List.subset_append_left _ _⟩
      · obtain ⟨ahead, behind, hsubset⟩ := ih hc (first :: before)
        exact ⟨ahead, behind, List.subset_append_of_subset_right _ hsubset⟩

/-- The lower-case form of a lower-case form is that form. -/
theorem lowercase_lowercase (t : Text) : t.lowercase.lowercase = t.lowercase :=
  lowercase_after_of_fixed (fun _ => apply_of_mem_lowercase_after) []

/-- Only the empty text has an empty lower-case form. -/
theorem lowercase_eq_nil_iff {t : Text} : t.lowercase = [] ↔ t = [] := by
  cases t with
  | nil => exact Iff.rfl
  | cons c rest =>
      rw [lowercase, lowercaseAfter, List.append_eq_nil_iff]
      have hne := CaseMap.apply_ne_nil is_stable_lowercase_map c
      split <;> simp [hne]

/-- The table of upper-case letters is stable. -/
theorem is_stable_uppercase_map : uppercaseMap.isStable = true :=
  CaseMap.is_stable_of_halves 6 (by decide +kernel)

/-- A text is its own upper-case form if the table changes none of its code points. -/
theorem uppercase_of_fixed {t : Text} (h : ∀ c ∈ t, uppercaseMap.apply c = [c]) :
    t.uppercase = t := by
  rw [uppercase, CaseMap.flat_map_apply (f := id) h, List.map_id]

/-- The upper-case form of an upper-case form is that form. -/
theorem uppercase_uppercase (t : Text) : t.uppercase.uppercase = t.uppercase := by
  refine uppercase_of_fixed fun d hd => ?_
  obtain ⟨c, _, hmem⟩ := List.mem_flatMap.1 hd
  exact CaseMap.apply_of_mem_apply is_stable_uppercase_map hmem

/-- Only the empty text has an empty upper-case form. -/
theorem uppercase_eq_nil_iff {t : Text} : t.uppercase = [] ↔ t = [] := by
  cases t with
  | nil => simp
  | cons c rest => simp [uppercase, CaseMap.apply_ne_nil is_stable_uppercase_map c]

end Text

end EmojiText
