import EmojiText.Proofs.Dataset.Records
import EmojiText.Proofs.Text.Case
import EmojiText.Proofs.Text.Parts
import Mathlib.Data.List.Forall2

/-!
# The modifiers in a name

The name of a key tells which known modifiers the key has and in which order, if the table gives no
name twice and none with a hyphen: splitting the name at its hyphens gives their names back. What
the table does not know leaves no trace. The main statement is `Unambiguous.name_eq_iff`.
-/

namespace EmojiText.ToneNames

/-- The modifiers in a key that the table knows. -/
def recognised (names : ToneNames) (key : Text) : List Text :=
  ((key.split hyphen).map modifier).filter (· ∈ names.keys)

/-- The modifiers of a name can be read back from it, in whatever letter case it is written. -/
structure Unambiguous (names : ToneNames) : Prop where
  /-- No two modifiers share a name. -/
  modifier_eq : ∀ part other name,
    names.find? part = some name → names.find? other = some name → part = other
  /-- No name has the separator of names. -/
  hyphen_not_mem : ∀ part name, names.find? part = some name → hyphen ∉ name
  /-- All names are in lower case. -/
  lower_case : ∀ part name, names.find? part = some name →
    ∀ c ∈ name, Text.lowercaseMap.apply c = [c]

/-- The standard names are unambiguous. -/
theorem unambiguous_standard : standard.Unambiguous where
  modifier_eq part other name hpart hother := by
    have hpairs : ∀ pair ∈ standard.pairs, ∀ other ∈ standard.pairs,
        pair.2 = other.2 → pair.1 = other.1 := by decide +kernel
    exact hpairs _ (Table.find?_eq_some_iff.1 hpart) _ (Table.find?_eq_some_iff.1 hother) rfl
  hyphen_not_mem part name hpart := by
    have hpairs : ∀ pair ∈ standard.pairs, hyphen ∉ pair.2 := by decide +kernel
    exact hpairs _ (Table.find?_eq_some_iff.1 hpart)
  lower_case part name hpart := by
    have hpairs : ∀ pair ∈ standard.pairs,
        pair.2.all (fun c => Text.lowercaseMap.apply c = [c]) = true := by decide +kernel
    have hname := hpairs _ (Table.find?_eq_some_iff.1 hpart)
    simpa using hname

variable {names : ToneNames} {key other name otherName : Text}

/-- The known names of a key are those of its recognised modifiers, one by one. -/
theorem forall₂_recognised (names : ToneNames) (key : Text) :
    List.Forall₂ (fun part name => names.find? part = some name)
      (names.recognised key) (names.known key) := by
  unfold recognised known parts
  induction key.split hyphen with
  | nil => exact .nil
  | cons piece pieces ih =>
      rw [List.map_cons, List.map_cons, List.filter_cons, List.filterMap_cons]
      cases hfind : names.find? (modifier piece) with
      | none =>
          have hkey : modifier piece ∉ names.keys := by
            rw [Table.mem_keys_iff, hfind]
            simp
          rwa [if_neg (by simpa using hkey)]
      | some name =>
          have hkey : modifier piece ∈ names.keys := Table.mem_keys_iff.2 ⟨name, hfind⟩
          rw [if_pos (by simpa using hkey)]
          exact .cons hfind ih

/-- The known names of a key are names of the table. -/
theorem exists_of_mem_known (h : name ∈ names.known key) :
    ∃ part, names.find? part = some name := by
  obtain ⟨_, hpart, hname⟩ := List.mem_filterMap.1 h
  obtain ⟨piece, _, rfl⟩ := List.mem_map.1 hpart
  exact ⟨modifier piece, hname⟩

/-- A key has no known names exactly if none of its modifiers is recognised. -/
theorem known_eq_nil_iff : names.known key = [] ↔ names.recognised key = [] := by
  have hlength := (forall₂_recognised names key).length_eq
  rw [← List.length_eq_zero_iff, ← hlength, List.length_eq_zero_iff]

/-- A key has a name, which is made of its known ones, exactly if one of its modifiers is
recognised. -/
theorem name_of_eq_ok :
    (names.nameOf key).outcome = .ok name ↔
      names.recognised key ≠ [] ∧ Text.join [hyphen] (names.known key) = name := by
  have houtcome : (names.nameOf key).outcome = _ := names.value_name_of key
  rw [Ne, ← known_eq_nil_iff, houtcome]
  cases names.known key <;> simp

/-- Naming fails exactly if no modifier is recognised. -/
theorem name_of_eq_error :
    (names.nameOf key).outcome = .error (.unknownTones key) ↔ names.recognised key = [] := by
  have houtcome : (names.nameOf key).outcome = _ := names.value_name_of key
  rw [← known_eq_nil_iff, houtcome]
  cases names.known key <;> simp

namespace Unambiguous

variable (h : names.Unambiguous)
include h

/-- Two keys have the same known names exactly if they have the same recognised modifiers. -/
theorem recognised_eq_iff :
    names.recognised key = names.recognised other ↔ names.known key = names.known other := by
  have hunique : Relator.BiUnique fun part name => names.find? part = some name := by
    refine ⟨fun part other name => h.modifier_eq part other name, fun part name other => ?_⟩
    intro hname hother
    exact Option.some.inj (hname.symm.trans hother)
  exact Relator.rel_eq hunique.forall₂ (forall₂_recognised names key)
    (forall₂_recognised names other)

/-- Splitting the name of a key gives its known names. -/
theorem split_name (hname : (names.nameOf key).outcome = .ok name) :
    name.split hyphen = names.known key := by
  obtain ⟨hne, rfl⟩ := name_of_eq_ok.1 hname
  refine Text.split_join (known_eq_nil_iff.not.2 hne) fun part hpart => ?_
  obtain ⟨modifier, hmodifier⟩ := exists_of_mem_known hpart
  exact h.hyphen_not_mem modifier part hmodifier

/-- Two keys have the same name exactly if they have the same recognised modifiers in the same
order. -/
theorem name_eq_iff (hname : (names.nameOf key).outcome = .ok name)
    (hother : (names.nameOf other).outcome = .ok otherName) :
    name = otherName ↔ names.recognised key = names.recognised other := by
  rw [h.recognised_eq_iff]
  constructor
  · rintro rfl
    rw [← h.split_name hname, ← h.split_name hother]
  · intro hknown
    rw [← (name_of_eq_ok.1 hname).2, ← (name_of_eq_ok.1 hother).2, hknown]

/-- The name of a key is in lower case. -/
theorem lower_case_name (hname : (names.nameOf key).outcome = .ok name) :
    ∀ c ∈ name, Text.lowercaseMap.apply c = [c] := by
  obtain ⟨_, rfl⟩ := name_of_eq_ok.1 hname
  intro c hc
  rcases Text.mem_join hc with hhyphen | ⟨part, hpart, hc⟩
  · rw [List.mem_singleton.1 hhyphen]
    decide
  · obtain ⟨modifier, hmodifier⟩ := exists_of_mem_known hpart
    exact h.lower_case modifier part hmodifier c hc

end Unambiguous

end EmojiText.ToneNames
