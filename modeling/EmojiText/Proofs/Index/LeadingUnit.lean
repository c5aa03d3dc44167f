import EmojiText.Index
import Mathlib.Data.List.Sort

/-!
# The records with one leading unit

What a look-up by the first code point of a text finds. The main statements are `mem_candidates`,
which says that no record is missing, and `pairwise_candidates`, which says that a longer text
comes before a shorter one and that equal lengths keep the order of the records.
-/

namespace EmojiText

namespace Arena

/-- The order among the records with one leading unit: longer texts come first, and of two texts
of the same length the one of the earlier record. -/
def Precedes (arena : Arena) (i j : arena.Id) : Prop :=
  (arena.text j).length < (arena.text i).length ∨
    (arena.text i).length = (arena.text j).length ∧ i < j

variable {arena : Arena}

/-- Sorting by length keeps the order of the records whose texts have one length. -/
theorem filter_longest_first (ids : List arena.Id) (n : Nat) :
    (arena.longestFirst ids).filter (fun id => (arena.text id).length = n)
      = ids.filter (fun id => (arena.text id).length = n) := by
  have hsub : (ids.filter fun id => (arena.text id).length = n).Sublist
      (arena.longestFirst ids) := by
    refine List.sublist_mergeSort ?_ ?_ ?_ List.filter_sublist
    · intro i j k hij hjk
      simp only [decide_eq_true_eq] at hij hjk ⊢
      omega
    · intro i j
      simp only [Bool.or_eq_true, decide_eq_true_eq]
      omega
    · refine List.pairwise_of_forall_mem_list ?_
      intro i hi j hj
      simp only [List.mem_filter, decide_eq_true_eq] at hi hj
      simp [hi.2, hj.2]
  have hfilter := hsub.filter fun id => (arena.text id).length = n
  rw [List.filter_filter] at hfilter
  simp only [Bool.and_self] at hfilter
  refine (hfilter.eq_of_length ?_).symm
  exact ((List.mergeSort_perm ids _).filter _).length_eq.symm

/-- Records in ascending order are sorted into the order of `Precedes`. -/
theorem pairwise_longest_first {ids : List arena.Id} (h : ids.Pairwise (· < ·)) :
    (arena.longestFirst ids).Pairwise arena.Precedes := by
  rw [List.pairwise_iff_forall_sublist]
  intro i j hsub
  have hsorted := @List.pairwise_mergeSort _
    (fun i j : arena.Id => decide ((arena.text j).length ≤ (arena.text i).length))
    (fun i j k hij hjk => by simp only [decide_eq_true_eq] at *; omega)
    (fun i j => by simp only [Bool.or_eq_true, decide_eq_true_eq]; omega) ids
  have hle : (arena.text j).length ≤ (arena.text i).length := by
    simpa using List.pairwise_iff_forall_sublist.1 hsorted hsub
  rcases Nat.lt_or_eq_of_le hle with hlt | heq
  · exact .inl hlt
  · -- records of one length stand as they did before the sort
    have hfilter := hsub.filter fun id => (arena.text id).length = (arena.text i).length
    rw [filter_longest_first] at hfilter
    have hpair : [i, j].Sublist ids := by
      simpa [heq] using hfilter.trans List.filter_sublist
    exact .inr ⟨heq.symm, List.pairwise_iff_forall_sublist.1 h hpair⟩

/-- All numbers stand in ascending order. -/
theorem pairwise_ids (arena : Arena) : arena.ids.Pairwise (· < ·) :=
  (List.sortedLT_finRange _).pairwise

end Arena

namespace Index

/-- The tables of the index are those of its records. -/
def Built (index : Index) : Prop := index = ofArena index.toArena

/-- The index of a list of records is built. -/
theorem built_of_records (records : List Record) : (ofRecords records).Built := rfl

variable {index : Index} {unit : CodePoint}

/-- The candidates are the records with the given leading unit, sorted. -/
theorem Built.candidates_eq (h : index.Built) (unit : CodePoint) :
    index.candidates unit
      = index.longestFirst (index.ids.filter (index.leadingUnit · = unit)) := by
  rw [h]
  generalize index.toArena = arena
  have hgroup := Table.getD_find?_group
    (arena.ids.map fun id => (arena.leadingUnit id, id)) unit
  have hnil : arena.longestFirst [] = [] := List.mergeSort_nil
  show ((Table.map arena.longestFirst _).find? unit).getD []
    = arena.longestFirst (arena.ids.filter (arena.leadingUnit · = unit))
  rw [Table.find?_map]
  nth_rewrite 1 [← hnil]
  rw [Option.getD_map, hgroup]
  simp [List.filter_map, Function.comp_def]

/-- The candidates are exactly the records whose text starts with the unit. -/
theorem Built.mem_candidates (h : index.Built) {id : index.Id} :
    id ∈ index.candidates unit ↔ index.leadingUnit id = unit := by
  rw [h.candidates_eq, Arena.longestFirst, List.mem_mergeSort]
  simp [Arena.ids]

/-- The candidates stand with longer texts first, equal lengths in the order of the records. -/
theorem Built.pairwise_candidates (h : index.Built) (unit : CodePoint) :
    (index.candidates unit).Pairwise index.Precedes := by
  rw [h.candidates_eq]
  exact Arena.pairwise_longest_first (index.pairwise_ids.filter _)

end Index

end EmojiText
