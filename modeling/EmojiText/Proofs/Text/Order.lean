import EmojiText.Text.Basic
import Mathlib.Data.Finset.Card
import Mathlib.Data.List.Lex
import Mathlib.Data.List.Sort

/-!
# The order of texts

A text comes before another one if it has the smaller code point at their first difference, or if it
ends there. Sorting texts that all differ lists them in this order, and a list in this order is
known by its members. `FirstOf` says which texts a limit leaves of a set, and `take_first_of_iff`
that they are those at the start of its ascending list.
-/

namespace EmojiText.Text

/-- The text comes before the other one: it has the smaller code point at their first difference, or
it ends there. -/
def Before : Text → Text → Prop := List.Lex fun c d => c.val < d.val

variable {s t u : Text} {ts : List Text} {c d : CodePoint}

/-- Of two texts that are not empty, the first code points decide unless they are equal. -/
theorem before_cons_cons : Before (c :: s) (d :: t) ↔ c.val < d.val ∨ c = d ∧ Before s t :=
  List.cons_lex_cons_iff

/-- The same holds of comparing. -/
theorem le_cons_cons : le (c :: s) (d :: t) = true ↔ c.val < d.val ∨ c = d ∧ le s t = true := by
  rw [le]
  split
  · rename_i h
    simp [h]
  · rename_i h
    simp [h]

/-- Comparing finds a text lower than those that it comes before, and than itself. -/
theorem le_iff : le s t = true ↔ s = t ∨ Before s t := by
  induction s generalizing t with
  | nil =>
      cases t with
      | nil => simp [le]
      | cons d t => exact ⟨fun _ => .inr .nil, fun _ => rfl⟩
  | cons c s ih =>
      cases t with
      | nil => simp [le, Before]
      | cons d t =>
          rw [le_cons_cons, before_cons_cons, ih, List.cons.injEq]
          tauto

/-- Comparing is transitive. -/
theorem le_trans (hst : le s t = true) (htu : le t u = true) : le s u = true := by
  induction s generalizing t u with
  | nil => rfl
  | cons c s ih =>
      cases t with
      | nil => cases hst
      | cons d t =>
          cases u with
          | nil => cases htu
          | cons e u =>
              rw [le_cons_cons] at hst htu ⊢
              rcases hst with hlt | ⟨rfl, hst⟩
              · rcases htu with hlt' | ⟨rfl, _⟩
                · exact .inl (Nat.lt_trans hlt hlt')
                · exact .inl hlt
              · rcases htu with hlt | ⟨rfl, htu⟩
                · exact .inl hlt
                · exact .inr ⟨rfl, ih hst htu⟩

/-- Comparing finds one of two texts lower. -/
theorem le_total (s t : Text) : (le s t || le t s) = true := by
  rw [Bool.or_eq_true]
  induction s generalizing t with
  | nil => exact .inl rfl
  | cons c s ih =>
      cases t with
      | nil => exact .inr rfl
      | cons d t =>
          rw [le_cons_cons, le_cons_cons]
          rcases Nat.lt_trichotomy c.val d.val with hlt | heq | hlt
          · exact .inl (.inl hlt)
          · obtain rfl := Fin.ext heq
            simpa using ih t
          · exact .inr (.inl hlt)

/-- Sorting keeps the texts. -/
theorem mem_sorted : t ∈ sorted ts ↔ t ∈ ts := List.mem_mergeSort

/-- Sorted texts that all differ each come before the next ones. -/
theorem pairwise_sorted (h : ts.Nodup) : (sorted ts).Pairwise Before := by
  have hnodup : (sorted ts).Nodup := (List.mergeSort_perm ts le).nodup_iff.2 h
  have hsorted : (sorted ts).Pairwise fun s t => le s t = true :=
    @List.pairwise_mergeSort _ le (fun _ _ _ => le_trans) le_total ts
  refine (hsorted.and hnodup).imp ?_
  rintro s t ⟨hle, hne⟩
  exact (le_iff.1 hle).resolve_left hne

/-! ### Ascending lists -/

/-- Of two texts at most one comes before the other. -/
instance : Std.Asymm Before :=
  have : Std.Asymm fun c d : CodePoint => c.val < d.val := ⟨fun _ _ => Nat.lt_asymm⟩
  inferInstanceAs (Std.Asymm (List.Lex _))

/-- The texts are the first ones of a set in ascending order, as many as the limit allows. -/
structure FirstOf (all : Finset Text) (limit : Nat) (ts : List Text) : Prop where
  ascending : ts.Pairwise Before
  subset : ∀ t ∈ ts, t ∈ all
  length_eq : ts.length = min limit all.card
  before_others : ∀ t ∈ ts, ∀ other ∈ all, other ∉ ts → Before t other

section Ascending

variable {all : Finset Text} {limit : Nat} (hts : ts.Pairwise Before) (hmem : ∀ t, t ∈ ts ↔ t ∈ all)
include hts hmem

/-- An ascending list of the members of a set has as many texts as the set. -/
theorem length_of_ascending : ts.length = all.card := by
  have hall : ts.toFinset = all := Finset.ext fun t => by rw [List.mem_toFinset, hmem]
  rw [← hall, List.toFinset_card_of_nodup hts.nodup]

/-- The start of the ascending list of a set has its first texts. -/
theorem first_of_take : FirstOf all limit (ts.take limit) := by
  refine ⟨hts.sublist (List.take_sublist _ _), ?_, ?_, ?_⟩
  · intro t ht
    exact (hmem t).1 (List.mem_of_mem_take ht)
  · rw [List.length_take, length_of_ascending hts hmem]
  · intro t ht other hother hnot
    have hsplit := (hmem other).2 hother
    rw [← List.take_append_drop limit ts] at hsplit hts
    exact (List.pairwise_append.1 hts).2.2 t ht other ((List.mem_append.1 hsplit).resolve_left hnot)

/-- The first texts of a set are those at the start of its ascending list. -/
theorem take_first_of_iff {firsts : List Text} :
    ts.take limit = firsts ↔ FirstOf all limit firsts := by
  constructor
  · rintro rfl
    exact first_of_take hts hmem
  · intro h
    -- the texts that are left out follow the first ones, and together they are the whole list
    have hrest : (firsts ++ ts.filter (· ∉ firsts)).Pairwise Before := by
      refine List.pairwise_append.2 ⟨h.ascending, hts.filter _, ?_⟩
      intro t ht other hother
      obtain ⟨hall, hnot⟩ := List.mem_filter.1 hother
      exact h.before_others t ht other ((hmem other).1 hall) (of_decide_eq_true hnot)
    have hwhole : firsts ++ ts.filter (· ∉ firsts) = ts := by
      refine hrest.eq_of_mem_iff hts fun t => ?_
      have hsubset := h.subset t
      rw [← hmem] at hsubset
      simp only [List.mem_append, List.mem_filter, decide_eq_true_eq]
      tauto
    have hprefix : firsts <+: ts := ⟨_, hwhole⟩
    rw [List.prefix_iff_eq_take.1 hprefix, h.length_eq, ← length_of_ascending hts hmem,
      ← List.take_take, List.take_length]

end Ascending

end EmojiText.Text
