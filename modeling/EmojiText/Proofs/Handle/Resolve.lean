import EmojiText.Handle
import Mathlib.Data.List.Forall2

/-!
# When handles are resolved

Handles are resolved record by record, and the only obstacle is a record without a short code. The
main statement is `exists_outcome_resolve`; that it holds for every set of images is why another set
can be chosen whenever the present handles could be resolved. Each handle stands at the place of its
record, which is `forall2_outcome_resolve`.
-/

namespace EmojiText.Handle

variable {index : Index} {chosen : Platform} {addresses : ImageAddresses} {scale : Binary64}

/-- A record has a handle if and only if it has a short code. -/
theorem exists_of_record {record : Record} :
    (∃ handle, ofRecord record chosen addresses scale = .ok handle) ↔ record.shortCodes ≠ [] := by
  unfold ofRecord Record.primaryShortCode?
  cases record.shortCodes <;> simp

/-- The report on resolved handles changes nothing about them. -/
@[simp] theorem outcome_resolve :
    (resolve index chosen addresses scale).outcome = all index chosen addresses scale := by
  simp only [resolve, Attempt.outcome_bind, Attempt.outcome_ofExcept, Attempt.outcome_lift,
    Attempt.outcome_pure]
  cases all index chosen addresses scale <;> rfl

/-- A list is mapped without a failure if and only if no item of it fails. -/
theorem exists_map_list {α β : Type} {f : α → Except Failure β} {items : List α} :
    (∃ images, items.mapM f = .ok images) ↔ ∀ item ∈ items, ∃ image, f item = .ok image := by
  induction items with
  | nil => simp [pure, Except.pure]
  | cons item items ih =>
      rw [List.forall_mem_cons, ← ih, List.mapM_cons]
      cases f item with
      | error failure => simp [bind, Except.bind]
      | ok image => cases items.mapM f <;> simp [bind, Except.bind, pure, Except.pure]

/-- Handles can be resolved if and only if every record has a short code. -/
theorem exists_outcome_resolve :
    (∃ handles, (resolve index chosen addresses scale).outcome = .ok handles)
      ↔ ∀ record ∈ index.records, record.shortCodes ≠ [] := by
  have hlist : (∃ handles, (resolve index chosen addresses scale).outcome = .ok handles)
      ↔ ∃ handles, index.records.toList.mapM (ofRecord · chosen addresses scale)
          = .ok handles := by
    rw [outcome_resolve, all, Array.mapM_eq_mapM_toList]
    cases index.records.toList.mapM (ofRecord · chosen addresses scale) <;>
      simp [Functor.map, Except.map]
  rw [hlist, exists_map_list]
  simp only [exists_of_record, Array.mem_toList_iff]

/-- A list that is mapped without a failure gives what its items give, in their order. -/
theorem forall2_of_map_list {f : Record → Except Failure Handle} {records : List Record}
    {handles : List Handle} (h : records.mapM f = .ok handles) :
    List.Forall₂ (fun record handle => f record = .ok handle) records handles := by
  induction records generalizing handles with
  | nil =>
      cases h
      exact .nil
  | cons record records ih =>
      rw [List.mapM_cons] at h
      cases hrecord : f record with
      | error failure =>
          rw [hrecord] at h
          cases h
      | ok handle =>
          rw [hrecord] at h
          cases hrest : records.mapM f with
          | error failure =>
              rw [hrest] at h
              cases h
          | ok rest =>
              rw [hrest] at h
              cases h
              exact .cons hrecord (ih hrest)

/-- The handles that are resolved are those of the records, in their order. -/
theorem forall2_outcome_resolve {handles : Array Handle}
    (h : (resolve index chosen addresses scale).outcome = .ok handles) :
    List.Forall₂ (fun record handle => ofRecord record chosen addresses scale = .ok handle)
      index.records.toList handles.toList := by
  rw [outcome_resolve, all, Array.mapM_eq_mapM_toList] at h
  cases hlist : index.records.toList.mapM (ofRecord · chosen addresses scale) with
  | error failure =>
      rw [hlist] at h
      cases h
  | ok list =>
      rw [hlist] at h
      cases h
      exact forall2_of_map_list hlist

/-- There are as many handles as records. -/
theorem size_outcome_resolve {handles : Array Handle}
    (h : (resolve index chosen addresses scale).outcome = .ok handles) :
    handles.size = index.size :=
  (forall2_outcome_resolve h).length_eq.symm

/-- Under the number of a record stands its handle. -/
theorem exists_handle_of_id {handles : Array Handle}
    (h : (resolve index chosen addresses scale).outcome = .ok handles) (id : index.Id) :
    ∃ handle, handles[id.val]? = some handle ∧
      ofRecord (index.record id) chosen addresses scale = .ok handle := by
  have hlt : id.val < handles.size := (size_outcome_resolve h).symm ▸ id.isLt
  refine ⟨handles[id.val], Array.getElem?_eq_getElem hlt, ?_⟩
  exact (forall2_outcome_resolve h).get id.isLt hlt

/-- The index without records has no handles. -/
theorem outcome_resolve_empty : (resolve ∅ chosen addresses scale).outcome = .ok #[] := by
  have hrecords : (∅ : Index).records = #[] := rfl
  rw [outcome_resolve, all, hrecords, Array.mapM_eq_mapM_toList]
  rfl

end EmojiText.Handle
