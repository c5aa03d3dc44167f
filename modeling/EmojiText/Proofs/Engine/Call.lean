import EmojiText.Engine

/-!
# What calls return and change

The value of a call in an engine is its outcome with the engine after it, whatever it writes to the
log. Each call has one lemma that says what its value is, in terms of what it reads.
-/

namespace EmojiText.Engine.Call

variable {α β : Type} {engine : Engine}

/-! ### Steps -/

@[simp] theorem value_pure (a : α) : (runIn engine (pure a)).value = (.ok a, engine) := rfl

@[simp] theorem value_throw (failure : Failure) :
    (runIn engine (throw failure : Call α)).value = (.error failure, engine) := rfl

@[simp] theorem value_get : (runIn engine get).value = (.ok engine, engine) := rfl

@[simp] theorem value_modify (change : Engine → Engine) :
    (runIn engine (modify change)).value = (.ok (), change engine) := rfl

@[simp] theorem value_perform (attempt : Attempt Failure α) :
    (runIn engine (perform attempt)).value = (attempt.outcome, engine) := rfl

/-- After a call that fails nothing else is carried out. -/
@[simp] theorem value_bind (call : Call α) (next : α → Call β) :
    (runIn engine (call >>= next)).value
      = match (runIn engine call).value with
        | (.ok a, following) => (runIn following (next a)).value
        | (.error failure, following) => (.error failure, following) := by
  simp only [runIn, ExceptT.run_bind, StateT.run_bind, Logged.value_bind]
  rcases (ExceptT.run call).run engine with ⟨⟨outcome, following⟩, log⟩
  cases outcome <;> rfl

@[simp] theorem value_map (f : α → β) (call : Call α) :
    (runIn engine (f <$> call)).value
      = ((runIn engine call).value.1.map f, (runIn engine call).value.2) := by
  rw [← bind_pure_comp, value_bind]
  rcases (runIn engine call).value with ⟨outcome, following⟩
  cases outcome <;> rfl

@[simp] theorem value_report (level : Level) (message : Text) :
    (runIn engine (report level message)).value = (.ok (), engine) := rfl

/-- An attempt at a call gives the engine after it, unless the call fails. -/
@[simp] theorem outcome_attempt (call : Call α) :
    (engine.attempt call).outcome
      = (runIn engine call).value.1.map fun _ => (runIn engine call).value.2 := rfl

/-! ### Calls -/

variable {index : Index} {handles : Array Handle} {emojiSet : Platform}

@[simp] theorem value_resolve (index : Index) (emojiSet : Platform) :
    (runIn engine (resolve index emojiSet)).value
      = ((Handle.resolve index emojiSet engine.settings.addresses engine.settings.scale).outcome,
          engine) := rfl

/-- An index is published together with its handles for the set in use. -/
theorem value_publish
    (h : (Handle.resolve index engine.emojiSet engine.settings.addresses
      engine.settings.scale).outcome = .ok handles) :
    (runIn engine (publish index)).value
      = (.ok true, { engine with
          published := ⟨index, handles, engine.emojiSet⟩
          isLoaded := true
          loadError := none }) := by
  rw [emojiSet] at h
  simp [publish, h, emojiSet, Except.map]

/-- Because of a fault an empty index is published, and the set stays in use. -/
theorem value_publish_failure (cause : Fault) :
    (runIn engine (publishFailure cause)).value
      = (.ok false, { engine with
          published := .empty engine.emojiSet
          isLoaded := false
          loadError := some cause.summary }) := by
  simp [publishFailure, emojiSet, Except.map]

section Loading

variable {attempt : Attempt Failure (List Record)}

/-- Records that could be loaded are published as an index of them. -/
theorem value_load_records_of_ok {records : List Record} (h : attempt.outcome = .ok records) :
    (runIn engine (loadRecords attempt)).value
      = (runIn engine (publish (Index.build records).value)).value := by
  have hrun : (ExceptT.run attempt).value = .ok records := h
  simp [loadRecords, hrun]

/-- A fault of the dataset clears the engine. -/
theorem value_load_records_of_fault {cause : Fault} (h : attempt.outcome = .error (.fault cause)) :
    (runIn engine (loadRecords attempt)).value = (runIn engine (publishFailure cause)).value := by
  have hrun : (ExceptT.run attempt).value = .error (.fault cause) := h
  simp [loadRecords, hrun]

/-- Any other failure is passed on, and the engine stays as it was. -/
theorem value_load_records_of_failure {failure : Failure} (h : attempt.outcome = .error failure)
    (hother : ∀ cause, failure ≠ .fault cause) :
    (runIn engine (loadRecords attempt)).value = (.error failure, engine) := by
  have hrun : (ExceptT.run attempt).value = .error failure := h
  simp [loadRecords, hrun]

/-- A load takes the names of tones from the engine. -/
@[simp] theorem value_load (source : Text) (data : DatasetSource) (room : Nat) :
    (runIn engine (load source data room)).value
      = (runIn engine
          (loadRecords (Dataset.load engine.settings.toneNames source data room))).value := by
  rw [load, value_bind, value_get]

/-- A load from a file takes them from there, too. -/
@[simp] theorem value_load_file (files : FileTree) (path : Path) (room : Nat) :
    (runIn engine (loadFile files path room)).value
      = (runIn engine
          (loadRecords (Dataset.loadFile engine.settings.toneNames files path room))).value := by
  rw [loadFile, value_bind, value_get]

end Loading

/-- The set that is in use may be chosen again, which changes nothing. -/
theorem value_choose_of_eq (h : engine.emojiSet = emojiSet) :
    (runIn engine (choose emojiSet)).value = (.ok (), engine) := by
  rw [Engine.emojiSet] at h
  simp [choose, h]

/-- Another set is published together with its handles of the records. -/
theorem value_choose_of_ne (hne : engine.emojiSet ≠ emojiSet)
    (h : (Handle.resolve engine.published.index emojiSet engine.settings.addresses
      engine.settings.scale).outcome = .ok handles) :
    (runIn engine (choose emojiSet)).value
      = (.ok (), { engine with published := ⟨engine.published.index, handles, emojiSet⟩ }) := by
  rw [Engine.emojiSet] at hne
  simp [choose, hne, h]

end EmojiText.Engine.Call
