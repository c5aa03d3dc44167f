import EmojiText.Session

/-!
# What procedures return, change and write

The value of a procedure in a session is its outcome with the session after it, whatever it writes.
Each step that procedures are made of has one lemma that says what its value is, so that a procedure
is carried out by rewriting. With `value_bind`, the main statement, a procedure goes on as long as
its steps succeed; with `log_bind` it has then written what its steps wrote, in their order.
-/

namespace EmojiText.Procedure

variable {α β : Type} {session : Session}

@[simp] theorem value_pure (a : α) : (runIn session (pure a)).value = (.ok a, session) := rfl

@[simp] theorem value_throw (failure : Failure) :
    (runIn session (throw failure : Procedure α)).value = (.error failure, session) := rfl

@[simp] theorem value_get : (runIn session get).value = (.ok session, session) := rfl

@[simp] theorem value_set (following : Session) :
    (runIn session (set following)).value = (.ok (), following) := rfl

@[simp] theorem value_modify (change : Session → Session) :
    (runIn session (modify change)).value = (.ok (), change session) := rfl

/-- After a procedure that fails nothing else is carried out. -/
@[simp] theorem value_bind (procedure : Procedure α) (next : α → Procedure β) :
    (runIn session (procedure >>= next)).value
      = match (runIn session procedure).value with
        | (.ok a, following) => (runIn following (next a)).value
        | (.error failure, following) => (.error failure, following) := by
  simp only [runIn, ExceptT.run_bind, StateT.run_bind, Logged.value_bind]
  rcases (ExceptT.run procedure).run session with ⟨⟨outcome, following⟩, log⟩
  cases outcome <;> rfl

/-- A function is applied to what a procedure returns. -/
@[simp] theorem value_map (f : α → β) (procedure : Procedure α) :
    (runIn session (f <$> procedure)).value
      = ((runIn session procedure).value.1.map f, (runIn session procedure).value.2) := by
  rw [← bind_pure_comp, value_bind]
  rcases (runIn session procedure).value with ⟨outcome, following⟩
  cases outcome <;> rfl

/-- A procedure succeeds exactly if all its steps do. -/
theorem value_bind_eq_ok_iff {procedure : Procedure α} {next : α → Procedure β} {b : β}
    {final : Session} :
    (runIn session (procedure >>= next)).value = (.ok b, final) ↔
      ∃ a following, (runIn session procedure).value = (.ok a, following) ∧
        (runIn following (next a)).value = (.ok b, final) := by
  rw [value_bind]
  rcases (runIn session procedure).value with ⟨failure | a, following⟩
  · simp
  · constructor
    · intro h
      exact ⟨a, following, rfl, h⟩
    · rintro ⟨_, _, hsame, h⟩
      cases hsame
      exact h

/-- A failure is handled in the session that it left behind. -/
@[simp] theorem value_try_catch (procedure : Procedure α) (handle : Failure → Procedure α) :
    (runIn session (tryCatch procedure handle)).value
      = match (runIn session procedure).value with
        | (.ok a, following) => (.ok a, following)
        | (.error failure, following) => (runIn following (handle failure)).value := by
  have hrun : (ExceptT.run procedure).run session = StateT.run procedure session := rfl
  simp only [runIn, tryCatch, tryCatchThe, MonadExceptOf.tryCatch, ExceptT.tryCatch,
    ExceptT.run_mk, StateT.run_bind, Logged.value_bind]
  rw [hrun]
  rcases StateT.run procedure session with ⟨⟨outcome, following⟩, log⟩
  cases outcome <;> rfl

/-- Writing changes the logbook only. -/
@[simp] theorem value_write (records : List LogRecord) :
    (runIn session (write records)).value
      = (.ok (), { session with
          logbook := records.foldl (session.backend.emit session.moment) session.logbook }) := rfl

@[simp] theorem value_of_except (outcome : Except Failure α) :
    (runIn session (ofExcept outcome)).value = (outcome, session) := by
  cases outcome <;> rfl

/-- An attempt has its outcome, after what it wrote was written. -/
@[simp] theorem value_perform (attempt : Attempt Failure α) :
    (runIn session (perform attempt)).value
      = (attempt.outcome, (runIn session (write attempt.log)).value.2) := by
  rw [perform, value_bind, value_write]
  cases attempt.outcome <;> rfl

@[simp] theorem map_error_ok {ε ε' : Type} (f : ε → ε') (a : α) :
    (Except.ok a).mapError f = .ok a := rfl

@[simp] theorem map_error_error {ε ε' : Type} (f : ε → ε') (error : ε) :
    (Except.error error : Except ε α).mapError f = .error (f error) := rfl

/-- Changing files leaves the rest of the session alone. -/
@[simp] theorem value_change_files (change : FileChange α) :
    (runIn session (changeFiles change)).value
      = ((session.files.change change).1.mapError .file,
          { session with files := (session.files.change change).2 }) := by
  simp only [changeFiles, value_bind, value_get, value_set, value_of_except]

/-- Files are changed successfully exactly if the change succeeds. -/
theorem value_change_files_eq_ok_iff {change : FileChange α} {a : α} {final : Session} :
    (runIn session (changeFiles change)).value = (.ok a, final) ↔
      ∃ files, session.files.change change = (.ok a, files) ∧ { session with files } = final := by
  rw [value_change_files]
  rcases session.files.change change with ⟨error | b, files⟩
  · simp
  · simp [and_assoc]

/-- An operation changes files and sinks, also where it fails. -/
@[simp] theorem value_operate (operation : Logging.Backend → Logging.Operation) :
    (runIn session (operate operation)).value
      = ((operation session.backend session.surroundings).1,
          session.withSurroundings (operation session.backend session.surroundings).2) := by
  simp only [operate, value_bind, value_get, value_set, value_of_except]

/-- Sinks are changed successfully exactly if the operation succeeds. -/
theorem value_operate_eq_ok_iff {operation : Logging.Backend → Logging.Operation} {done : Unit}
    {final : Session} :
    (runIn session (operate operation)).value = (.ok done, final) ↔
      ∃ around, operation session.backend session.surroundings = (.ok (), around) ∧
        session.withSurroundings around = final := by
  rw [value_operate]
  rcases operation session.backend session.surroundings with ⟨failure | _, around⟩
  · simp
  · simp

/-! ### What is written -/

@[simp] theorem log_pure (a : α) : (runIn session (pure a)).log = [] := rfl

@[simp] theorem log_throw (failure : Failure) :
    (runIn session (throw failure : Procedure α)).log = [] := rfl

@[simp] theorem log_get : (runIn session get).log = [] := rfl

@[simp] theorem log_set (following : Session) : (runIn session (set following)).log = [] := rfl

@[simp] theorem log_modify (change : Session → Session) :
    (runIn session (modify change)).log = [] := rfl

/-- What a procedure wrote before it failed is all that is written. -/
@[simp] theorem log_bind (procedure : Procedure α) (next : α → Procedure β) :
    (runIn session (procedure >>= next)).log
      = (runIn session procedure).log ++ match (runIn session procedure).value with
        | (.ok a, following) => (runIn following (next a)).log
        | (.error _, _) => [] := by
  simp only [runIn, ExceptT.run_bind, StateT.run_bind, Logged.log_bind]
  rcases (ExceptT.run procedure).run session with ⟨⟨outcome, following⟩, log⟩
  cases outcome <;> rfl

/-- What is written before a failure and on its handling is written one after the other. -/
@[simp] theorem log_try_catch (procedure : Procedure α) (handle : Failure → Procedure α) :
    (runIn session (tryCatch procedure handle)).log
      = (runIn session procedure).log ++ match (runIn session procedure).value with
        | (.ok _, _) => []
        | (.error failure, following) => (runIn following (handle failure)).log := by
  have hrun : (ExceptT.run procedure).run session = StateT.run procedure session := rfl
  simp only [runIn, tryCatch, tryCatchThe, MonadExceptOf.tryCatch, ExceptT.tryCatch,
    ExceptT.run_mk, StateT.run_bind, Logged.log_bind]
  rw [hrun]
  rcases StateT.run procedure session with ⟨⟨outcome, following⟩, log⟩
  cases outcome <;> rfl

@[simp] theorem log_write (records : List LogRecord) :
    (runIn session (write records)).log = records := by
  rw [write, log_bind, log_modify, value_modify, List.nil_append]
  exact (List.append_nil _).trans (List.append_nil _)

@[simp] theorem log_of_except (outcome : Except Failure α) :
    (runIn session (ofExcept outcome)).log = [] := by
  cases outcome <;> rfl

@[simp] theorem log_perform (attempt : Attempt Failure α) :
    (runIn session (perform attempt)).log = attempt.log := by
  rw [perform, log_bind, log_write, value_write]
  cases attempt.outcome <;> simp

@[simp] theorem log_change_files (change : FileChange α) :
    (runIn session (changeFiles change)).log = [] := by
  rw [changeFiles, log_bind, log_get, value_get]
  simp

@[simp] theorem log_operate (operation : Logging.Backend → Logging.Operation) :
    (runIn session (operate operation)).log = [] := by
  rw [operate, log_bind, log_get, value_get]
  simp

end EmojiText.Procedure
