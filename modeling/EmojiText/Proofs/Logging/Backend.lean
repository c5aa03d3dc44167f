import EmojiText.Proofs.Session.Procedure

/-!
# What is asked of a backend

The operations on sinks may do anything to files, and may fail at any point. `Backend.Lawful` is
what a program relies on: an addition that succeeds adds one sink under a new number, after a
removal that succeeds no sink is left, and writing records leaves the sinks alone. Nothing is asked
of the sinks that a failed operation leaves. The usual backend is lawful, by `lawful_standard`.

From this follows what a procedure does to the count of sinks: it never goes down, so that the
numbers given out later are new. `Procedure.Counts` says so of a procedure and passes from its steps
to the whole.
-/

namespace EmojiText

namespace Logging

/-! ### Laws -/

/-- What a program relies on. -/
structure Backend.Lawful (backend : Backend) : Prop where
  /-- An addition that succeeds adds a sink for its handler, with a new number. -/
  add_ok : ∀ {handler : Handler} {before after : Surroundings},
    backend.add handler before = (.ok (), after) → ∃ sink : Sink, sink.handler = handler ∧
      before.logbook.added ≤ sink.number ∧ after.logbook.sinks = before.logbook.sinks ++ [sink]
  /-- After a removal that succeeds no sink is left. -/
  remove_ok : ∀ {before after : Surroundings},
    backend.removeAll before = (.ok (), after) → after.logbook.sinks = []
  /-- No number is given out twice, also where an operation fails. -/
  added_le_add : ∀ (handler : Handler) (before : Surroundings),
    before.logbook.added ≤ (backend.add handler before).2.logbook.added
  added_le_remove : ∀ before : Surroundings,
    before.logbook.added ≤ (backend.removeAll before).2.logbook.added
  /-- A record that is written changes no sinks. -/
  sinks_emit : ∀ (moment : Moment) (logbook : Logbook) (record : LogRecord),
    (backend.emit moment logbook record).sinks = logbook.sinks
  added_emit : ∀ (moment : Moment) (logbook : Logbook) (record : LogRecord),
    (backend.emit moment logbook record).added = logbook.added

namespace Backend.Lawful

variable {backend : Backend} {logbook : Logbook} {moment : Moment}

/-- Records that are written change no sinks. -/
theorem foldl_emit (h : backend.Lawful) (records : List LogRecord) :
    (records.foldl (backend.emit moment) logbook).sinks = logbook.sinks ∧
      (records.foldl (backend.emit moment) logbook).added = logbook.added := by
  induction records generalizing logbook with
  | nil => exact ⟨rfl, rfl⟩
  | cons record records ih =>
      rw [List.foldl_cons]
      exact ⟨ih.1.trans (h.sinks_emit moment logbook record),
        ih.2.trans (h.added_emit moment logbook record)⟩

end Backend.Lawful

/-! ### The usual backend -/

/-- The sink for the console is added if there is its level. -/
theorem add_console_eq_ok_iff {level : Text} {before after : Surroundings} :
    addConsole level before = (.ok (), after) ↔ ∃ known, Level.ofLabel? level = some known ∧
      { before with logbook := before.logbook.add (.console level) .console known } = after := by
  unfold addConsole
  cases Level.ofLabel? level with
  | none => simp
  | some known => simp

/-- The sink for a file is added if the file passes its check and can be opened. -/
theorem add_file_eq_ok_iff {file : LogFile} {before after : Surroundings} :
    addFile file before = (.ok (), after) ↔ ∃ path files,
      (file.check >>= fun _ => file.path before.moment before.files) = .ok path ∧
      before.files.change (openLog path) = (.ok (), files) ∧
      { before with
        files
        logbook := before.logbook.add (.file file) (.file path file.lineEnding) file.level }
          = after := by
  unfold addFile
  cases file.check >>= fun _ => file.path before.moment before.files with
  | error failure => simp
  | ok path =>
      rcases hopened : before.files.change (openLog path) with ⟨error | _, files⟩
      · simp [hopened]
      · simp [hopened]

/-- An addition by the usual backend only ever adds to the count of sinks. -/
theorem added_le_add_standard (handler : Handler) (before : Surroundings) :
    before.logbook.added ≤ (Backend.standard.add handler before).2.logbook.added := by
  cases handler with
  | console level =>
      change _ ≤ (addConsole level before).2.logbook.added
      unfold addConsole
      split
      · exact Nat.le_refl _
      · exact Nat.le_succ _
  | file file =>
      change _ ≤ (addFile file before).2.logbook.added
      unfold addFile
      split
      · exact Nat.le_refl _
      · split
        · exact Nat.le_refl _
        · exact Nat.le_succ _

namespace Logbook

/-- A record goes to a sink, and leaves all sinks as they are. -/
theorem write_to_kept (stamp : Text) (record : LogRecord) (logbook : Logbook) (sink : Sink) :
    (logbook.writeTo stamp record sink).sinks = logbook.sinks ∧
      (logbook.writeTo stamp record sink).added = logbook.added := by
  unfold writeTo
  split
  · exact ⟨rfl, rfl⟩
  · split <;> exact ⟨rfl, rfl⟩

theorem write_kept (moment : Moment) (logbook : Logbook) (record : LogRecord) :
    (logbook.write moment record).sinks = logbook.sinks ∧
      (logbook.write moment record).added = logbook.added := by
  refine List.foldlRecOn (motive := fun following : Logbook =>
    following.sinks = logbook.sinks ∧ following.added = logbook.added) _ _ ⟨rfl, rfl⟩ ?_
  intro following hkept sink _
  have hwritten := write_to_kept (stampOf moment) record following sink
  exact ⟨hwritten.1.trans hkept.1, hwritten.2.trans hkept.2⟩

end Logbook

/-- The usual backend is lawful. -/
theorem lawful_standard : Backend.standard.Lawful where
  add_ok := by
    intro handler before after h
    cases handler with
    | console level =>
        obtain ⟨known, _, rfl⟩ := add_console_eq_ok_iff.1 h
        exact ⟨_, rfl, Nat.le_refl _, rfl⟩
    | file file =>
        obtain ⟨path, files, _, _, rfl⟩ := add_file_eq_ok_iff.1 h
        exact ⟨_, rfl, Nat.le_refl _, rfl⟩
  remove_ok := by
    intro before after h
    cases h
    rfl
  added_le_add := added_le_add_standard
  added_le_remove _ := Nat.le_refl _
  sinks_emit moment logbook record := (Logbook.write_kept moment logbook record).1
  added_emit moment logbook record := (Logbook.write_kept moment logbook record).2

end Logging

namespace Procedure

variable {α β : Type}

/-! ### The count of sinks -/

/-- A procedure leaves the backend alone, and with a lawful one no number of a sink is given out
again, even if it fails. -/
def Counts (procedure : Procedure α) : Prop :=
  ∀ session : Session, session.backend.Lawful →
    (runIn session procedure).value.2.backend = session.backend ∧
      session.logbook.added ≤ (runIn session procedure).value.2.logbook.added

theorem counts_get : Counts (get : Procedure Session) := fun _ _ => ⟨rfl, Nat.le_refl _⟩

theorem counts_pure (a : α) : Counts (pure a : Procedure α) := fun _ _ => ⟨rfl, Nat.le_refl _⟩

theorem counts_of_except (outcome : Except Failure α) : Counts (ofExcept outcome) := by
  intro session _
  rw [value_of_except]
  exact ⟨rfl, Nat.le_refl _⟩

theorem counts_write (records : List LogRecord) : Counts (write records) := by
  intro session hlawful
  rw [value_write]
  exact ⟨rfl, Nat.le_of_eq (hlawful.foldl_emit records).2.symm⟩

theorem counts_change_files (change : FileChange α) : Counts (changeFiles change) := by
  intro session _
  rw [value_change_files]
  exact ⟨rfl, Nat.le_refl _⟩

/-- An operation counts the sinks if every lawful backend gives out no number again in it. -/
theorem counts_operate {operation : Logging.Backend → Logging.Operation}
    (h : ∀ backend : Logging.Backend, backend.Lawful → ∀ before : Logging.Surroundings,
      before.logbook.added ≤ (operation backend before).2.logbook.added) :
    Counts (operate operation) := by
  intro session hlawful
  rw [value_operate]
  exact ⟨rfl, h session.backend hlawful session.surroundings⟩

theorem counts_add (handler : Logging.Handler) : Counts (operate (·.add handler)) :=
  counts_operate fun _ hlawful => hlawful.added_le_add handler

theorem counts_remove_all : Counts (operate (·.removeAll)) :=
  counts_operate fun _ hlawful => hlawful.added_le_remove

/-- Two procedures count the sinks one after the other. -/
theorem Counts.bind {procedure : Procedure α} {next : α → Procedure β} (h : Counts procedure)
    (hnext : ∀ a, Counts (next a)) : Counts (procedure >>= next) := by
  intro session hlawful
  have hcounts := h session hlawful
  rw [value_bind]
  rcases hvalue : (runIn session procedure).value with ⟨failure | a, following⟩
  · rw [hvalue] at hcounts
    exact hcounts
  · rw [hvalue] at hcounts
    obtain ⟨hbackend, hadded⟩ := hcounts
    obtain ⟨hlast, hle⟩ := hnext a following (hbackend ▸ hlawful)
    exact ⟨hlast.trans hbackend, Nat.le_trans hadded hle⟩

theorem counts_perform (attempt : Attempt Failure α) : Counts (perform attempt) := by
  refine (counts_write _).bind fun _ => ?_
  cases attempt.outcome with
  | ok value => exact counts_pure value
  | error failure => exact counts_of_except (.error failure)

end Procedure

end EmojiText
