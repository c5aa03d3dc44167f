import EmojiText.Proofs.Logging.Standard

/-!
# Setting up the log from the configuration

The set-up from the configuration of a session may stop anywhere: before there is a configuration,
before the sinks of an earlier set-up are removed, or with some of its own added. It is followed by
one with the default options, which cleans up after it. So exactly the sinks of one set-up are in
use afterwards, and an error is reported exactly if it is the one with the default options. The main
statement is `set_up_from_config_recovers`, for every lawful backend.
-/

namespace EmojiText

/-! ### What is reported as an error -/

/-- The errors among records. -/
def errorsOf (records : List LogRecord) : List LogRecord := records.filter (·.level = .error)

theorem errors_append (first second : List LogRecord) :
    errorsOf (first ++ second) = errorsOf first ++ errorsOf second := List.filter_append _ _

namespace Procedure

variable {α β : Type}

/-- A procedure reports no error, even if it fails. -/
def Quiet (procedure : Procedure α) : Prop :=
  ∀ session, errorsOf (runIn session procedure).log = []

theorem quiet_get : Quiet (get : Procedure Session) := fun _ => rfl

theorem quiet_pure (a : α) : Quiet (pure a : Procedure α) := fun _ => rfl

theorem quiet_modify (change : Session → Session) : Quiet (modify change : Procedure Unit) :=
  fun _ => rfl

theorem quiet_of_except (outcome : Except Failure α) : Quiet (ofExcept outcome) := by
  intro session
  rw [log_of_except]
  rfl

theorem quiet_change_files (change : FileChange α) : Quiet (changeFiles change) := by
  intro session
  rw [log_change_files]
  rfl

theorem quiet_operate (operation : Logging.Backend → Logging.Operation) :
    Quiet (operate operation) := by
  intro session
  rw [log_operate]
  rfl

theorem quiet_write {records : List LogRecord} (h : errorsOf records = []) :
    Quiet (write records) := by
  intro session
  rw [log_write, h]

theorem quiet_perform {attempt : Attempt Failure α} (h : errorsOf attempt.log = []) :
    Quiet (perform attempt) := by
  intro session
  rw [log_perform, h]

/-- Two procedures that report no error report none one after the other. -/
theorem Quiet.bind {procedure : Procedure α} {next : α → Procedure β} (h : Quiet procedure)
    (hnext : ∀ a, Quiet (next a)) : Quiet (procedure >>= next) := by
  intro session
  rw [log_bind, errors_append, h session, List.nil_append]
  rcases (runIn session procedure).value with ⟨failure | a, following⟩
  · rfl
  · exact hnext a following

end Procedure

namespace Session

open Procedure

/-- The report on a configuration has no error. -/
theorem errors_of_inspect (config : Config) (files : FileTree) :
    errorsOf (config.inspect files).log = [] := by
  unfold Config.inspect
  split
  · rfl
  · rename_i found hfound
    cases found <;> rfl

/-- Getting the configuration reports no error. -/
theorem quiet_get_config : Quiet getConfig := by
  refine quiet_get.bind fun session => ?_
  cases session.config with
  | some config => exact quiet_pure config
  | none =>
      refine (quiet_of_except _).bind fun config => ?_
      refine Quiet.bind ?_ fun config => ?_
      · exact quiet_get.bind fun _ => Quiet.bind (fun _ => rfl) fun _ => quiet_pure _
      · exact (quiet_modify _).bind fun _ =>
          (quiet_perform (errors_of_inspect _ _)).bind fun _ => quiet_pure _

/-- Getting the configuration counts the sinks: it adds none and writes to those in use only. -/
theorem counts_get_config : Counts getConfig := by
  refine counts_get.bind fun session => ?_
  cases session.config with
  | some config => exact counts_pure config
  | none =>
      refine (counts_of_except _).bind fun config => ?_
      refine Counts.bind (fun _ _ => ⟨rfl, Nat.le_refl _⟩) fun config => ?_
      exact Counts.bind (fun _ _ => ⟨rfl, Nat.le_refl _⟩) fun _ =>
        (counts_perform _).bind fun _ => counts_pure _

end Session

namespace Logging

open Procedure

theorem quiet_add_all (handlers : List Handler) : Quiet (addAll handlers) := by
  induction handlers with
  | nil => exact quiet_pure ()
  | cons handler handlers ih => exact (quiet_operate _).bind fun _ => ih

/-- A set-up reports no error. -/
theorem quiet_set_up (options : Options) : Quiet (setUp options) := by
  have hsinks : Quiet (replaceSinks options) :=
    (quiet_change_files _).bind fun _ => (quiet_operate _).bind fun _ => quiet_add_all _
  exact hsinks.bind fun _ => quiet_write rfl

/-! ### From the configuration -/

/-- The set-up with the options that the configuration holds. -/
def setUpConfigured : Procedure Unit := do
  let config ← Session.getConfig
  setUp (.ofConfig config.value)

/-- The set-up with the default options in the place of one that failed. -/
def setUpDefault (failure : Failure) : Procedure Unit := do
  setUp {}
  write [⟨.error, some origin, fallbackMessage failure⟩]

theorem set_up_from_config_eq : setUpFromConfig = tryCatch setUpConfigured setUpDefault := rfl

variable {session start final : Session} {failure : Failure}

/-- The set-up from the configuration succeeds exactly if there is one and its options are those of
a set-up that succeeds. -/
theorem value_set_up_configured_eq_ok_iff :
    (runIn session setUpConfigured).value = (.ok (), final) ↔
      ∃ config start, (runIn session Session.getConfig).value = (.ok config, start) ∧
        (runIn start (setUp (.ofConfig config.value))).value = (.ok (), final) :=
  value_bind_eq_ok_iff

theorem quiet_set_up_configured : Quiet setUpConfigured :=
  Session.quiet_get_config.bind fun _ => quiet_set_up _

theorem counts_set_up_configured : Counts setUpConfigured :=
  Session.counts_get_config.bind fun _ => counts_set_up _

/-- The sinks of a set-up are newer than those of a session before it. -/
theorem Installed.newer_of_counts {options : Options} (h : Installed options start final)
    (hadded : session.logbook.added ≤ start.logbook.added) : NewerSinks session final :=
  newer_of_added_le fun sink hmem => Nat.le_trans hadded (h.added_le sink hmem)

/-- If its sinks can take the place of those in use, the set-up with the default options succeeds,
and the failure that led to it is the only error that it reports. -/
theorem set_up_default_of_ready (failure : Failure) (hlawful : session.backend.Lawful)
    (h : ∃ ready, (runIn session (replaceSinks {})).value = (.ok (), ready)) :
    ∃ final, (runIn session (setUpDefault failure)).value = (.ok (), final) ∧
      Installed {} session final ∧
      errorsOf (runIn session (setUpDefault failure)).log
        = [⟨.error, some origin, fallbackMessage failure⟩] := by
  obtain ⟨ready, hready⟩ := h
  have hset : (runIn session (setUp {})).value
      = (.ok (), (runIn ready (write (reports {}))).value.2) :=
    value_set_up_eq_ok_iff.2 ⟨ready, hready, rfl⟩
  have hbackend := (counts_set_up {} session hlawful).1
  have hinstalled := installed_of_set_up hlawful hset
  rw [hset] at hbackend
  refine ⟨_, by rw [setUpDefault, value_bind, hset]; rfl,
    hinstalled.write (hbackend ▸ hlawful) _, ?_⟩
  rw [setUpDefault, log_bind, errors_append, quiet_set_up, hset]
  simp only [log_write]
  rfl

/-- Whatever stops the set-up from the configuration, and wherever it does, the sinks of exactly one
set-up are in use afterwards, and none from before: those of the configuration if it succeeds, and
those of the default options if not, none of which was added by the attempt that failed. An error is
reported in the second case only. The backend may be any lawful one, and all that is asked for is
that the steps with the default options succeed where they are reached. -/
theorem set_up_from_config_recovers (session : Session) (hlawful : session.backend.Lawful)
    (hfallback : ∀ failure left, (runIn session setUpConfigured).value = (.error failure, left) →
      ∃ ready, (runIn left (replaceSinks {})).value = (.ok (), ready)) :
    let errors := errorsOf (runIn session setUpFromConfig).log
    ∃ final, (runIn session setUpFromConfig).value = (.ok (), final) ∧ NewerSinks session final ∧
      ((∃ config start, (runIn session Session.getConfig).value = (.ok config, start) ∧
          (runIn start (setUp (.ofConfig config.value))).value = (.ok (), final) ∧
          Installed (.ofConfig config.value) start final ∧ errors = []) ∨
        ∃ failure left, (runIn session setUpConfigured).value = (.error failure, left) ∧
          (runIn left (setUpDefault failure)).value = (.ok (), final) ∧
          Installed {} left final ∧ errors = [⟨.error, some origin, fallbackMessage failure⟩]) := by
  intro errors
  have herrors : errors = errorsOf (runIn session (tryCatch setUpConfigured setUpDefault)).log :=
    rfl
  rw [log_try_catch, errors_append, quiet_set_up_configured, List.nil_append] at herrors
  rw [set_up_from_config_eq, value_try_catch]
  rcases hvalue : (runIn session setUpConfigured).value with ⟨failure | _, following⟩
  · rw [hvalue] at herrors
    obtain ⟨hbackend, hadded⟩ := counts_set_up_configured session hlawful
    rw [hvalue] at hbackend hadded
    obtain ⟨final, hfinal, hinstalled, hreported⟩ := set_up_default_of_ready failure
      (hbackend ▸ hlawful) (hfallback failure following hvalue)
    exact ⟨final, hfinal, hinstalled.newer_of_counts hadded,
      .inr ⟨failure, following, rfl, hfinal, hinstalled, herrors.trans hreported⟩⟩
  · rw [hvalue] at herrors
    obtain ⟨config, start, hconfig, hset⟩ := value_set_up_configured_eq_ok_iff.1 hvalue
    obtain ⟨hbackend, hadded⟩ := Session.counts_get_config session hlawful
    rw [hconfig] at hbackend hadded
    have hinstalled := installed_of_set_up (hbackend ▸ hlawful) hset
    exact ⟨following, rfl, hinstalled.newer_of_counts hadded,
      .inl ⟨config, start, hconfig, hset, hinstalled, herrors⟩⟩

/-- A log directory that may not be created stops the set-up while the sink from before is there. -/
example :
    let session : Session := {
      environment := Table.ofList [("LOG_DIR", "srv/logs")]
      files := {
        workingDirectory := [], nodes := Table.ofList [(["srv"], .directory)]
        guarded := Table.ofList [(["srv"], .accessDenied)] }
      logbook := Logbook.empty.add (.console "INFO") .console .info
      moment := ⟨0, 0, true⟩ }
    let numbers (procedure : Procedure Unit) :=
      (runIn session procedure).value.2.logbook.sinks.map Sink.number
    numbers setUpConfigured = [0] ∧ numbers setUpFromConfig = [1, 2, 3] := by
  decide +kernel

/-- A text that does not say when files are renewed stops the set-up when the sink from before is
gone and the one for the console is there. Neither that one nor this one is left in the end,
although the one from before was for a console of the same level as the one that is there then. -/
theorem set_up_from_config_recovers_of_unknown_rotation :
    let session : Session := {
      environment := Table.ofList [("LOG_LEVEL", "debug"), ("LOG_ROTATION", "often")]
      files := .empty []
      logbook := Logbook.empty.add (.console "INFO") .console .info
      moment := ⟨0, 0, true⟩ }
    let stopped := (runIn session setUpConfigured).value.2
    session.backend.Lawful ∧ session.logbook.sinks = [⟨0, .console "INFO", .console, .info⟩] ∧
      stopped.logbook.sinks = [⟨1, .console "DEBUG", .console, .debug⟩] ∧
      (∃ ready, (runIn stopped (replaceSinks {})).value = (.ok (), ready)) ∧
      ∃ final, (runIn session setUpFromConfig).value = (.ok (), final) ∧
        NewerSinks session final ∧ Installed {} stopped final ∧
        (errorsOf (runIn session setUpFromConfig).log).length = 1 := by
  intro session stopped
  have hvalue : (runIn session setUpConfigured).value.2 = stopped := rfl
  have hready : ∃ ready, (runIn stopped (replaceSinks {})).value = (.ok (), ready) :=
    (replace_sinks_default_iff rfl).2 (by decide +kernel)
  have hfailed : (runIn session setUpConfigured).value.1.isOk = false := by decide +kernel
  refine ⟨lawful_standard, rfl, by decide +kernel, hready, ?_⟩
  have hlawful : session.backend.Lawful := lawful_standard
  -- from here on the session need not be looked into
  clear_value stopped session
  obtain ⟨final, hfinal, hnewer, hcases⟩ := set_up_from_config_recovers session hlawful
    fun failure left hleft => by
      rw [hleft] at hvalue
      obtain rfl : left = stopped := hvalue
      exact hready
  refine ⟨final, hfinal, hnewer, ?_⟩
  rcases hcases with ⟨config, start, hconfig, hset, _⟩ | ⟨_, left, hleft, _, hinstalled, herrors⟩
  · rw [value_set_up_configured_eq_ok_iff.2 ⟨config, start, hconfig, hset⟩] at hfailed
    cases hfailed
  · rw [hleft] at hvalue
    obtain rfl : left = stopped := hvalue
    exact ⟨hinstalled, by rw [herrors]; rfl⟩

end Logging

end EmojiText
