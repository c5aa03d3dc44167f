import EmojiText.Logging.SetUp
import EmojiText.Proofs.Session.Procedure

/-!
# What a session holds on to

Writing to the log and to files leaves alone what a session has made. `Procedure.Keeps` says so of a
procedure, whether it succeeds or fails, and passes from its steps to the whole. Setting up the log
keeps everything that was made, by `keeps_set_up`, and once there is a configuration it is set up
from this one, by `holdings_set_up_from_config`.
-/

namespace EmojiText

/-- What a session has made so far, and how often something was made. -/
def Session.holdings (session : Session) : Option (Made Config) × Option (Made Engine) × Nat :=
  (session.config, session.engine, session.made)

namespace Procedure

variable {α β : Type}

/-- A procedure leaves alone what the session has made, even if it fails. -/
def Keeps (procedure : Procedure α) : Prop :=
  ∀ session, (runIn session procedure).value.2.holdings = session.holdings

theorem keeps_pure (a : α) : Keeps (pure a : Procedure α) := fun _ => rfl

theorem keeps_write (records : List LogRecord) : Keeps (write records) := fun _ => rfl

/-- Two procedures that keep what was made keep it one after the other. -/
theorem Keeps.bind {procedure : Procedure α} {next : α → Procedure β} (h : Keeps procedure)
    (hnext : ∀ a, Keeps (next a)) : Keeps (procedure >>= next) := by
  intro session
  have hkept := h session
  rw [value_bind]
  rcases hvalue : (runIn session procedure).value with ⟨failure | a, following⟩
  · rw [hvalue] at hkept
    exact hkept
  · rw [hvalue] at hkept
    exact (hnext a following).trans hkept

/-- Files can be changed without touching what was made. -/
theorem keeps_change_files (change : FileChange α) : Keeps (changeFiles change) := by
  intro session
  rw [value_change_files]
  rfl

/-- An operation on sinks does not touch what was made. -/
theorem keeps_operate (operation : Logging.Backend → Logging.Operation) :
    Keeps (operate operation) := by
  intro session
  rw [value_operate]
  rfl

end Procedure

namespace Logging

open Procedure

/-- Adding sinks keeps what was made. -/
theorem keeps_add_all (handlers : List Handler) : Keeps (addAll handlers) := by
  induction handlers with
  | nil => exact keeps_pure ()
  | cons handler handlers ih => exact (keeps_operate _).bind fun _ => ih

/-- Setting up the log keeps what was made. -/
theorem keeps_set_up (options : Options) : Keeps (setUp options) := by
  have hsinks : Keeps (replaceSinks options) :=
    (keeps_change_files _).bind fun _ => (keeps_operate _).bind fun _ => keeps_add_all _
  exact hsinks.bind fun _ => keeps_write _

/-- Once there is a configuration, a set-up from it keeps what was made, and so does the set-up with
the default options in its place. -/
theorem holdings_set_up_from_config {session : Session} {config : Made Config}
    (h : session.config = some config) :
    (runIn session setUpFromConfig).value.2.holdings = session.holdings := by
  have hconfig : (runIn session Session.getConfig).value = (.ok config, session) := by
    simp [Session.getConfig, h]
  have hkept := keeps_set_up (.ofConfig config.value) session
  rw [setUpFromConfig, value_try_catch, value_bind, hconfig]
  dsimp only
  rcases hvalue : (runIn session (setUp (.ofConfig config.value))).value
    with ⟨failure | _, following⟩
  · rw [hvalue] at hkept
    have hfallback : Keeps (do
        setUp {}
        write [⟨.error, some origin, fallbackMessage failure⟩]) :=
      (keeps_set_up {}).bind fun _ => keeps_write _
    exact (hfallback following).trans hkept
  · rw [hvalue] at hkept
    exact hkept

end Logging

end EmojiText
