import EmojiText.Proofs.Engine.Run
import EmojiText.Proofs.Session.Procedure

/-!
# How a session makes its configuration and its engine

Both are made in steps that may fail, and what a step has changed before another one fails stays
changed. `GetsConfig` lists what getting the configuration may come to, `MakesEngine` the same of
making an engine; `gets_config` and `makes_engine` say that there are no other cases. An engine that
is made is the one for the configuration that the session then holds: it has its settings, and what
it publishes is what the file at the path of the configuration comes to, by `load_file_cases`.
-/

namespace EmojiText

/-! ### The engine of a configuration -/

namespace Engine

/-- A load of a file gives the engine after it, unless the load fails. -/
theorem outcome_load_file (engine : Engine) (files : FileTree) (path : Path) (room : Nat) :
    (engine.loadFile files path room).outcome
      = (engine.reply (.loadFile files path room)).map fun _ =>
          engine.after (.loadFile files path room) := by
  rw [loadFile, Call.outcome_attempt, reply, after, Request.call, Call.value_map]
  cases ((Call.loadFile files path room).runIn engine).value.1 <;> rfl

/-- The engine of a configuration before its dataset is loaded. -/
def unloaded (config : Config) : Engine :=
  Engine.new config.emojiSet (Session.engineSettings config)

/-- The request for the dataset of a configuration. -/
abbrev Request.ofConfig (config : Config) (files : FileTree) (room : Nat) : Request :=
  .loadFile files config.datasetFile room

/-- The engine is one for a configuration: it has the set of images, the addresses and the scale of
the configuration, and it publishes what the file at the path of the configuration comes to. -/
def MadeFor (config : Config) (files : FileTree) (room : Nat) (engine : Engine) : Prop :=
  ∃ loaded, ((Request.ofConfig config files room).effect .standard).loaded? = some loaded ∧
    Reflects (Session.engineSettings config) ⟨config.emojiSet, some loaded⟩ engine

/-- The first load of a configured engine makes it the one for its configuration, unless the dataset
is not even read. -/
theorem load_file_cases (config : Config) (files : FileTree) (room : Nat) :
    (∃ engine, ((unloaded config).loadFile files config.datasetFile room).outcome = .ok engine ∧
        engine.MadeFor config files room) ∨
      ∃ failure, ((unloaded config).loadFile files config.datasetFile room).outcome
          = .error failure ∧
        (Request.ofConfig config files room).effect .standard = .fail failure := by
  obtain ⟨hreply, hafter⟩ := (reflects_new config.emojiSet (Session.engineSettings config)).step
    (.ofConfig config files room)
  have hloads : ((Request.ofConfig config files room).effect .standard).chosen? = none :=
    chosen_of_loads rfl
  rw [outcome_load_file, show (unloaded config).reply _ = _ from hreply]
  -- the names of tones are the same for every configuration
  change Reflects _ (Standing.after _ (Request.effect .standard _)) _ at hafter
  cases heffect : (Request.ofConfig config files room).effect .standard with
  | publish records =>
      rw [heffect] at hafter
      refine .inl ⟨_, ?_, .ok records, congrArg Effect.loaded? heffect, hafter⟩
      exact congrArg (Except.map _ ∘ Effect.reply) heffect
  | clear cause =>
      rw [heffect] at hafter
      refine .inl ⟨_, ?_, .error cause, congrArg Effect.loaded? heffect, hafter⟩
      exact congrArg (Except.map _ ∘ Effect.reply) heffect
  | choose emojiSet =>
      rw [heffect] at hloads
      cases hloads
  | fail failure =>
      refine .inr ⟨failure, ?_, rfl⟩
      exact congrArg (Except.map _ ∘ Effect.reply) heffect

end Engine

namespace Session

open Procedure

variable {session following : Session}

/-! ### Getting the configuration -/

/-- What getting the configuration may come to: the one that is held, a refusal of the values it
would be made from, or a new one, which is held even if the report on it fails. -/
inductive GetsConfig (session : Session) : Except Failure (Made Config) → Session → Prop where
  | held {config : Made Config} (h : session.config = some config) :
      GetsConfig session (.ok config) session
  | refused {failure : Failure} (hnone : session.config = none)
      (hload : Config.load [] session.environment session.files session.rules = .error failure) :
      GetsConfig session (.error failure) session
  | loaded {config : Config} {logbook : Logging.Logbook} (hnone : session.config = none)
      (hload : Config.load [] session.environment session.files session.rules = .ok config) :
      GetsConfig session
        ((config.inspect session.files).outcome.map fun _ => ⟨session.made, config⟩)
        { session with config := some ⟨session.made, config⟩, made := session.made + 1, logbook }

@[simp] theorem value_number {α : Type} (a : α) :
    (runIn session (number a)).value
      = (.ok ⟨session.made, a⟩, { session with made := session.made + 1 }) := by
  simp [number, Except.map]

/-- Getting the configuration comes to nothing else. -/
theorem gets_config (session : Session) :
    GetsConfig session (runIn session getConfig).value.1 (runIn session getConfig).value.2 := by
  cases hconfig : session.config with
  | some config =>
      have hvalue : (runIn session getConfig).value = (.ok config, session) := by
        simp [getConfig, hconfig]
      rw [hvalue]
      exact .held hconfig
  | none =>
      cases hload : Config.load [] session.environment session.files session.rules with
      | error failure =>
          have hvalue : (runIn session getConfig).value = (.error failure, session) := by
            simp [getConfig, hconfig, hload]
          rw [hvalue]
          exact .refused hconfig hload
      | ok config =>
          have hmade : ∀ logbook, GetsConfig session
              ((config.inspect session.files).outcome.map fun _ => ⟨session.made, config⟩)
              { session with
                config := some ⟨session.made, config⟩, made := session.made + 1, logbook } :=
            fun _ => .loaded hconfig hload
          cases hinspect : (config.inspect session.files).outcome <;>
            simpa [getConfig, hconfig, hload, hinspect, Except.map] using hmade _

/-- The configuration that was got is held from then on. Either it was held before, or there was
none and the environment and the files give it. -/
theorem GetsConfig.config_eq {config : Made Config}
    (h : GetsConfig session (.ok config) following) :
    following.config = some config ∧ (session.config = some config ∨
      session.config = none ∧
        Config.load [] session.environment session.files session.rules = .ok config.value) := by
  generalize houtcome : (Except.ok config : Except Failure (Made Config)) = outcome at h
  cases h with
  | held hheld =>
      cases houtcome
      exact ⟨hheld, .inl hheld⟩
  | refused => cases houtcome
  | @loaded value _ hnone hload =>
      cases hinspect : (value.inspect session.files).outcome with
      | error failure =>
          rw [hinspect] at houtcome
          cases houtcome
      | ok =>
          rw [hinspect] at houtcome
          cases houtcome
          exact ⟨rfl, .inr ⟨hnone, hload⟩⟩

/-! ### Making an engine -/

/-- A step that goes on from a session may number more things and write to the log, but the
environment, the files, the engine and the room for nested values stay. -/
structure GoesOn (session following : Session) : Prop where
  environment_eq : following.environment = session.environment
  files_eq : following.files = session.files
  engine_eq : following.engine = session.engine
  room_eq : following.room = session.room
  made_le : session.made ≤ following.made

/-- Getting the configuration changes neither the engine nor what the configuration is read from. -/
theorem GetsConfig.goes_on {outcome : Except Failure (Made Config)}
    (h : GetsConfig session outcome following) : GoesOn session following := by
  cases h with
  | held | refused => exact ⟨rfl, rfl, rfl, rfl, Nat.le_refl _⟩
  | loaded => exact ⟨rfl, rfl, rfl, rfl, Nat.le_succ _⟩

/-- What making an engine may come to: there is no configuration to be had, the dataset is not even
read, or there is a new engine for the configuration. It is the caller that holds on to it. -/
inductive MakesEngine (session : Session) : Except Failure (Made Engine) → Session → Prop where
  | unconfigured {failure : Failure} {following : Session}
      (hconfig : GetsConfig session (.error failure) following) :
      MakesEngine session (.error failure) following
  | refused {config : Made Config} {following : Session} {failure : Failure}
      {logbook : Logging.Logbook} (hconfig : GetsConfig session (.ok config) following)
      (hload : (Engine.Request.ofConfig config.value session.files session.room).effect .standard
        = .fail failure) :
      MakesEngine session (.error failure) { following with logbook }
  | made {config : Made Config} {following : Session} {engine : Engine}
      {logbook : Logging.Logbook} (hconfig : GetsConfig session (.ok config) following)
      (hmade : engine.MadeFor config.value session.files session.room) :
      MakesEngine session (.ok ⟨following.made, engine⟩)
        { following with made := following.made + 1, logbook }

/-- Making an engine comes to nothing else. -/
theorem makes_engine (session : Session) :
    MakesEngine session (runIn session makeEngine).value.1 (runIn session makeEngine).value.2 := by
  have hgets := gets_config session
  rcases hvalue : (runIn session getConfig).value with ⟨failure | config, following⟩
  · rw [hvalue] at hgets
    simpa [makeEngine, hvalue] using MakesEngine.unconfigured hgets
  · rw [hvalue] at hgets
    have hfiles : following.files = session.files := hgets.goes_on.files_eq
    have hroom : following.room = session.room := hgets.goes_on.room_eq
    rcases Engine.load_file_cases config.value session.files session.room with
      ⟨engine, houtcome, hmade⟩ | ⟨failure, houtcome, hload⟩
    · simp only [Engine.unloaded] at houtcome
      simpa [makeEngine, hvalue, hfiles, hroom, houtcome] using MakesEngine.made hgets hmade
    · simp only [Engine.unloaded] at houtcome
      simpa [makeEngine, hvalue, hfiles, hroom, houtcome] using MakesEngine.refused hgets hload

/-- Making an engine does not replace the one that is held. -/
theorem MakesEngine.goes_on {outcome : Except Failure (Made Engine)}
    (h : MakesEngine session outcome following) : GoesOn session following := by
  cases h with
  | unconfigured hconfig => exact hconfig.goes_on
  | refused hconfig => exact { hconfig.goes_on with }
  | made hconfig =>
      exact { hconfig.goes_on with made_le := hconfig.goes_on.made_le.trans (Nat.le_succ _) }

end Session

end EmojiText
