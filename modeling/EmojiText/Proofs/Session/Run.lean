import EmojiText.Proofs.Session.Making

/-!
# Which engine a session holds

The variables and the files of a session change in between questions for its configuration and its
engine. Things that are made are told apart by their numbers: a transition creates an engine if it
returns one with a number that was not given out before. `Transition.Lawful` says which engine is
held after a transition, when one is created, and for which configuration; every transition is lawful
(`lawful_transition`). So a session holds the engine that was created last, whatever else has
happened to it. The main statement is `engine_of_last_creation`.
-/

namespace EmojiText.Session

open Procedure

/-- What may happen to a session. -/
inductive Event where
  | setEnvironment (environment : Table Text Text)
  | setFiles (files : FileTree)
  | getConfig
  | reloadConfig
  | getEngine
  | reloadEngine

/-- What is returned by an event. -/
inductive Reply where
  | nothing
  | config (config : Made Config)
  | engine (engine : Made Engine)

/-- The procedure that an event carries out. -/
def Event.procedure : Event → Procedure Reply
  | setEnvironment environment =>
    (fun _ => .nothing) <$> modify fun session => { session with environment }
  | setFiles files => (fun _ => .nothing) <$> modify fun session => { session with files }
  | getConfig => .config <$> Session.getConfig
  | reloadConfig => .config <$> Session.reloadConfig
  | getEngine => .engine <$> Session.getEngine
  | reloadEngine => .engine <$> Session.reloadEngine

/-- One event, with the session before it, the session after it and what it returned. -/
structure Transition where
  before : Session
  event : Event
  reply : Except Failure Reply
  after : Session

/-- The transition of a session at an event. -/
def transition (session : Session) (event : Event) : Transition :=
  let value := (runIn session event.procedure).value
  ⟨session, event, value.1, value.2⟩

/-- The transitions of a session at events, one after the other. -/
def transitions (session : Session) : List Event → List Transition
  | [] => []
  | event :: events =>
    session.transition event :: (session.transition event).after.transitions events

/-- The session after events, one after the other. -/
def afterAll (session : Session) (events : List Event) : Session :=
  events.foldl (fun session event => (session.transition event).after) session

namespace Transition

/-- The engine that a transition creates: the one it returns, if it has a new number. -/
def created? (transition : Transition) : Option (Made Engine) :=
  match transition.reply with
  | .ok (.engine engine) => if transition.before.made ≤ engine.number then some engine else none
  | _ => none

/-- A transition asks for a new engine by a reload, or by a question for one while there is none. -/
def AsksForNew (transition : Transition) : Prop :=
  transition.event = .reloadEngine ∨
    transition.event = .getEngine ∧ transition.before.engine = none

/-- There can be no engine: no configuration is to be had, or its dataset cannot even be read. -/
def Prevented (transition : Transition) (failure : Failure) : Prop :=
  GetsConfig transition.before (.error failure) transition.after ∨
    ∃ config, transition.after.config = some config ∧
      (Engine.Request.ofConfig config.value transition.before.files
        transition.before.room).effect .standard = .fail failure

/-- An engine is the one for the configuration that is held after a transition, with the dataset from
the files before it. That configuration was held before, unless there was none and the environment
and the files gave it. -/
def Configures (transition : Transition) (engine : Made Engine) : Prop :=
  ∃ config, transition.after.config = some config ∧
    engine.value.MadeFor config.value transition.before.files transition.before.room ∧
    (transition.before.config = some config ∨ transition.before.config = none ∧
      Config.load [] transition.before.environment transition.before.files
        transition.before.rules = .ok config.value)

/-- What holds of the engine at a transition. -/
structure Lawful (transition : Transition) : Prop where
  /-- The engine that is created is held from then on, and otherwise the one from before. -/
  engine_eq : transition.after.engine = transition.created?.or transition.before.engine
  /-- An engine is created where a new one is asked for, or it is said why there can be none. -/
  created_or_prevented : transition.AsksForNew →
    (∃ engine, transition.reply = .ok (.engine engine) ∧ transition.created? = some engine) ∨
      ∃ failure, transition.reply = .error failure ∧ transition.Prevented failure
  /-- Anything else creates none and leaves the engine alone. -/
  engine_kept : ¬ transition.AsksForNew →
    transition.created? = none ∧ transition.after.engine = transition.before.engine
  /-- Where there is an engine, a question for it returns that one and changes nothing. -/
  engine_returned : ∀ engine, transition.event = .getEngine →
    transition.before.engine = some engine →
      transition.reply = .ok (.engine engine) ∧ transition.after = transition.before
  /-- An engine is created for the configuration that is then held. -/
  configures : ∀ engine, transition.created? = some engine → transition.Configures engine
  /-- A failure leaves the engine as it was. -/
  engine_of_error : ∀ failure, transition.reply = .error failure →
    transition.after.engine = transition.before.engine
  /-- Numbers are not given out again. -/
  made_le : transition.before.made ≤ transition.after.made
  /-- The number of an engine that is created is given out. -/
  number_lt : ∀ engine, transition.created? = some engine → engine.number < transition.after.made

variable {transition : Transition} {engine : Made Engine} {failure : Failure}

/-- The engine that is created is the one that is returned, and its number is a new one. -/
theorem created_eq_some_iff :
    transition.created? = some engine ↔ transition.reply = .ok (.engine engine) ∧
      transition.before.made ≤ engine.number := by
  unfold created?
  rcases transition.reply with failure | _ | config | returned
  · simp
  · simp
  · simp
  · simp only [Option.ite_none_right_eq_some, Option.some.injEq, Except.ok.injEq,
      Reply.engine.injEq]
    constructor
    · rintro ⟨hle, rfl⟩
      exact ⟨rfl, hle⟩
    · rintro ⟨rfl, hle⟩
      exact ⟨hle, rfl⟩

/-- No engine is created where none with a new number is returned. -/
theorem created_eq_none (h : ∀ engine, transition.reply = .ok (.engine engine) →
    engine.number < transition.before.made) : transition.created? = none := by
  rw [Option.eq_none_iff_forall_ne_some]
  intro engine hsome
  obtain ⟨hreply, hle⟩ := created_eq_some_iff.1 hsome
  exact absurd (h engine hreply) (Nat.not_lt.2 hle)

/-- A question for the engine that asks for a new one is asked while there is none. -/
theorem AsksForNew.engine_eq_none (h : transition.AsksForNew)
    (hevent : transition.event = .getEngine) : transition.before.engine = none := by
  rcases h with hreload | ⟨_, hnone⟩
  · cases hevent.symm.trans hreload
  · exact hnone

/-- A transition that does not ask for a new engine is lawful, if it leaves the engine alone. -/
theorem lawful_of_kept (hasks : ¬ transition.AsksForNew)
    (hevent : transition.event ≠ .getEngine)
    (hreply : ∀ engine, transition.reply ≠ .ok (.engine engine))
    (hengine : transition.after.engine = transition.before.engine)
    (hmade : transition.before.made ≤ transition.after.made) : transition.Lawful := by
  have hcreated : transition.created? = none :=
    created_eq_none fun engine h => absurd h (hreply engine)
  constructor
  case engine_eq =>
    rw [hcreated]
    exact hengine
  case created_or_prevented => exact fun h => absurd h hasks
  case engine_kept => exact fun _ => ⟨hcreated, hengine⟩
  case engine_returned => exact fun _ h => absurd h hevent
  case configures => simp [hcreated]
  case engine_of_error => exact fun _ _ => hengine
  case made_le => exact hmade
  case number_lt => simp [hcreated]

/-- A transition that returns the engine that is held, and changes nothing, is lawful. -/
theorem lawful_of_held (hevent : transition.event = .getEngine)
    (hheld : transition.before.engine = some engine)
    (hnumber : engine.number < transition.before.made)
    (hreply : transition.reply = .ok (.engine engine))
    (hafter : transition.after = transition.before) : transition.Lawful := by
  have hcreated : transition.created? = none := by
    refine created_eq_none fun other hother => ?_
    cases hreply.symm.trans hother
    exact hnumber
  constructor
  case engine_eq => rw [hcreated, hafter, Option.none_or]
  case created_or_prevented =>
    intro hasks
    cases (hasks.engine_eq_none hevent).symm.trans hheld
  case engine_kept => exact fun _ => ⟨hcreated, by rw [hafter]⟩
  case engine_returned =>
    intro other _ hother
    cases hheld.symm.trans hother
    exact ⟨hreply, hafter⟩
  case configures => simp [hcreated]
  case engine_of_error => exact fun _ _ => by rw [hafter]
  case made_le => rw [hafter]
  case number_lt => simp [hcreated]

/-- A transition that asks for a new engine and cannot get one is lawful. -/
theorem lawful_of_prevented (hasks : transition.AsksForNew)
    (hreply : transition.reply = .error failure) (hprevented : transition.Prevented failure)
    (hgoes : GoesOn transition.before transition.after) : transition.Lawful := by
  have hcreated : transition.created? = none := created_eq_none (by simp [hreply])
  constructor
  case engine_eq =>
    rw [hcreated]
    exact hgoes.engine_eq
  case created_or_prevented => exact fun _ => .inr ⟨failure, hreply, hprevented⟩
  case engine_kept => exact fun h => absurd hasks h
  case engine_returned =>
    intro other hevent hother
    cases (hasks.engine_eq_none hevent).symm.trans hother
  case configures => simp [hcreated]
  case engine_of_error => exact fun _ _ => hgoes.engine_eq
  case made_le => exact hgoes.made_le
  case number_lt => simp [hcreated]

/-- A transition that asks for a new engine and gets one is lawful. -/
theorem lawful_of_created (hasks : transition.AsksForNew)
    (hreply : transition.reply = .ok (.engine engine))
    (hnew : transition.before.made ≤ engine.number)
    (hnumber : engine.number < transition.after.made)
    (hheld : transition.after.engine = some engine) (hconfigures : transition.Configures engine) :
    transition.Lawful := by
  have hcreated : transition.created? = some engine := created_eq_some_iff.2 ⟨hreply, hnew⟩
  constructor
  case engine_eq =>
    rw [hcreated]
    exact hheld
  case created_or_prevented => exact fun _ => .inl ⟨engine, hreply, hcreated⟩
  case engine_kept => exact fun h => absurd hasks h
  case engine_returned =>
    intro other hevent hother
    cases (hasks.engine_eq_none hevent).symm.trans hother
  case configures =>
    intro other hother
    cases hcreated.symm.trans hother
    exact hconfigures
  case engine_of_error =>
    intro failure hfailure
    cases hreply.symm.trans hfailure
  case made_le => exact hnew.trans hnumber.le
  case number_lt =>
    intro other hother
    cases hcreated.symm.trans hother
    exact hnumber

end Transition

variable {session : Session}

/-! ### One event -/

/-- The number of the engine that is held was given out before. -/
def Numbered (session : Session) : Prop :=
  ∀ engine, session.engine = some engine → engine.number < session.made

/-- After a lawful transition the number of the engine that is held was given out, too. -/
theorem Numbered.after {transition : Transition} (h : transition.before.Numbered)
    (hlawful : transition.Lawful) : transition.after.Numbered := by
  intro engine hengine
  rw [hlawful.engine_eq, Option.or_eq_some_iff] at hengine
  rcases hengine with hcreated | ⟨_, hheld⟩
  · exact hlawful.number_lt engine hcreated
  · exact (h engine hheld).trans_le hlawful.made_le

/-- A transition that gets the configuration, whether of the session or of the session without it,
is lawful. -/
theorem lawful_of_gets_config (start : Session) {transition : Transition}
    (hevent : transition.event = .getConfig ∨ transition.event = .reloadConfig)
    (hreply : transition.reply = (runIn start getConfig).value.1.map Reply.config)
    (hafter : transition.after = (runIn start getConfig).value.2)
    (hengine : start.engine = transition.before.engine)
    (hmade : start.made = transition.before.made) : transition.Lawful := by
  have hgoes := (gets_config start).goes_on
  have hquiet : transition.event ≠ .getEngine ∧ transition.event ≠ .reloadEngine := by
    rcases hevent with h | h <;> simp [h]
  refine Transition.lawful_of_kept ?_ hquiet.1 ?_ ?_ ?_
  · rintro (h | ⟨h, _⟩)
    · exact hquiet.2 h
    · exact hquiet.1 h
  · intro engine h
    rw [hreply] at h
    cases hgot : (runIn start getConfig).value.1 <;>
      · rw [hgot] at h
        cases h
  · rw [hafter, hgoes.engine_eq, hengine]
  · rw [hafter, ← hmade]
    exact hgoes.made_le

/-- A reload holds on to the engine that is made. -/
theorem value_reload_engine :
    (runIn session reloadEngine).value
      = match (runIn session makeEngine).value with
        | (.ok engine, following) => (.ok engine, { following with engine := some engine })
        | (.error failure, following) => (.error failure, following) := by
  rw [reloadEngine, value_bind]
  rcases (runIn session makeEngine).value with ⟨failure | engine, following⟩
  · rfl
  · simp [Except.map]

/-- A transition that reloads the engine is lawful, if it asks for a new one. -/
theorem lawful_of_reloads {transition : Transition} (hasks : transition.AsksForNew)
    (hreply : transition.reply
      = (runIn transition.before reloadEngine).value.1.map Reply.engine)
    (hafter : transition.after = (runIn transition.before reloadEngine).value.2) :
    transition.Lawful := by
  have hmakes := makes_engine transition.before
  rw [value_reload_engine] at hreply hafter
  rcases hvalue : (runIn transition.before makeEngine).value with ⟨failure | engine, following⟩
  · rw [hvalue] at hmakes hreply hafter
    have hgoes : GoesOn transition.before transition.after := hafter ▸ hmakes.goes_on
    refine Transition.lawful_of_prevented hasks hreply ?_ hgoes
    rw [Transition.Prevented, hafter]
    cases hmakes with
    | unconfigured hconfig => exact .inl hconfig
    | refused hconfig hload => exact .inr ⟨_, hconfig.config_eq.1, hload⟩
  · rw [hvalue] at hmakes hreply hafter
    cases hmakes with
    | made hconfig hfor =>
        obtain ⟨hheld, hsource⟩ := hconfig.config_eq
        refine Transition.lawful_of_created hasks hreply hconfig.goes_on.made_le ?_ ?_ ?_
        · rw [hafter]
          exact Nat.lt_succ_self _
        · rw [hafter]
        · rw [Transition.Configures, hafter]
          exact ⟨_, hheld, hfor, hsource⟩

/-- Every transition is lawful. -/
theorem lawful_transition (h : session.Numbered) (event : Event) :
    (session.transition event).Lawful := by
  cases event with
  | setEnvironment | setFiles =>
      exact Transition.lawful_of_kept (by simp [Transition.AsksForNew, transition])
        (by simp [transition]) (by simp [transition, Event.procedure, Except.map]) rfl
        (Nat.le_refl _)
  | getConfig =>
      refine lawful_of_gets_config session (.inl rfl) ?_ ?_ rfl rfl <;>
        simp [transition, Event.procedure]
  | reloadConfig =>
      refine lawful_of_gets_config { session with config := none } (.inr rfl) ?_ ?_ rfl rfl <;>
        simp [transition, Event.procedure, reloadConfig]
  | getEngine =>
      cases hengine : session.engine with
      | some engine =>
          refine Transition.lawful_of_held rfl hengine (h engine hengine) ?_ ?_ <;>
            simp [transition, Event.procedure, getEngine, hengine]
      | none =>
          refine lawful_of_reloads (.inr ⟨rfl, hengine⟩) ?_ ?_ <;>
            simp [transition, Event.procedure, getEngine, hengine]
  | reloadEngine =>
      refine lawful_of_reloads (.inl rfl) ?_ ?_ <;> simp [transition, Event.procedure]

/-! ### A run of events -/

/-- The engines that a session creates at events, in their order. -/
def created (session : Session) (events : List Event) : List (Made Engine) :=
  (session.transitions events).filterMap Transition.created?

theorem created_cons (event : Event) (events : List Event) :
    session.created (event :: events) = (session.transition event).created?.toList
      ++ (session.transition event).after.created events := by
  rw [created, transitions, List.filterMap_cons]
  cases (session.transition event).created? <;> rfl

/-- The numbers of the engines that are created are new, and they go up. -/
theorem created_ascending (h : session.Numbered) (events : List Event) :
    (∀ engine ∈ session.created events, session.made ≤ engine.number) ∧
      (session.created events).Pairwise fun first second => first.number < second.number := by
  induction events generalizing session with
  | nil => simp [created, transitions]
  | cons event events ih =>
      have hlawful := lawful_transition h event
      obtain ⟨hnew, hascending⟩ := ih (h.after hlawful)
      rw [created_cons, List.forall_mem_append, List.pairwise_append]
      refine ⟨⟨?_, fun engine hmem => hlawful.made_le.trans (hnew engine hmem)⟩, ?_, hascending, ?_⟩
      · intro engine hmem
        exact (Transition.created_eq_some_iff.1 (Option.mem_toList.1 hmem)).2
      · cases (session.transition event).created? <;> simp
      · intro engine hmem other hother
        exact (hlawful.number_lt engine (Option.mem_toList.1 hmem)).trans_le (hnew other hother)

/-- After events a session holds the engine that was created last, or else the one from before. -/
theorem engine_after_all (h : session.Numbered) (events : List Event) :
    (session.afterAll events).Numbered ∧
      (session.afterAll events).engine = (session.created events).getLast?.or session.engine := by
  induction events generalizing session with
  | nil => exact ⟨h, rfl⟩
  | cons event events ih =>
      have hlawful := lawful_transition h event
      obtain ⟨hnumbered, hengine⟩ := ih (h.after hlawful)
      refine ⟨hnumbered, hengine.trans ?_⟩
      rw [hlawful.engine_eq, created_cons, List.getLast?_append, Option.or_assoc]
      cases (session.transition event).created? <;> rfl

/-- A session that starts without an engine holds the one that was created last, whatever else has
happened to it. The engines that were created are told apart by their numbers, and whatever happens
next is lawful. -/
theorem engine_of_last_creation (session : Session) (hengine : session.engine = none)
    (past : List Event) (event : Event) :
    let before := session.afterAll past
    before.engine = (session.created past).getLast? ∧
      (session.created past).Pairwise (fun first second => first.number < second.number) ∧
      (before.transition event).Lawful := by
  intro before
  have hnumbered : session.Numbered := by simp [Numbered, hengine]
  obtain ⟨hbefore, hlast⟩ := engine_after_all hnumbered past
  rw [hengine, Option.or_none] at hlast
  exact ⟨hlast, (created_ascending hnumbered past).2, lawful_transition hbefore event⟩

/-- A reload holds on to a new engine for the configuration that is held, with its records, if the
dataset of the configuration is read. -/
theorem engine_after_reload_of_published {config : Made Config} {records : List Record}
    (hconfig : session.config = some config)
    (hpublish : (Engine.Request.ofConfig config.value session.files session.room).effect .standard
      = .publish records) :
    ∃ engine, (session.transition .reloadEngine).after.engine = some ⟨session.made, engine⟩ ∧
      engine.Reflects (engineSettings config.value)
        ⟨config.value.emojiSet, some (.ok records)⟩ := by
  rcases Engine.load_file_cases config.value session.files session.room with
    ⟨engine, houtcome, loaded, hloaded, hreflects⟩ | ⟨failure, _, hfail⟩
  · rw [hpublish] at hloaded
    cases hloaded
    refine ⟨engine, ?_, hreflects⟩
    simp only [Engine.unloaded] at houtcome
    simp [transition, Event.procedure, value_reload_engine, makeEngine, getConfig, hconfig,
      houtcome]
  · cases hpublish.symm.trans hfail

/-- The engine is reloaded before and after the configuration. Only the second reload turns to the
set of images in the environment at the time when the configuration was made anew, and to the file
that is there by now; the environment of the moment, which no configuration can be made from, makes
no difference. -/
theorem engine_of_last_creation_after_reloads :
    let session : Session := { environment := ∅, files := .empty [], moment := ⟨0, 0, true⟩ }
    let apple : Table Text Text := Table.ofList [("EMOJI_SET", "apple")]
    let unknown : Table Text Text := Table.ofList [("EMOJI_SET", "moon")]
    let files := ((FileTree.empty []).put ["data"] .directory).put ["data", "emoji.json"]
      (.file (Encoding.encode Engine.oneEntry))
    let past : List Event := [.getEngine, .setEnvironment apple, .getEngine, .reloadEngine,
      .reloadConfig, .setEnvironment unknown, .setFiles files]
    let before := session.afterAll past
    let transition := before.transition .reloadEngine
    let described := fun engine : Made Engine => (engine.number, engine.value.emojiSet)
    session.engine = none ∧ (session.created past).map described = [(1, .twitter), (2, .twitter)] ∧
      before.engine = (session.created past).getLast? ∧ transition.Lawful ∧
      transition.after.engine.map described = some (4, .apple) ∧
      transition.after.engine.map (·.value.count) = some 1 := by
  intro session apple unknown files past before transition described
  obtain ⟨hlast, _, hlawful⟩ := engine_of_last_creation session rfl past .reloadEngine
  have hvalue : before.config.map (·.value) = some { emojiSet := .apple } := by decide +kernel
  obtain ⟨config, hconfig, hsame⟩ := Option.map_eq_some_iff.1 hvalue
  have hmade : before.made = 4 := by decide +kernel
  have hfiles : before.files = files := by
    simp only [before, past, afterAll, List.foldl_cons, List.foldl_nil]
    rfl
  have hroom : before.room = Json.defaultRoom := by decide +kernel
  have hread : files.read config.value.datasetFile = .ok (Encoding.encode Engine.oneEntry) := by
    rw [hsame]
    rfl
  have hpublish := Engine.effect_load_file_one_entry hread .standard
  rw [← hfiles, ← hroom] at hpublish
  obtain ⟨engine, hengine, hreflects⟩ := engine_after_reload_of_published hconfig hpublish
  refine ⟨rfl, by decide +kernel, hlast, hlawful, ?_, ?_⟩
  · have hset : engine.emojiSet = .apple := by rw [hreflects.emojiSet_eq, hsame]
    rw [hengine, Option.map_some, hmade]
    exact congrArg (fun emojiSet => some (4, emojiSet)) hset
  · rw [hengine, Option.map_some, Engine.count, hreflects.index_eq]
    rfl

end EmojiText.Session
