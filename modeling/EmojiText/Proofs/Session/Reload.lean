import EmojiText.Proofs.Session.Run

/-!
# What a reload does to the configuration

A reload gives up the configuration before it makes another one. `shown_or_new` says of one event
that a configuration which shows at it was held before or has a number of its own, and
`shown_in_run` says the same of a run. So a configuration that was given up does not come back: a
reload that is refused leaves the session without any, and the next question for one is answered
anew, from the environment and the files of that time. The main statement is
`config_dropped_by_refused_reload`. An engine is not given up in this way, see
`Transition.Lawful.engine_of_error`.
-/

namespace EmojiText.Session

open Procedure

variable {session following : Session} {config : Made Config}

/-! ### One event -/

/-- A configuration shows at a transition: it is returned, or it is held afterwards. -/
def Transition.Shows (transition : Transition) (config : Made Config) : Prop :=
  transition.reply = .ok (.config config) ∨ transition.after.config = some config

/-- At a transition the values for a configuration are refused. -/
def Transition.refused (transition : Transition) : Bool :=
  match transition.reply with
  | .error (.configuration ..) => true
  | _ => false

theorem Transition.refused_iff {transition : Transition} :
    transition.refused ↔
      ∃ first others, transition.reply = .error (.configuration first others) := by
  unfold refused
  split
  case h_1 first others hreply => simp [hreply]
  case h_2 hother => simpa using hother

/-- The number of the configuration that is returned at a transition. -/
def Transition.number? (transition : Transition) : Option Nat :=
  match transition.reply with
  | .ok (.config config) => some config.number
  | _ => none

/-- A configuration was not there before, and its number is given out on the way from one session to
another. -/
def NumberedBetween (session following : Session) (config : Made Config) : Prop :=
  session.made ≤ config.number ∧ config.number < following.made

/-- A configuration that is held after one was got was held before, or it is a new one. -/
theorem GetsConfig.held_or_new {outcome : Except Failure (Made Config)}
    (h : GetsConfig session outcome following) (hheld : following.config = some config) :
    session.config = some config ∨ NumberedBetween session following config := by
  cases h with
  | held | refused => exact .inl hheld
  | loaded =>
      cases hheld
      exact .inr ⟨Nat.le_refl _, Nat.lt_succ_self _⟩

/-- A configuration that is held after an engine was made was held before, or it is a new one. -/
theorem MakesEngine.held_or_new {outcome : Except Failure (Made Engine)}
    (h : MakesEngine session outcome following) (hheld : following.config = some config) :
    session.config = some config ∨ NumberedBetween session following config := by
  cases h with
  | unconfigured hconfig => exact hconfig.held_or_new hheld
  | refused hconfig => exact hconfig.held_or_new hheld
  | made hconfig =>
      obtain hbefore | ⟨hmade, hnumber⟩ := hconfig.held_or_new hheld
      · exact .inl hbefore
      · exact .inr ⟨hmade, hnumber.trans (Nat.lt_succ_self _)⟩

/-- A configuration that is held after the engine was reloaded was held before, or it is a new one.
-/
theorem held_or_new_of_reload_engine
    (hheld : (runIn session reloadEngine).value.2.config = some config) :
    session.config = some config ∨
      NumberedBetween session (runIn session reloadEngine).value.2 config := by
  have hmakes := makes_engine session
  rw [value_reload_engine] at hheld ⊢
  rcases hvalue : (runIn session makeEngine).value with ⟨failure | engine, following⟩
  all_goals
    rw [hvalue] at hmakes hheld
    exact hmakes.held_or_new hheld

/-- A configuration that is got is held from then on. -/
theorem held_of_got
    (h : (runIn session getConfig).value.1.map Reply.config = .ok (.config config)) :
    (runIn session getConfig).value.2.config = some config := by
  have hgets := gets_config session
  cases hgot : (runIn session getConfig).value.1 with
  | error failure =>
      rw [hgot] at h
      cases h
  | ok =>
      rw [hgot] at h hgets
      cases h
      exact hgets.config_eq.1

theorem map_engine_ne_config (outcome : Except Failure (Made Engine)) :
    outcome.map Reply.engine ≠ .ok (.config config) := by
  cases outcome <;> simp [Except.map]

/-- A configuration that shows at an event is held after it. -/
theorem held_of_shown {event : Event} (h : (session.transition event).Shows config) :
    (session.transition event).after.config = some config := by
  rcases h with hreply | hheld
  · cases event with
    | setEnvironment | setFiles => cases hreply
    | getConfig =>
        simp only [transition, Event.procedure, value_map] at hreply ⊢
        exact held_of_got hreply
    | reloadConfig =>
        simp only [transition, Event.procedure, reloadConfig, value_map, value_bind, value_modify]
          at hreply ⊢
        exact held_of_got hreply
    | getEngine | reloadEngine =>
        simp only [transition, Event.procedure, value_map] at hreply
        exact absurd hreply (map_engine_ne_config _)
  · exact hheld

/-- A configuration that shows at an event was held before, unless the event is a reload of it, or
it is a new one. -/
theorem shown_or_new (event : Event) (h : (session.transition event).Shows config) :
    (event ≠ .reloadConfig ∧ session.config = some config) ∨
      NumberedBetween session (session.transition event).after config := by
  have hheld := held_of_shown h
  cases event with
  | setEnvironment | setFiles => exact .inl ⟨by simp, hheld⟩
  | getConfig =>
      simp only [transition, Event.procedure, value_map] at hheld ⊢
      exact ((gets_config session).held_or_new hheld).imp_left (⟨by simp, ·⟩)
  | reloadConfig =>
      simp only [transition, Event.procedure, reloadConfig, value_map, value_bind, value_modify]
        at hheld ⊢
      have hgets := gets_config { session with config := none }
      exact .inr ((hgets.held_or_new hheld).resolve_left (by simp))
  | getEngine =>
      cases hengine : session.engine with
      | some engine =>
          simp only [transition, Event.procedure, getEngine, hengine, value_map, value_bind,
            value_get, value_pure] at hheld
          exact .inl ⟨by simp, hheld⟩
      | none =>
          simp only [transition, Event.procedure, getEngine, hengine, value_map, value_bind,
            value_get] at hheld ⊢
          exact (held_or_new_of_reload_engine hheld).imp_left (⟨by simp, ·⟩)
  | reloadEngine =>
      simp only [transition, Event.procedure, value_map] at hheld ⊢
      exact (held_or_new_of_reload_engine hheld).imp_left (⟨by simp, ·⟩)

/-! ### A run of events -/

/-- The number of the configuration that is held was given out before. -/
def NumbersConfig (session : Session) : Prop :=
  ∀ config, session.config = some config → config.number < session.made

/-- After an event the number of the configuration that is held was given out, too. -/
theorem NumbersConfig.after (h : session.NumbersConfig) (hnumbered : session.Numbered)
    (event : Event) : (session.transition event).after.NumbersConfig := by
  intro config hheld
  rcases shown_or_new event (.inr hheld) with ⟨_, hbefore⟩ | hnew
  · exact (h config hbefore).trans_le (lawful_transition hnumbered event).made_le
  · exact hnew.2

/-- After events the number of the configuration that is held was given out. -/
theorem NumbersConfig.after_all (h : session.NumbersConfig) (hnumbered : session.Numbered)
    (events : List Event) : (session.afterAll events).NumbersConfig := by
  induction events generalizing session with
  | nil => exact h
  | cons event events ih =>
      exact ih (h.after hnumbered event) (hnumbered.after (lawful_transition hnumbered event))

/-- A configuration that shows in a run was held at its start, or its number was not given out
before. -/
theorem shown_in_run (hnumbered : session.Numbered) (events : List Event) :
    ∀ transition ∈ session.transitions events, ∀ config, transition.Shows config →
      session.config = some config ∨ session.made ≤ config.number := by
  induction events generalizing session with
  | nil => simp [transitions]
  | cons event events ih =>
      have hlawful := lawful_transition hnumbered event
      intro transition hmem config hshows
      rcases List.mem_cons.1 hmem with rfl | hlater
      · exact (shown_or_new event hshows).imp (·.2) (·.1)
      · rcases ih (hnumbered.after hlawful) transition hlater config hshows with hheld | hle
        · exact (shown_or_new event (.inr hheld)).imp (·.2) (·.1)
        · exact .inr (hlawful.made_le.trans hle)

/-! ### A reload that is refused -/

/-- A reload that is refused gives up the configuration that was held, and does nothing else. -/
theorem after_of_refused_reload (h : (session.transition .reloadConfig).refused) :
    (session.transition .reloadConfig).after = { session with config := none } := by
  obtain ⟨first, others, hreply⟩ := Transition.refused_iff.1 h
  have hgets := gets_config { session with config := none }
  simp only [transition, Event.procedure, reloadConfig, value_map, value_bind, value_modify]
    at hreply ⊢
  rcases hvalue : (runIn { session with config := none } getConfig).value with ⟨outcome, following⟩
  rw [hvalue] at hgets hreply
  dsimp only at hgets hreply
  cases hgets with
  | held hheld => cases hheld
  | refused => rfl
  | @loaded config =>
      -- the report on a configuration fails because of a file only
      unfold Config.inspect at hreply
      split at hreply <;> cases hreply

/-- The configuration that the environment and the files give, if they give one that can be reported
on. -/
def freshConfig (session : Session) : Except Failure Config := do
  let config ← Config.load [] session.environment session.files session.rules
  (config.inspect session.files).outcome
  return config

/-- While no configuration is held, a question for it is answered from the environment and the
files. -/
theorem reply_get_config_of_none (h : session.config = none) :
    (session.transition .getConfig).reply
      = session.freshConfig.map fun config => .config ⟨session.made, config⟩ := by
  have hgets := gets_config session
  simp only [transition, Event.procedure, value_map]
  rcases hvalue : (runIn session getConfig).value with ⟨outcome, following⟩
  rw [hvalue] at hgets
  dsimp only at hgets ⊢
  cases hgets with
  | held hheld => cases h.symm.trans hheld
  | refused _ hload => simp [freshConfig, hload, Except.map, bind, Except.bind]
  | @loaded config _ _ hload =>
      cases hinspect : (config.inspect session.files).outcome <;>
        simp [freshConfig, hload, hinspect, Except.map, bind, Except.bind, pure, Except.pure]

/-- An event that changes what a configuration is made from, and asks for nothing. -/
def Event.ChangesSources : Event → Prop
  | setEnvironment _ | setFiles _ => True
  | _ => False

/-- Changes of the environment and the files leave alone what was made. -/
theorem made_after_changes {events : List Event} (h : ∀ event ∈ events, event.ChangesSources) :
    (session.afterAll events).config = session.config ∧
      (session.afterAll events).made = session.made := by
  induction events generalizing session with
  | nil => exact ⟨rfl, rfl⟩
  | cons event events ih =>
      obtain ⟨hevent, hevents⟩ := List.forall_mem_cons.1 h
      obtain ⟨hconfig, hmade⟩ : ((session.transition event).after.afterAll events).config
            = (session.transition event).after.config ∧
          ((session.transition event).after.afterAll events).made
            = (session.transition event).after.made := ih hevents
      cases event with
      | setEnvironment | setFiles => exact ⟨hconfig, hmade⟩
      | _ => cases hevent

/-- A reload that is refused loses the configuration that was held, for good: nothing else has
changed afterwards, every configuration that shows later on is a newer one, and the next question is
answered from the environment and the files of its time, which may give none. -/
theorem config_dropped_by_refused_reload (session : Session) (hconfig : session.config = none)
    (hengine : session.engine = none) (past : List Event) {held : Made Config}
    (hheld : (session.afterAll past).config = some held)
    (hrefused : ((session.afterAll past).transition .reloadConfig).refused) :
    let before := session.afterAll past
    let after := (before.transition .reloadConfig).after
    after = { before with config := none } ∧
      (∀ later : List Event, ∀ transition ∈ after.transitions later, ∀ config,
        transition.Shows config → held.number < config.number) ∧
      ∀ changes : List Event, (∀ event ∈ changes, event.ChangesSources) →
        let asked := after.afterAll changes
        (asked.transition .getConfig).reply
          = asked.freshConfig.map fun config => .config ⟨before.made, config⟩ := by
  intro before after
  have hnumbered : session.Numbered := by simp [Numbered, hengine]
  have hnumbers : session.NumbersConfig := by simp [NumbersConfig, hconfig]
  have hbefore : before.Numbered := (engine_after_all hnumbered past).1
  have hnumber : held.number < before.made := hnumbers.after_all hnumbered past held hheld
  have hafter : after = { before with config := none } := after_of_refused_reload hrefused
  refine ⟨hafter, ?_, ?_⟩
  · intro later transition hmem config hshows
    have hnew : after.config = some config ∨ after.made ≤ config.number :=
      shown_in_run (hbefore.after (lawful_transition hbefore _)) later transition hmem config hshows
    rw [hafter] at hnew
    exact hnumber.trans_le (hnew.resolve_left (by simp))
  · intro changes hchanges asked
    obtain ⟨hnone, hmade⟩ : asked.config = after.config ∧ asked.made = after.made :=
      made_after_changes hchanges
    rw [hafter] at hnone hmade
    rw [reply_get_config_of_none hnone, hmade]

/-- A reload is refused because of an unknown set of images. The configuration that was held before
does not come back when the environment is again what it was: the same values make a new one. -/
theorem config_dropped_by_refused_reload_of_unknown_set :
    let session : Session := { environment := ∅, files := .empty [], moment := ⟨0, 0, true⟩ }
    let unknown : Table Text Text := Table.ofList [("EMOJI_SET", "moon")]
    let before := session.afterAll [.getConfig, .setEnvironment unknown]
    let after := (before.transition .reloadConfig).after
    let asked := after.afterAll [.setEnvironment ∅]
    session.config = none ∧ session.engine = none ∧
      before.config.map (·.number) = some 0 ∧ (before.transition .reloadConfig).refused ∧
      after = { before with config := none } ∧
      (∀ later : List Event, ∀ transition ∈ after.transitions later, ∀ config,
        transition.Shows config → 0 < config.number) ∧
      (asked.transition .getConfig).reply = .ok (.config ⟨1, {}⟩) := by
  intro session unknown before after asked
  have hrefused : (before.transition .reloadConfig).refused := by decide +kernel
  have hnumber : before.config.map (·.number) = some 0 := by decide +kernel
  obtain ⟨held, hheld, hzero⟩ := Option.map_eq_some_iff.1 hnumber
  obtain ⟨hafter, hnewer, hnext⟩ := config_dropped_by_refused_reload session rfl rfl
    [.getConfig, .setEnvironment unknown] hheld hrefused
  have hmade : before.made = 1 := by decide +kernel
  have hfresh : asked.freshConfig.toOption = some {} := by decide +kernel
  refine ⟨rfl, rfl, hnumber, hrefused, hafter, fun later => hzero ▸ hnewer later, ?_⟩
  refine (hnext [.setEnvironment ∅] (by simp [Event.ChangesSources])).trans ?_
  cases hgiven : asked.freshConfig with
  | error failure =>
      rw [hgiven] at hfresh
      cases hfresh
  | ok config =>
      rw [hgiven] at hfresh
      cases hfresh
      rw [hmade]
      rfl

/-- The configuration that was held before a refused reload is not the one that is returned next:
none is while the environment is the one that was refused, and another one is when it is again what
it was before. -/
theorem config_lost_by_refused_reload :
    let session : Session := { environment := ∅, files := .empty [], moment := ⟨0, 0, true⟩ }
    let unknown : Table Text Text := Table.ofList [("EMOJI_SET", "moon")]
    let before := session.afterAll [.getConfig, .setEnvironment unknown]
    let after := (before.transition .reloadConfig).after
    ∃ held, before.config = some held ∧ (before.transition .reloadConfig).refused ∧
      (after.transition .getConfig).refused ∧
      ((after.afterAll [.setEnvironment ∅]).transition .getConfig).reply
        ≠ .ok (.config held) := by
  intro session unknown before after
  have hnumber : before.config.map (·.number) = some 0 := by decide +kernel
  obtain ⟨held, hheld, hzero⟩ := Option.map_eq_some_iff.1 hnumber
  refine ⟨held, hheld, by decide +kernel, by decide +kernel, fun hreturned => ?_⟩
  -- its number tells the configuration that is returned from the one that was held
  have hone : ((after.afterAll [.setEnvironment ∅]).transition .getConfig).number? = some 1 := by
    decide +kernel
  rw [Transition.number?, hreturned] at hone
  exact absurd (hzero.symm.trans (Option.some.inj hone)) Nat.zero_ne_one

end EmojiText.Session
