import EmojiText.Proofs.Config.ImageScale
import EmojiText.Proofs.Engine.Addresses

/-!
# The scale with which emoji are drawn

An engine draws everything with the scale that it was made with, which no request changes:
`Engine.ScaledBy` says so of all its handles, and `scaled_after_all` that it holds after any
requests. For a configured engine that is the scale of the configuration, which is above zero with
one exception; the main statement is `Config.scale_positive_unless_nan`.
-/

namespace EmojiText

open Procedure

/-- The scale in the handle of a record is the one that is given. -/
theorem Handle.scale_of_record {record : Record} {chosen : Platform} {addresses : ImageAddresses}
    {scale : Binary64} {handle : Handle}
    (h : ofRecord record chosen addresses scale = .ok handle) : handle.scale = scale := by
  unfold ofRecord at h
  split at h
  · cases h
  · cases h
    rfl

namespace Engine

/-- All handles of an engine have the same scale: those that are published, those that come with the
emoji in a text, and those that are found for a unified code. -/
structure ScaledBy (engine : Engine) (scale : Binary64) : Prop where
  published : ∀ handle ∈ engine.published.handles, handle.scale = scale
  parsed : ∀ text record handle, .emoji record handle ∈ engine.parse text →
    ∃ own, handle = some own ∧ own.scale = scale
  found : ∀ query own, engine.handleOf? query = some own → own.scale = scale

/-- After any requests all handles have the scale that the engine was made with. -/
theorem scaled_after_all (emojiSet : Platform) (settings : EngineSettings)
    (requests : List Request) :
    ((Engine.new emojiSet settings).afterAll requests).ScaledBy settings.scale := by
  have hsettings := (reflects_standing_after emojiSet settings requests).settings_eq
  have hserves := serves_after_all emojiSet settings requests
  generalize (Engine.new emojiSet settings).afterAll requests = engine at hsettings hserves
  have hpublished : ∀ handle ∈ engine.published.handles, handle.scale = settings.scale := by
    intro handle hmem
    obtain ⟨place, hplace, hget⟩ := List.getElem_of_mem (Array.mem_toList_iff.2 hmem)
    have hall := Handle.forall2_outcome_resolve hserves.handles_eq
    have hrecord := hall.get (hall.length_eq ▸ hplace) hplace
    rw [List.get_eq_getElem, List.get_eq_getElem, hget] at hrecord
    rw [← hsettings]
    exact Handle.scale_of_record hrecord
  constructor
  case published => exact hpublished
  case parsed =>
    intro text record handle hmem
    obtain ⟨own, hown, hdraws, _⟩ := hserves.exists_emoji_handle hmem
    exact ⟨own, hown, hsettings ▸ Handle.scale_of_record hdraws.of_record⟩
  case found =>
    intro query own hown
    obtain ⟨id, _, hplace⟩ := Option.bind_eq_some_iff.1 hown
    exact hpublished own (Array.mem_of_getElem? hplace)

end Engine

namespace Config

/-- The scale of a configuration that is loaded is above zero, unless an argument, the environment
or the file of variables gives what is not a number: then that is the scale, since nothing else is
refused than what is zero or below. The rules need only read numbers as documented. All handles of
an engine for the configuration have its scale, after any requests, and so do those of an engine
that a session makes which then holds it. -/
theorem scale_positive_unless_nan {rules : Rules} (hrules : rules.ReadNan)
    {arguments : List (Text × Json)} {environment : Table Text Text} {files : FileTree}
    {config : Config} (h : load arguments environment files rules = .ok config) :
    (∃ file, envFileVariables environment files rules = .ok file ∧
        (config.imageScale.positive = true ↔ ¬ rules.GiveNan ⟨arguments, environment, file⟩) ∧
        (config.imageScale = .nan ↔ rules.GiveNan ⟨arguments, environment, file⟩)) ∧
      (∀ requests, ((Engine.unloaded config).afterAll requests).ScaledBy config.imageScale) ∧
      ∀ session made following, (runIn session Session.makeEngine).value = (.ok made, following) →
        ∀ held, following.config = some held → held.value = config →
          ∀ requests, (made.value.afterAll requests).ScaledBy config.imageScale := by
  obtain ⟨file, hfile, hsources⟩ := load_eq_ok_iff.1 h
  have haccepted := of_sources_eq_valid_iff.1 hsources
  have hscaled : ∀ requests,
      ((Engine.unloaded config).afterAll requests).ScaledBy config.imageScale :=
    Engine.scaled_after_all config.emojiSet (Session.engineSettings config)
  refine ⟨⟨file, hfile, scale_positive_iff hrules haccepted, scale_eq_nan_iff hrules haccepted⟩,
    hscaled, ?_⟩
  intro session made following hmade held hheld hvalue requests
  have hmakes := Session.makes_engine session
  rw [hmade] at hmakes
  cases hmakes with
  | made hconfig hfor =>
      cases hconfig.config_eq.1.symm.trans hheld
      rw [hfor.eq_after, hvalue]
      exact hscaled (_ :: requests)

/-- The environment gives infinity, which is above zero, and goes before the file of variables, in
which stands what is not a number. -/
theorem scale_positive_unless_nan_of_infinity :
    let environment : Table Text Text := Table.ofList [("emoji_image_scale", " 1e400 ")]
    let files := (FileTree.empty []).put [".env"]
      (.file (Encoding.encode "export EMOJI_IMAGE_SCALE = -NaN"))
    let config : Config := { imageScale := .infinite false }
    let entry : Json := .object
      [("short_names", .array [.string "ok"]), ("unified", .string "1F197")]
    let requests : List Engine.Request := [.load "list" (.value (.array [entry])), .choose .apple]
    let engine := (Engine.unloaded config).afterAll requests
    load [] environment files = .ok config ∧ config.imageScale.positive = true ∧
      engine.ScaledBy config.imageScale ∧
      (engine.handleOf? "1F197").map (·.scale) = some (.infinite false) := by
  intro environment files config entry requests engine
  have hload : load [] environment files = .ok config :=
    load_eq_ok_iff.2 ⟨Table.ofList [("EMOJI_IMAGE_SCALE", some "-NaN")], by cbv,
      Checked.value_eq_some_iff.1 (by decide +kernel)⟩
  obtain ⟨_, hscaled, _⟩ := scale_positive_unless_nan read_nan_standard hload
  exact ⟨hload, rfl, hscaled requests, by decide +kernel⟩

/-- What is not a number passes the check of the scale, and the emoji are drawn with it. -/
theorem scale_not_positive_of_nan :
    let environment : Table Text Text := Table.ofList [("EMOJI_IMAGE_SCALE", "nan")]
    let entry : Json := .object
      [("short_names", .array [.string "ok"]), ("unified", .string "1F197")]
    ∃ config, load [] environment (.empty []) = .ok config ∧ config.imageScale.positive = false ∧
      let engine := (Engine.unloaded config).after (.load "list" (.value (.array [entry])))
      (engine.handleOf? "1F197").map (·.scale.positive) = some false := by
  refine ⟨{ imageScale := .nan }, ?_, rfl, by decide +kernel⟩
  exact load_eq_ok_iff.2 ⟨∅, rfl, Checked.value_eq_some_iff.1 (by decide +kernel)⟩

end Config

end EmojiText
