import EmojiText.Proofs.Config.Accepted
import EmojiText.Proofs.Engine.Serving
import EmojiText.Proofs.Session.Making

/-!
# Where a configured engine finds its images

The addresses of an engine for a configuration are all below the base of the configuration, and there
is one for every platform, so that the fixed address for platforms without one is out of reach. No
request changes them: `Engine.DrawsFrom` says of an engine that all its images stand where the
configuration has them, and it holds after any requests, by `draws_from_after_all`. The main
statement, `images_below_base`, adds which bases and sizes a configuration can have, and that the
engine which a session makes for its configuration is such an engine.
-/

namespace EmojiText

open Procedure

namespace ImageAddresses

/-- Every platform has an address below the base. -/
theorem find?_below (base : Text) (size : Int) (platform : Platform) :
    (below base size).find? platform = some (address base size platform) := by
  rw [below, Table.find?_ofList]
  cases platform <;> rfl

end ImageAddresses

/-- Where a configuration has the image of a record while a set of images is in use. -/
def Config.imageOf (config : Config) (record : Record) (chosen : Platform) : Text :=
  config.cdnBase ++ (if record.supports chosen then chosen.label.lowercase else "twitter") ++ "/"
    ++ Text.ofInt config.imageSize ++ "/" ++ record.unifiedCode.lowercase ++ ".png"

namespace Engine

/-- All images of an engine stand where a configuration has them: every platform has its address,
and every handle that is published, that comes with an emoji in a text, or that is found for a
unified code leads to the image of its record. -/
structure DrawsFrom (engine : Engine) (config : Config) : Prop where
  listed : ∀ platform, engine.settings.addresses.find? platform
    = some (config.cdnBase ++ platform.label.lowercase ++ "/" ++ Text.ofInt config.imageSize ++ "/")
  published : List.Forall₂ (fun record handle => handle.url = config.imageOf record engine.emojiSet)
    engine.published.index.records.toList engine.published.handles.toList
  parsed : ∀ text record handle, .emoji record handle ∈ engine.parse text →
    ∃ own, handle = some own ∧ own.url = config.imageOf record engine.emojiSet
  found : ∀ query own, engine.handleOf? query = some own →
    ∃ record, engine.ofUnifiedCode? query = some record ∧
      own.url = config.imageOf record engine.emojiSet

variable {config : Config} {engine : Engine}

/-- The address of an image below a base with a slash at its end. -/
theorem url_for_below (hslash : config.cdnBase.getLast? = some ImageAddresses.slash)
    (record : Record) (chosen : Platform) :
    Handle.urlFor record chosen (.below config.cdnBase config.imageSize)
      = config.imageOf record chosen := by
  have htwitter : Platform.twitter.directory = "twitter" := by decide +kernel
  have hdirectory : (Handle.platformFor record chosen).directory
      = if record.supports chosen then chosen.label.lowercase else "twitter" := by
    rw [Handle.platformFor, Handle.fallback]
    split
    · rfl
    · exact htwitter
  rw [Handle.urlFor, ImageAddresses.of, ImageAddresses.find?_below, Option.getD_some,
    ImageAddresses.address, ImageAddresses.closed_of_slash hslash, hdirectory, Config.imageOf]

/-- An engine for a configuration has all its images where the configuration has them, after any
requests. -/
theorem draws_from_after_all (hslash : config.cdnBase.getLast? = some ImageAddresses.slash)
    (requests : List Request) : ((unloaded config).afterAll requests).DrawsFrom config := by
  have hsettings : ((unloaded config).afterAll requests).settings = Session.engineSettings config :=
    (reflects_standing_after config.emojiSet (Session.engineSettings config) requests).settings_eq
  have hserves := serves_after_all config.emojiSet (Session.engineSettings config) requests
  change ((unloaded config).afterAll requests).Serves _ at hserves
  generalize (unloaded config).afterAll requests = engine at hsettings hserves
  have hurl : ∀ {record handle}, Handle.ofRecord record engine.emojiSet engine.settings.addresses
      engine.settings.scale = .ok handle → handle.url = config.imageOf record engine.emojiSet := by
    intro record handle h
    rw [Handle.url_of_record h, hsettings]
    exact url_for_below hslash record engine.emojiSet
  constructor
  case listed =>
    intro platform
    rw [hsettings]
    refine (ImageAddresses.find?_below _ _ _).trans ?_
    rw [ImageAddresses.address, ImageAddresses.closed_of_slash hslash, Platform.directory]
  case published => exact (Handle.forall2_outcome_resolve hserves.handles_eq).imp fun _ _ => hurl
  case parsed =>
    intro text record handle hmem
    obtain ⟨own, hown, hdraws, _⟩ := hserves.exists_emoji_handle hmem
    exact ⟨own, hown, hurl hdraws.of_record⟩
  case found =>
    intro query own hown
    have hsome : (engine.ofUnifiedCode? query).isSome := by
      rw [← hserves.is_some_handle_iff, hown]
      rfl
    obtain ⟨record, hrecord⟩ := Option.isSome_iff_exists.1 hsome
    obtain ⟨other, hother, hdraws⟩ := hserves.exists_code_handle hrecord
    cases hown.symm.trans hother
    exact ⟨record, hrecord, hurl hdraws.of_record⟩

/-- The engine for a configuration is the one after the first load. -/
theorem MadeFor.eq_after {files : FileTree} {room : Nat} (h : engine.MadeFor config files room) :
    engine = (unloaded config).after (.ofConfig config files room) := by
  obtain ⟨loaded, hloaded, hreflects⟩ := h
  have hafter := ((reflects_new config.emojiSet (Session.engineSettings config)).step
    (.ofConfig config files room)).2
  refine hreflects.unique ?_
  have hstanding : Standing.after ⟨config.emojiSet, none⟩
      ((Request.ofConfig config files room).effect
        (Session.engineSettings config).toneNames) = ⟨config.emojiSet, some loaded⟩ := by
    rw [Standing.after, chosen_of_loads rfl]
    exact congrArg (Standing.mk config.emojiSet) (congrArg (Option.or · none) hloaded)
  rw [← hstanding]
  exact hafter

end Engine

/-- Whatever an accepted configuration comes from, and by whatever rules its values are read, the
base of its addresses is an address of the web with a slash at its end, and its size one of those in
which there are images. An engine for it draws all emoji from below this base, after any requests,
and so does an engine that a session makes which then holds this configuration. -/
theorem Config.images_below_base {rules : Config.Rules} {sources : Config.Sources} {config : Config}
    (h : Config.ofSources sources rules = .valid config) :
    (∃ given, Config.BaseFrom rules sources config given) ∧ config.imageSize ∈ [16, 32, 64] ∧
      (∀ requests, ((Engine.unloaded config).afterAll requests).DrawsFrom config) ∧
      ∀ session made following, (runIn session Session.makeEngine).value = (.ok made, following) →
        ∀ held, following.config = some held → held.value = config →
          ∀ requests, (made.value.afterAll requests).DrawsFrom config := by
  have haccepted := Config.of_sources_eq_valid_iff.1 h
  obtain ⟨given, hbase⟩ := Config.base_of_accepted haccepted
  refine ⟨⟨given, hbase⟩, Config.image_size_of_accepted haccepted,
    Engine.draws_from_after_all hbase.slash_last, ?_⟩
  intro session made following hmade held hheld hvalue requests
  have hmakes := Session.makes_engine session
  rw [hmade] at hmakes
  cases hmakes with
  | made hconfig hfor =>
      cases hconfig.config_eq.1.symm.trans hheld
      rw [hfor.eq_after, hvalue]
      exact Engine.draws_from_after_all hbase.slash_last (_ :: requests)

/-- The address has no slash at its end, and the environment says so in lower case. -/
theorem Config.images_below_base_without_slash :
    let sources : Config.Sources := ⟨[], Table.ofList [("emoji_image_size", "32"),
      ("emoji_cdn_base_url", "https://cdn.example.com/img")], ∅⟩
    let config : Config := { cdnBase := "https://cdn.example.com/img/", imageSize := 32 }
    let entry : Json := .object [("short_names", .array [.string "ok"]),
      ("unified", .string "1F197"), ("has_img_apple", .bool true)]
    let requests : List Engine.Request := [.load "list" (.value (.array [entry])), .choose .apple]
    let engine := (Engine.unloaded config).afterAll requests
    Config.ofSources sources = .valid config ∧ engine.DrawsFrom config ∧
      (engine.handleOf? "1F197").map (·.url)
        = some "https://cdn.example.com/img/apple/32/1f197.png" := by
  intro sources config entry requests engine
  have hvalid : Config.ofSources sources = .valid config :=
    Checked.value_eq_some_iff.1 (by decide +kernel)
  obtain ⟨_, _, hdraws, _⟩ := Config.images_below_base hvalid
  exact ⟨hvalid, hdraws requests, by decide +kernel⟩

end EmojiText
