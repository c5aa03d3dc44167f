import EmojiText.Config.Basic

/-!
# Which configurations are accepted

The checks of the fields are combined so that nothing is accepted unless every field passes its own
check: `of_sources_eq_valid_iff` takes a configuration apart into its fields. What a field then holds
is read off its check; for the base of the addresses of images this is `base_of_accepted`. All this
holds whatever the rules are by which the values are found and read.
-/

namespace EmojiText

/-! ### Combined checks -/

namespace Checked

variable {α β : Type}

/-- A checked function applied to a checked value is valid exactly if both are. -/
theorem seq_eq_valid_iff {f : Checked (α → β)} {a : Checked α} {b : β} :
    f <*> a = valid b ↔ ∃ g x, f = valid g ∧ a = valid x ∧ g x = b := by
  change apply f a = valid b ↔ _
  cases f <;> cases a <;> simp [apply]

theorem map_eq_valid_iff {f : α → β} {a : Checked α} {b : β} :
    f <$> a = valid b ↔ ∃ x, a = valid x ∧ f x = b := by
  change map f a = valid b ↔ _
  cases a <;> simp [map]

theorem and_then_eq_valid_iff {a : Checked α} {next : α → Checked β} {b : β} :
    a.andThen next = valid b ↔ ∃ x, a = valid x ∧ next x = valid b := by
  cases a <;> simp [andThen]

theorem under_eq_valid_iff {a : Checked α} {step : PathStep} {x : α} :
    a.under step = valid x ↔ a = valid x := by
  cases a <;> simp [under]

theorem value_eq_some_iff {a : Checked α} {x : α} : a.value? = some x ↔ a = valid x := by
  cases a <;> simp [value?]

end Checked

namespace ImageAddresses

/-- A closed address ends with a slash. -/
theorem getLast?_closed (address : Text) : (closed address).getLast? = some slash := by
  unfold closed
  split
  · assumption
  · exact List.getLast?_concat

/-- Nothing is added to an address that ends with a slash. -/
theorem closed_of_slash {address : Text} (h : address.getLast? = some slash) :
    closed address = address := by
  rw [closed, if_pos h]

theorem prefix_closed (address : Text) : address <+: closed address := by
  unfold closed
  split
  · exact List.prefix_rfl
  · exact List.prefix_append _ _

end ImageAddresses

namespace Config

variable {rules : Rules} {sources : Sources} {config : Config}

/-! ### Single fields -/

/-- A field has the value that its check gives for what the sources have for it, or else its
default. -/
theorem Rules.field_eq_valid_iff {α : Type} {name : Text} {default value : α}
    {check : Json → Checked α} :
    rules.field sources name default check = .valid value ↔
      (∃ input, rules.value? sources name = some input ∧ check input = .valid value) ∨
        rules.value? sources name = none ∧ value = default := by
  unfold field
  cases rules.value? sources name with
  | none => simp [eq_comm]
  | some input => simp [Checked.under_eq_valid_iff]

/-- Every field of a configuration passes its check. -/
structure Accepted (rules : Rules) (sources : Sources) (config : Config) : Prop where
  emojiSet_eq : rules.field sources "EMOJI_SET" ({} : Config).emojiSet checkEmojiSet
    = .valid config.emojiSet
  datasetPath_eq : rules.field sources "EMOJI_DATASET_PATH" ({} : Config).datasetPath
    rules.checkText = .valid config.datasetPath
  cdnBase_eq : rules.field sources "EMOJI_CDN_BASE_URL" ({} : Config).cdnBase rules.checkCdnBase
    = .valid config.cdnBase
  imageSize_eq : rules.field sources "EMOJI_IMAGE_SIZE" ({} : Config).imageSize
    rules.checkImageSize = .valid config.imageSize
  imageScale_eq : rules.field sources "EMOJI_IMAGE_SCALE" ({} : Config).imageScale
    rules.checkImageScale = .valid config.imageScale
  logLevel_eq : rules.field sources "LOG_LEVEL" ({} : Config).logLevel rules.checkLogLevel
    = .valid config.logLevel
  logRotation_eq : rules.field sources "LOG_ROTATION" ({} : Config).logRotation rules.checkText
    = .valid config.logRotation
  logRetention_eq : rules.field sources "LOG_RETENTION" ({} : Config).logRetention rules.checkText
    = .valid config.logRetention
  logDir_eq : rules.field sources "LOG_DIR" ({} : Config).logDir rules.checkText
    = .valid config.logDir

/-- The sources give a configuration exactly if every field of it passes its check. -/
theorem of_sources_eq_valid_iff :
    ofSources sources rules = .valid config ↔ Accepted rules sources config := by
  constructor
  · intro h
    simp only [ofSources, Checked.seq_eq_valid_iff, Checked.map_eq_valid_iff] at h
    obtain ⟨_, logDir, ⟨_, logRetention, ⟨_, logRotation, ⟨_, logLevel, ⟨_, imageScale,
      ⟨_, imageSize, ⟨_, cdnBase, ⟨_, datasetPath, ⟨emojiSet, hset, rfl⟩, hpath, rfl⟩, hbase, rfl⟩,
      hsize, rfl⟩, hscale, rfl⟩, hlevel, rfl⟩, hrotation, rfl⟩, hretention, rfl⟩, hdir, rfl⟩ := h
    exact ⟨hset, hpath, hbase, hsize, hscale, hlevel, hrotation, hretention, hdir⟩
  · intro h
    rw [ofSources, h.emojiSet_eq, h.datasetPath_eq, h.cdnBase_eq, h.imageSize_eq,
      h.imageScale_eq, h.logLevel_eq, h.logRotation_eq, h.logRetention_eq, h.logDir_eq]
    rfl

/-- A configuration is loaded if the file of variables can be read and its sources give one. -/
theorem load_eq_ok_iff {arguments : List (Text × Json)} {environment : Table Text Text}
    {files : FileTree} :
    load arguments environment files rules = .ok config ↔ ∃ file,
      envFileVariables environment files rules = .ok file ∧
        ofSources ⟨arguments, environment, file⟩ rules = .valid config := by
  unfold load
  cases envFileVariables environment files rules with
  | error failure => simp
  | ok file =>
      cases hsources : ofSources ⟨arguments, environment, file⟩ rules <;> simp [hsources]

/-! ### The addresses of images -/

/-- A value passes the check of the base if it is read as an address of the web, which gets a slash
at its end. -/
theorem check_cdn_base_eq_valid_iff {input : Json} {base : Text} :
    rules.checkCdnBase input = .valid base ↔ ∃ given, rules.checkText input = .valid given ∧
      ("http://" <+: given ∨ "https://" <+: given) ∧ ImageAddresses.closed given = base := by
  rw [Rules.checkCdnBase, Checked.and_then_eq_valid_iff]
  refine exists_congr fun given => and_congr Iff.rfl ?_
  simp only [Bool.or_eq_true, List.isPrefixOf_iff_prefix]
  split
  · rename_i hweb
    simp [hweb]
  · rename_i hweb
    simp [hweb, Checked.fail]

/-- A size that passes its check is one of those in which there are images. -/
theorem mem_image_sizes_of_check {input : Json} {size : Int}
    (h : rules.checkImageSize input = .valid size) : size ∈ imageSizes := by
  obtain ⟨checked, _, hchecked⟩ := Checked.and_then_eq_valid_iff.1 h
  split at hchecked
  · rename_i hmem
    cases hchecked
    exact hmem
  · cases hchecked

/-- The base of the addresses of images comes from an address: from the one that is read from what
the sources give, or else from the default one. It has a slash more only if the address has none at
its end. -/
structure BaseFrom (rules : Rules) (sources : Sources) (config : Config) (given : Text) : Prop where
  given_eq : (∃ input, rules.value? sources "EMOJI_CDN_BASE_URL" = some input ∧
      rules.checkText input = .valid given) ∨
    rules.value? sources "EMOJI_CDN_BASE_URL" = none ∧ given = ImageAddresses.defaultBase
  cdnBase_eq : config.cdnBase
    = if given.getLast? = some ImageAddresses.slash then given else given ++ "/"
  web : "http://" <+: config.cdnBase ∨ "https://" <+: config.cdnBase
  slash_last : config.cdnBase.getLast? = some ImageAddresses.slash

/-- The base comes from an address of the web that was closed. -/
theorem base_from_of_closed {given : Text}
    (hgiven : (∃ input, rules.value? sources "EMOJI_CDN_BASE_URL" = some input ∧
        rules.checkText input = .valid given) ∨
      rules.value? sources "EMOJI_CDN_BASE_URL" = none ∧ given = ImageAddresses.defaultBase)
    (hweb : "http://" <+: given ∨ "https://" <+: given)
    (hclosed : ImageAddresses.closed given = config.cdnBase) :
    BaseFrom rules sources config given where
  given_eq := hgiven
  cdnBase_eq := hclosed.symm
  web := by
    rw [← hclosed]
    exact hweb.imp (·.trans (ImageAddresses.prefix_closed given))
      (·.trans (ImageAddresses.prefix_closed given))
  slash_last := by
    rw [← hclosed]
    exact ImageAddresses.getLast?_closed given

/-- The base of an accepted configuration comes from an address. -/
theorem base_of_accepted (h : Accepted rules sources config) :
    ∃ given, BaseFrom rules sources config given := by
  rcases Rules.field_eq_valid_iff.1 h.cdnBase_eq with ⟨input, hinput, hcheck⟩ | ⟨hnone, hdefault⟩
  · obtain ⟨given, hgiven, hweb, hclosed⟩ := check_cdn_base_eq_valid_iff.1 hcheck
    exact ⟨given, base_from_of_closed (.inl ⟨input, hinput, hgiven⟩) hweb hclosed⟩
  · refine ⟨_, base_from_of_closed (.inr ⟨hnone, rfl⟩) (.inr (by decide)) ?_⟩
    rw [hdefault]
    decide

/-- The images of an accepted configuration have one of the sizes that there are. -/
theorem image_size_of_accepted (h : Accepted rules sources config) :
    config.imageSize ∈ imageSizes := by
  rcases Rules.field_eq_valid_iff.1 h.imageSize_eq with ⟨_, _, hcheck⟩ | ⟨_, hdefault⟩
  · exact mem_image_sizes_of_check hcheck
  · rw [hdefault]
    decide

end Config

end EmojiText
