import EmojiText.Proofs.Dataset.Records
import EmojiText.Proofs.Engine.Call
import EmojiText.Proofs.Handle.Resolve
import EmojiText.Proofs.Index.Empty
import EmojiText.Proofs.Index.Records
import EmojiText.Proofs.Json.Encoded
import EmojiText.Proofs.ShortCode.Replacement
import Mathlib

/-!
# The state of an engine after any requests

What an engine publishes depends on two facts about the requests it has had: which set of images was
chosen last, and what the last load came to that returned. `Engine.Standing` holds the two, and
`Engine.Reflects` says what an engine with a given standing publishes. One request takes an engine
from the standing before it to the one after it (`Reflects.step`), and so every engine reflects the
standing that its requests add up to; the main statement is `reflects_after_all`.
-/

namespace EmojiText

namespace Engine

/-- What may be asked of an engine that changes it. A load has some room for nested values. -/
inductive Request where
  | load (source : Text) (data : DatasetSource) (room : Nat := Json.defaultRoom)
  | loadFile (files : FileTree) (path : Path) (room : Nat := Json.defaultRoom)
  | choose (emojiSet : Platform)
  | applyEmojiSet (name : Text)

/-- What a request comes to, which is decided by its arguments. -/
inductive Effect where
  | publish (records : List Record)
  | clear (cause : Fault)
  | choose (emojiSet : Platform)
  | fail (failure : Failure)

/-- What is returned: by a load whether the dataset was loaded, by a choice of images nothing. -/
abbrev Reply : Type := Except Failure (Option Bool)

namespace Request

/-- Whether a request is a load. -/
def loads : Request → Bool
  | load .. | loadFile .. => true
  | choose _ | applyEmojiSet _ => false

/-- The call that a request makes. -/
def call : Request → Call (Option Bool)
  | load source data room => some <$> Call.load source data room
  | loadFile files path room => some <$> Call.loadFile files path room
  | choose emojiSet => (fun _ => none) <$> Call.choose emojiSet
  | applyEmojiSet name => (fun _ => none) <$> Call.applyEmojiSet name

/-- What a load of records comes to: a fault of the dataset clears the engine, any other failure is
passed on. -/
def loadEffect : Except Failure (List Record) → Effect
  | .ok records => .publish records
  | .error (.fault cause) => .clear cause
  | .error failure => .fail failure

/-- What a request comes to with the given names of tones. -/
def effect (names : ToneNames) : Request → Effect
  | load source data room => loadEffect (Dataset.load names source data room).outcome
  | loadFile files path room => loadEffect (Dataset.loadFile names files path room).outcome
  | choose emojiSet => .choose emojiSet
  | applyEmojiSet name =>
    match Platform.ofLabel? name with
    | some emojiSet => .choose emojiSet
    | none => .fail (.unknownPlatform name)

end Request

namespace Effect

/-- What a request with this effect returns. -/
def reply : Effect → Reply
  | publish _ => .ok (some true)
  | clear _ => .ok (some false)
  | choose _ => .ok none
  | fail failure => .error failure

/-- The set of images that is chosen. -/
def chosen? : Effect → Option Platform
  | choose emojiSet => some emojiSet
  | _ => none

/-- What a load that returns came to: its records, or the fault that cleared the engine. -/
def loaded? : Effect → Option (Except Fault (List Record))
  | publish records => some (.ok records)
  | clear cause => some (.error cause)
  | _ => none

end Effect

/-- The engine after a request. -/
def after (engine : Engine) (request : Request) : Engine :=
  (request.call.runIn engine).value.2

/-- What a request returns. -/
def reply (engine : Engine) (request : Request) : Reply := (request.call.runIn engine).value.1

/-- The engine after requests, one after the other. -/
def afterAll (engine : Engine) (requests : List Request) : Engine := requests.foldl after engine

/-- What requests return, one after the other. -/
def replies (engine : Engine) : List Request → List Reply
  | [] => []
  | request :: requests => engine.reply request :: replies (engine.after request) requests

/-- What decides the state of an engine: the set of images that was chosen last, and what the last
load came to that returned, if there was one. -/
structure Standing where
  emojiSet : Platform
  lastLoad : Option (Except Fault (List Record))

namespace Standing

/-- The standing after a request with the given effect. -/
def after (standing : Standing) (effect : Effect) : Standing where
  emojiSet := effect.chosen?.getD standing.emojiSet
  lastLoad := effect.loaded?.or standing.lastLoad

/-- The index of the records that the last load gave, or an empty one. -/
def index (standing : Standing) : Index :=
  match standing.lastLoad with
  | some (.ok records) => (Index.build records).value
  | some (.error _) | none => ∅

/-- Whether there was a load, and the last one gave records. -/
def isLoaded (standing : Standing) : Bool :=
  match standing.lastLoad with
  | some (.ok _) => true
  | some (.error _) | none => false

/-- What was wrong with the last load, if anything was. -/
def loadError (standing : Standing) : Option Text :=
  match standing.lastLoad with
  | some (.error cause) => some cause.summary
  | some (.ok _) | none => none

end Standing

/-- The state of an engine is the one that a standing asks for: the set of images that was chosen,
the index, the flag and the reason that go with the last load, and the handles of that index for
that set. -/
structure Reflects (settings : EngineSettings) (standing : Standing) (engine : Engine) : Prop where
  settings_eq : engine.settings = settings
  emojiSet_eq : engine.emojiSet = standing.emojiSet
  index_eq : engine.published.index = standing.index
  isLoaded_eq : engine.isLoaded = standing.isLoaded
  loadError_eq : engine.loadError = standing.loadError
  handles_eq : (Handle.resolve engine.published.index engine.emojiSet settings.addresses
    settings.scale).outcome = .ok engine.published.handles

variable {settings : EngineSettings} {standing : Standing} {engine : Engine}

/-- Requests add up to the last of their choices and the last of their loads that return. -/
theorem foldl_standing_after (effects : List Effect) (standing : Standing) :
    effects.foldl Standing.after standing
      = ⟨(effects.filterMap Effect.chosen?).getLast?.getD standing.emojiSet,
          (effects.filterMap Effect.loaded?).getLast?.or standing.lastLoad⟩ := by
  induction effects generalizing standing with
  | nil => rfl
  | cons effect effects ih =>
      rw [List.foldl_cons, ih, Standing.after]
      cases effect <;>
        simp [Effect.chosen?, Effect.loaded?, List.getLast?_cons]

/-- A new engine reflects the set of images it is made with, and no load. -/
theorem reflects_new (emojiSet : Platform) (settings : EngineSettings) :
    Reflects settings ⟨emojiSet, none⟩ (Engine.new emojiSet settings) where
  settings_eq := rfl
  emojiSet_eq := rfl
  index_eq := rfl
  isLoaded_eq := rfl
  loadError_eq := rfl
  handles_eq := Handle.outcome_resolve_empty

/-- An index and its handles may be published. -/
theorem Reflects.publish (h : Reflects settings standing engine) {records : List Record}
    (hnamed : ∀ record ∈ records, record.shortCodes ≠ []) :
    ∃ following, ((Call.publish (Index.build records).value).runIn engine).value
        = (.ok true, following) ∧
      Reflects settings (standing.after (.publish records)) following := by
  obtain ⟨handles, hhandles⟩ : ∃ handles, (Handle.resolve (Index.build records).value
      engine.emojiSet engine.settings.addresses engine.settings.scale).outcome = .ok handles :=
    Handle.exists_outcome_resolve.2 fun record hmem => hnamed record (Index.mem_of_mem_records hmem)
  refine ⟨_, Call.value_publish hhandles, h.settings_eq, h.emojiSet_eq, rfl, rfl, rfl, ?_⟩
  rw [← h.settings_eq]
  exact hhandles

/-- The engine may be cleared. -/
theorem Reflects.clear (h : Reflects settings standing engine) (cause : Fault) :
    ∃ following, ((Call.publishFailure cause).runIn engine).value = (.ok false, following) ∧
      Reflects settings (standing.after (.clear cause)) following :=
  ⟨_, Call.value_publish_failure cause, h.settings_eq, h.emojiSet_eq, rfl, rfl, rfl,
    Handle.outcome_resolve_empty⟩

/-- A set of images may be chosen: those handles that could be resolved for the one in use can be
resolved for any other one. -/
theorem Reflects.choose (h : Reflects settings standing engine) (emojiSet : Platform) :
    ∃ following, ((Call.choose emojiSet).runIn engine).value = (.ok (), following) ∧
      Reflects settings (standing.after (.choose emojiSet)) following := by
  by_cases heq : engine.emojiSet = emojiSet
  · refine ⟨engine, Call.value_choose_of_eq heq, ?_⟩
    have hstanding : standing.after (.choose emojiSet) = standing := by
      rw [← heq, h.emojiSet_eq]
      rfl
    rw [hstanding]
    exact h
  · have hnamed := Handle.exists_outcome_resolve.1 ⟨_, h.handles_eq⟩
    obtain ⟨handles, hhandles⟩ : ∃ handles, (Handle.resolve engine.published.index emojiSet
        engine.settings.addresses engine.settings.scale).outcome = .ok handles :=
      Handle.exists_outcome_resolve.2 hnamed
    refine ⟨_, Call.value_choose_of_ne heq hhandles, h.settings_eq, rfl, h.index_eq,
      h.isLoaded_eq, h.loadError_eq, ?_⟩
    rw [← h.settings_eq]
    exact hhandles

/-- An attempt to load records returns what it comes to, and changes the standing accordingly. -/
theorem Reflects.load_records (h : Reflects settings standing engine)
    {attempt : Attempt Failure (List Record)}
    (hnamed : ∀ records, attempt.outcome = .ok records →
      ∀ record ∈ records, record.shortCodes ≠ []) :
    ((some <$> Call.loadRecords attempt).runIn engine).value.1
        = (Request.loadEffect attempt.outcome).reply ∧
      Reflects settings (standing.after (Request.loadEffect attempt.outcome))
        ((some <$> Call.loadRecords attempt).runIn engine).value.2 := by
  rw [Call.value_map]
  cases houtcome : attempt.outcome with
  | ok records =>
      obtain ⟨following, hvalue, hfollowing⟩ := h.publish (hnamed records houtcome)
      rw [Call.value_load_records_of_ok houtcome, hvalue]
      exact ⟨rfl, hfollowing⟩
  | error failure =>
      by_cases hfault : ∃ cause, failure = .fault cause
      · obtain ⟨cause, rfl⟩ := hfault
        obtain ⟨following, hvalue, hfollowing⟩ := h.clear cause
        rw [Call.value_load_records_of_fault houtcome, hvalue]
        exact ⟨rfl, hfollowing⟩
      · have hother : ∀ cause, failure ≠ .fault cause := fun cause heq => hfault ⟨cause, heq⟩
        have heffect : Request.loadEffect (.error failure) = .fail failure := by
          simp [Request.loadEffect]
        rw [Call.value_load_records_of_failure houtcome hother, heffect]
        exact ⟨rfl, h⟩

/-- A request returns what it comes to, and changes the standing accordingly. -/
theorem Reflects.step (h : Reflects settings standing engine) (request : Request) :
    engine.reply request = (request.effect settings.toneNames).reply ∧
      Reflects settings (standing.after (request.effect settings.toneNames))
        (engine.after request) := by
  have hsettings := h.settings_eq
  subst hsettings
  cases request with
  | load source data room =>
      have hnamed : ∀ records,
          (Dataset.load engine.settings.toneNames source data room).outcome = .ok records →
            ∀ record ∈ records, record.shortCodes ≠ [] :=
        fun _ => Dataset.of_load fun _ _ _ => Entry.short_codes_ne_nil
      simpa [reply, after, Request.call, Request.effect] using h.load_records hnamed
  | loadFile files path room =>
      have hnamed : ∀ records,
          (Dataset.loadFile engine.settings.toneNames files path room).outcome = .ok records →
            ∀ record ∈ records, record.shortCodes ≠ [] :=
        fun _ => Dataset.of_load_file fun _ _ _ => Entry.short_codes_ne_nil
      simpa [reply, after, Request.call, Request.effect] using h.load_records hnamed
  | choose emojiSet =>
      obtain ⟨following, hvalue, hfollowing⟩ := h.choose emojiSet
      simp only [reply, after, Request.call, Request.effect, Call.value_map, hvalue]
      exact ⟨rfl, hfollowing⟩
  | applyEmojiSet name =>
      simp only [reply, after, Request.call, Request.effect, Call.value_map, Call.applyEmojiSet]
      cases Platform.ofLabel? name with
      | none => exact ⟨rfl, h⟩
      | some emojiSet =>
          obtain ⟨following, hvalue, hfollowing⟩ := h.choose emojiSet
          simp only [hvalue]
          exact ⟨rfl, hfollowing⟩

/-- Requests return what they come to, and add up to the standing after them. -/
theorem Reflects.run (h : Reflects settings standing engine) (requests : List Request) :
    engine.replies requests
        = requests.map (fun request => (request.effect settings.toneNames).reply) ∧
      Reflects settings
        ((requests.map (Request.effect settings.toneNames)).foldl Standing.after standing)
        (engine.afterAll requests) := by
  induction requests generalizing standing engine with
  | nil => exact ⟨rfl, h⟩
  | cons request requests ih =>
      obtain ⟨hreply, hfollowing⟩ := h.step request
      obtain ⟨hreplies, hlast⟩ := ih hfollowing
      refine ⟨?_, hlast⟩
      rw [replies, hreply, hreplies, List.map_cons]

/-- With its settings, a standing leaves no choice of the engine. -/
theorem Reflects.unique {other : Engine} (h : Reflects settings standing engine)
    (hother : Reflects settings standing other) : engine = other := by
  have hset : engine.emojiSet = other.emojiSet := h.emojiSet_eq.trans hother.emojiSet_eq.symm
  have hindex := h.index_eq.trans hother.index_eq.symm
  have hloaded := h.isLoaded_eq.trans hother.isLoaded_eq.symm
  have herror := h.loadError_eq.trans hother.loadError_eq.symm
  have hhandles := h.handles_eq
  rw [hindex, hset, hother.handles_eq] at hhandles
  have hsettings := h.settings_eq.trans hother.settings_eq.symm
  obtain ⟨_, ⟨index, handles, emojiSet⟩, isLoaded, loadError⟩ := engine
  obtain ⟨_, ⟨otherIndex, otherHandles, otherSet⟩, otherLoaded, otherError⟩ := other
  cases hindex
  cases hset
  cases hloaded
  cases herror
  cases hsettings
  cases hhandles
  rfl

/-- A load chooses no set of images. -/
theorem chosen_of_loads {names : ToneNames} {request : Request} (h : request.loads = true) :
    (request.effect names).chosen? = none := by
  have hload : ∀ outcome, (Request.loadEffect outcome).chosen? = none := by
    intro outcome
    unfold Request.loadEffect
    split <;> rfl
  cases request with
  | load | loadFile => exact hload _
  | choose | applyEmojiSet => cases h

/-- A choice of a set of images is no load. -/
theorem loaded_of_not_loads {names : ToneNames} {request : Request} (h : request.loads = false) :
    (request.effect names).loaded? = none := by
  cases request with
  | load | loadFile => cases h
  | choose => rfl
  | applyEmojiSet name =>
      rw [Request.effect]
      split <;> rfl

/-- It makes no difference whether a load or a choice of images comes first. -/
theorem Reflects.after_comm (h : Reflects settings standing engine) {load choice : Request}
    (hload : load.loads = true) (hchoice : choice.loads = false) :
    (engine.after load).after choice = (engine.after choice).after load := by
  have hleft := ((h.step load).2.step choice).2
  have hright := ((h.step choice).2.step load).2
  refine hleft.unique ?_
  have hstanding : ∀ first second : Effect, first.chosen? = none → second.loaded? = none →
      (standing.after first).after second = (standing.after second).after first := by
    intro first second hfirst hsecond
    simp [Standing.after, hfirst, hsecond]
  rw [hstanding _ _ (chosen_of_loads hload) (loaded_of_not_loads hchoice)]
  exact hright

/-- A request that fails leaves the engine as it was. -/
theorem Reflects.after_of_error (h : Reflects settings standing engine) {request : Request}
    {failure : Failure} (hfails : engine.reply request = .error failure) :
    engine.after request = engine := by
  obtain ⟨hreply, hfollowing⟩ := h.step request
  rw [hfails] at hreply
  cases heffect : request.effect settings.toneNames with
  | fail other =>
      rw [heffect] at hfollowing
      exact hfollowing.unique h
  | publish records | clear cause | choose emojiSet =>
      rw [heffect] at hreply
      cases hreply

/-- An engine without records finds nothing in a text and replaces nothing. -/
theorem parse_of_count_zero (h : engine.count = 0) (text : Text) :
    engine.parse text = (if text = [] then [] else [.plain text]) ∧
      (engine.replaceShortCodes text).value = text := by
  refine ⟨Index.scan_of_size_zero h _ text, ?_⟩
  rw [replaceShortCodes, Index.value_replace_short_codes, Index.replaced_of_size_zero h]

/-- After any requests to a new engine, the requests have returned what they come to, and the engine
reflects the last set of images that was chosen, or else the one it was made with, and the last load
that returned. A further request that fails leaves it as it is, a load and a choice of images may
change places, and while there are no records every text is left alone. -/
theorem reflects_after_all (emojiSet : Platform) (settings : EngineSettings)
    (requests : List Request) :
    let engine := (Engine.new emojiSet settings).afterAll requests
    let effects := requests.map (Request.effect settings.toneNames)
    (Engine.new emojiSet settings).replies requests = effects.map Effect.reply ∧
    Reflects settings
      ⟨(effects.filterMap Effect.chosen?).getLast?.getD emojiSet,
        (effects.filterMap Effect.loaded?).getLast?⟩ engine ∧
    (∀ request failure, engine.reply request = .error failure →
      engine.after request = engine) ∧
    (∀ load choice : Request, load.loads = true → choice.loads = false →
      (engine.after load).after choice = (engine.after choice).after load) ∧
    (engine.count = 0 → ∀ text,
      engine.parse text = (if text = [] then [] else [.plain text]) ∧
        (engine.replaceShortCodes text).value = text) := by
  intro engine effects
  obtain ⟨hreplies, hengine⟩ := (reflects_new emojiSet settings).run requests
  refine ⟨?_, ?_, ?_, ?_, parse_of_count_zero⟩
  · rw [hreplies, List.map_map]
    rfl
  · rw [foldl_standing_after, Option.or_none] at hengine
    exact hengine
  · exact fun request failure => hengine.after_of_error
  · exact fun load choice => hengine.after_comm

/-- A document with one entry. -/
def oneEntry : Text := "[\x7b\"short_names\": [\"ok\"], \"unified\": \"1F197\"\x7d]"

/-- A file with the document of one entry is loaded. -/
theorem effect_load_file_one_entry {files : FileTree} {path : Path}
    (h : files.read path = .ok (Encoding.encode oneEntry)) (names : ToneNames) :
    (Request.loadFile files path).effect names
      = .publish [⟨["ok"], "1F197", [0x1F197], none, ∅⟩] := by
  have hitems : Json.ofSource (.bytes (Encoding.encode oneEntry)) Json.defaultRoom
      = .ok (.array [.object [("short_names", .array [.string "ok"]),
          ("unified", .string "1F197")]]) := by
    rw [Json.of_source_encode (by decide)]
    cbv
  simp only [Request.effect, Dataset.loadFile, h, Dataset.load, Dataset.items,
    Dataset.itemsOfDocument, hitems]
  cbv

/-- An engine that has refused a document, changed to another set of images and loaded one record
from a file has that record and that set; it is none the worse for an unknown name, and before the
first load it took every text for plain. -/
theorem reflects_after_mixed_requests :
    let settings : EngineSettings := ⟨∅, Handle.defaultScale, ∅⟩
    let files := (FileTree.empty []).put ["emoji.json"] (.file (Encoding.encode oneEntry))
    let refused : Request := .load "object" (.document (.text "\x7b\x7d"))
    let loaded : Request := .loadFile files (.ofText "emoji.json")
    let requests : List Request := [refused, .choose .apple, loaded]
    let engine := (Engine.new .twitter settings).afterAll requests
    (engine.emojiSet = .apple ∧ engine.isLoaded = true ∧ engine.loadError = none ∧
        engine.count = 1) ∧
      engine.after (.applyEmojiSet "nowhere") = engine ∧
      (engine.after refused).after (.choose .google)
        = (engine.after (.choose .google)).after refused ∧
      (Engine.new .twitter settings).parse "plain" = [.plain "plain"] := by
  intro settings files refused loaded requests engine
  obtain ⟨_, hreflects, hfails, hcomm, _⟩ := reflects_after_all .twitter settings requests
  obtain ⟨_, _, _, _, hempty⟩ := reflects_after_all .twitter settings []
  have hrefused : refused.effect settings.toneNames
      = .clear (.unreadable "object" "ожидался массив, получено dict") := by cbv
  have hread : files.read (.ofText "emoji.json") = .ok (Encoding.encode oneEntry) := rfl
  have heffects : requests.map (Request.effect settings.toneNames)
      = [.clear (.unreadable "object" "ожидался массив, получено dict"), .choose .apple,
          .publish [⟨["ok"], "1F197", [0x1F197], none, ∅⟩]] := by
    rw [List.map_cons, List.map_cons, List.map_singleton, hrefused,
      effect_load_file_one_entry hread]
    rfl
  have hunknown : ∀ other : Engine, other.reply (.applyEmojiSet "nowhere")
      = .error (.unknownPlatform "nowhere") := fun _ => rfl
  rw [heffects] at hreflects
  refine ⟨⟨hreflects.emojiSet_eq, hreflects.isLoaded_eq, hreflects.loadError_eq, ?_⟩, ?_, ?_, ?_⟩
  · rw [count, hreflects.index_eq]
    rfl
  · exact hfails _ _ (hunknown engine)
  · exact hcomm _ _ rfl rfl
  · exact (hempty rfl "plain").1

end Engine

end EmojiText
