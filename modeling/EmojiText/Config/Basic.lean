import EmojiText.Config.EnvFile
import EmojiText.Config.Number
import EmojiText.Handle
import EmojiText.Files.Tree

/-!
Configurations and where their values come from.

A value is given as an argument, in the environment or in a file of variables, and has a default.
Which of them counts, and how it is read, is a matter of `Config.Rules`; what a configuration asks
of a value that was read is not. By the usual rules the sources count in this order, and the letter
case of names makes no difference, but among arguments the exact name comes first.
`Config.ofSources` lists the problems of all values, in the order of the fields.
-/

namespace EmojiText

/-- A configuration. -/
structure Config where
  emojiSet : Platform := .twitter
  datasetPath : Text := "./data/emoji.json"
  cdnBase : Text := ImageAddresses.defaultBase
  imageSize : Int := ImageAddresses.defaultSize
  imageScale : Binary64 := Handle.defaultScale
  logLevel : Text := "INFO"
  logRotation : Text := "10 MB"
  logRetention : Text := "30 days"
  logDir : Text := "logs"
deriving DecidableEq, Repr

namespace Config

/-- Where the values of a configuration come from. -/
structure Sources where
  arguments : List (Text × Json)
  environment : Table Text Text
  file : Table Text (Option Text)

namespace Sources

/-- A table by names in lower case; of names that differ only in case the last one counts. -/
def caseless {ν : Type} (table : Table Text ν) : Table Text ν :=
  Table.ofList (table.pairs.map fun (name, value) => (name.lowercase, value))

/-- The argument for a field: the one with its exact name, or else the first one whose name differs
from it only in case. -/
def argument? (sources : Sources) (name : Text) : Option Json :=
  (findPair? name sources.arguments).or <|
    (sources.arguments.find? fun argument => argument.1.lowercase = name.lowercase).map (·.2)

/-- The value given for a field. -/
def value? (sources : Sources) (name : Text) : Option Json :=
  let key := name.lowercase
  (sources.argument? name).or <|
    (((caseless sources.environment).find? key).or ((caseless sources.file).find? key).join).map
      Json.string

end Sources

/-- The rules by which values are found and read: which variables a file sets in an environment, the
value that the sources have for a field, and how values of the plain types are read. -/
structure Rules where
  bindings : Table Text Text → Text → Table Text (Option Text)
  value? : Sources → Text → Option Json
  checkText : Json → Checked Text
  checkInteger : Json → Checked Int
  checkNumber : Json → Checked Binary64

/-- The usual rules. -/
def Rules.standard : Rules where
  bindings := EnvFile.bindings
  value? := Sources.value?
  checkText := Json.checkText
  checkInteger := Config.checkInteger
  checkNumber := Config.checkNumber

/-! ### Checks of single values -/

/-- The name of a set of images. -/
def checkEmojiSet (input : Json) : Checked Platform :=
  match Platform.ofLabel? input.plain with
  | some platform => .valid platform
  | none => .fail (.refused (Failure.unknownPlatform input.plain).message) input

/-- The sizes in which there are images. -/
def imageSizes : List Int := [16, 32, 64]

namespace Rules

variable (rules : Rules)

/-- The base of the addresses of images, which gets a slash at its end. -/
def checkCdnBase (input : Json) : Checked Text :=
  (rules.checkText input).andThen fun base =>
    if ("http://" : Text).isPrefixOf base || ("https://" : Text).isPrefixOf base then
      .valid (ImageAddresses.closed base)
    else .fail (.refused "EMOJI_CDN_BASE_URL должен начинаться с http:// или https://") input

/-- The size of images. -/
def checkImageSize (input : Json) : Checked Int :=
  (rules.checkInteger input).andThen fun size =>
    if size ∈ imageSizes then .valid size
    else
      let sizes := Text.join ", " (imageSizes.map Text.ofInt)
      .fail (.refused ("EMOJI_IMAGE_SIZE должен быть одним из: " ++ sizes)) input

/-- The scale of images. -/
def checkImageScale (input : Json) : Checked Binary64 :=
  (rules.checkNumber input).andThen fun scale =>
    if scale.nonpositive then .fail (.refused "EMOJI_IMAGE_SCALE должен быть положительным") input
    else .valid scale

/-- The name of a level in any letter case. -/
def checkLogLevel (input : Json) : Checked Text :=
  (rules.checkText input).andThen fun name =>
    if (Level.ofLabel? name.uppercase).isSome then .valid name.uppercase
    else
      let labels := Text.join ", " (Level.all.map Level.label)
      .fail (.refused ("LOG_LEVEL должен быть одним из: " ++ labels)) input

/-- Checks the value of a field, or takes its default. -/
def field {α : Type} (sources : Sources) (name : Text) (default : α) (check : Json → Checked α) :
    Checked α :=
  match rules.value? sources name with
  | none => .valid default
  | some value => (check value).under (.field name)

end Rules

/-! ### Configurations from their sources -/

/-- The configuration that the sources give. -/
def ofSources (sources : Sources) (rules : Rules := .standard) : Checked Config :=
  let default : Config := {}
  Config.mk
    <$> rules.field sources "EMOJI_SET" default.emojiSet checkEmojiSet
    <*> rules.field sources "EMOJI_DATASET_PATH" default.datasetPath rules.checkText
    <*> rules.field sources "EMOJI_CDN_BASE_URL" default.cdnBase rules.checkCdnBase
    <*> rules.field sources "EMOJI_IMAGE_SIZE" default.imageSize rules.checkImageSize
    <*> rules.field sources "EMOJI_IMAGE_SCALE" default.imageScale rules.checkImageScale
    <*> rules.field sources "LOG_LEVEL" default.logLevel rules.checkLogLevel
    <*> rules.field sources "LOG_ROTATION" default.logRotation rules.checkText
    <*> rules.field sources "LOG_RETENTION" default.logRetention rules.checkText
    <*> rules.field sources "LOG_DIR" default.logDir rules.checkText

/-- The path of the file of variables. -/
def envFilePath : Path := Path.ofText ".env"

/-- The variables that the file of variables sets; without the file there are none. -/
def envFileVariables (environment : Table Text Text) (files : FileTree)
    (rules : Rules := .standard) : Except Failure (Table Text (Option Text)) :=
  match files.read envFilePath with
  -- the file is there, but the system keeps it
  | .error (.fault (.system fault) path) => .error (.file (.fault (.system fault) path))
  | .error _ => .ok Table.empty
  | .ok content =>
    match Encoding.utf8.decode false content with
    | .error error => .error (.encoding error)
    | .ok text => .ok (rules.bindings environment text)

/-- The configuration for arguments, an environment and the file of variables. -/
def load (arguments : List (Text × Json)) (environment : Table Text Text) (files : FileTree)
    (rules : Rules := .standard) : Except Failure Config :=
  match envFileVariables environment files rules with
  | .error failure => .error failure
  | .ok file =>
    match ofSources ⟨arguments, environment, file⟩ rules with
    | .valid config => .ok config
    | .invalid first others => .error (.configuration first others)

/-- The path of the dataset. -/
def datasetFile (config : Config) : Path := Path.ofText config.datasetPath

/-- The part of the program that writes about configurations. -/
def origin : Text := "config"

/-- Reports on a configuration, with a warning if the dataset is missing. -/
def inspect (config : Config) (files : FileTree) : Attempt Failure Unit :=
  match files.isFile config.datasetFile with
  | .error error => throw (.file error)
  | .ok found => ExceptT.lift do
    if !found then
      Logged.record .warning origin ("Файл датасета не найден: " ++ config.datasetPath)
    Logged.record .info origin "Конфигурация успешно валидирована"
    Logged.record .debug origin ("Набор эмодзи: " ++ config.emojiSet.label)
    Logged.record .debug origin
      ("CDN: " ++ config.cdnBase ++ " (" ++ Text.ofInt config.imageSize ++ "px)")

end Config

end EmojiText
