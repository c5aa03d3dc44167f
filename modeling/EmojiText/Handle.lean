import EmojiText.Failure
import EmojiText.Index

/-!
Handles, with which emoji are drawn: the address of an image, a tooltip and a scale.

Each set of images stands below an address of its own. An emoji is drawn from the chosen set if the
platform has an image of it, else from the set of Twitter; a set without an address stands below a
fixed one.
-/

namespace EmojiText

/-- What is needed to draw an emoji. -/
structure Handle where
  name : Text
  url : Text
  tooltip : Text
  scale : Binary64
deriving DecidableEq, Repr

/-- The addresses below which the images of the platforms stand. -/
abbrev ImageAddresses : Type := Table Platform Text

namespace ImageAddresses

/-- The slash at the end of an address. -/
def slash : CodePoint := 0x2F

/-- The address below which all images stand by default. -/
def defaultBase : Text := "https://pajbot.com/static/emoji-v2/img/"

/-- The default size of images in pixels. -/
def defaultSize : Int := 64

/-- An address with a slash at its end. -/
def closed (address : Text) : Text :=
  if address.getLast? = some slash then address else address ++ [slash]

/-- The address of the images of a platform. -/
def address (base : Text) (size : Int) (platform : Platform) : Text :=
  closed base ++ platform.directory ++ "/" ++ Text.ofInt size ++ "/"

/-- The addresses of all platforms, below a common one. -/
def below (base : Text) (size : Int) : ImageAddresses :=
  Table.ofList (Platform.all.map fun platform => (platform, address base size platform))

/-- The addresses that are in use unless others are given. -/
def standard : ImageAddresses := below defaultBase defaultSize

/-- The address for a platform that has none. -/
def unlisted : Text := "https://pajbot.com/static/emoji-v2/img/twitter/64/"

/-- The address below which the images of a platform stand. -/
def of (addresses : ImageAddresses) (platform : Platform) : Text :=
  (addresses.find? platform).getD unlisted

end ImageAddresses

namespace Handle

/-- The default scale of images. -/
def defaultScale : Binary64 := .ofDecimal false 35 (-2)

/-- The platform whose images are used for an emoji that the chosen platform does not draw. -/
def fallback : Platform := .twitter

/-- The platform whose image of a record is used. -/
def platformFor (record : Record) (chosen : Platform) : Platform :=
  if record.supports chosen then chosen else fallback

/-- The address of the image of a record. -/
def urlFor (record : Record) (chosen : Platform) (addresses : ImageAddresses) : Text :=
  addresses.of (platformFor record chosen) ++ record.unifiedCode.lowercase ++ ".png"

/-- The tooltip of an emoji with the given short code. -/
def tooltipFor (shortCode : Text) : Text := ":" ++ shortCode ++ ":<br/>Emoji"

/-- The handle of a record, which needs a short code. -/
def ofRecord (record : Record) (chosen : Platform) (addresses : ImageAddresses)
    (scale : Binary64) : Except Failure Handle :=
  match record.primaryShortCode? with
  | none => .error .noShortCode
  | some shortCode => .ok {
      name := record.text
      url := urlFor record chosen addresses
      tooltip := tooltipFor shortCode
      scale }

/-- The part of the program that writes about handles. -/
def origin : Text := "emoji_handles"

/-- The report on resolved handles. -/
def resolvedMessage (count : Nat) (chosen : Platform) : Text :=
  "Построено " ++ Text.ofNat count ++ " хэндлов для набора " ++ chosen.label

/-- The handles of all records of an index, each at the number of its record. -/
def all (index : Index) (chosen : Platform) (addresses : ImageAddresses) (scale : Binary64) :
    Except Failure (Array Handle) :=
  index.records.mapM fun record => ofRecord record chosen addresses scale

/-- The handles of all records of an index, with a report on them. -/
def resolve (index : Index) (chosen : Platform) (addresses : ImageAddresses) (scale : Binary64) :
    Attempt Failure (Array Handle) := do
  let handles ← Attempt.ofExcept (all index chosen addresses scale)
  ExceptT.lift (Logged.record .debug origin (resolvedMessage handles.size chosen))
  return handles

end Handle

end EmojiText
