import EmojiText.Text.Blank
import EmojiText.Text.Lowercase

/-!
Platforms, each with a set of emoji images of its own.
-/

namespace EmojiText

/-- The platforms that draw emoji. -/
inductive Platform where
  | apple
  | google
  | twitter
  | facebook
deriving DecidableEq, Repr, Inhabited

namespace Platform

/-- All platforms. -/
def all : List Platform := [apple, google, twitter, facebook]

/-- The name of a platform. -/
def label : Platform → Text
  | apple => "Apple"
  | google => "Google"
  | twitter => "Twitter"
  | facebook => "Facebook"

/-- The name of a platform as it stands in addresses. -/
def directory (platform : Platform) : Text := platform.label.lowercase

/-- The platform with the given name. Letter case and blanks at the ends make no difference. -/
def ofLabel? (name : Text) : Option Platform := all.find? (·.directory = name.strip.lowercase)

end Platform

/-- A set of platforms, given by its members. -/
structure PlatformSet where
  apple : Bool
  google : Bool
  twitter : Bool
  facebook : Bool
deriving DecidableEq, Repr

namespace PlatformSet

/-- The set without members. -/
def empty : PlatformSet := ⟨false, false, false, false⟩

instance : EmptyCollection PlatformSet := ⟨empty⟩

/-- Whether a platform is a member. -/
def contains (platforms : PlatformSet) : Platform → Bool
  | .apple => platforms.apple
  | .google => platforms.google
  | .twitter => platforms.twitter
  | .facebook => platforms.facebook

/-- The set of the platforms in a list. -/
def ofList (platforms : List Platform) : PlatformSet where
  apple := platforms.contains .apple
  google := platforms.contains .google
  twitter := platforms.contains .twitter
  facebook := platforms.contains .facebook

/-- The members in the order of their names. -/
def toList (platforms : PlatformSet) : List Platform :=
  [.apple, .facebook, .google, .twitter].filter platforms.contains

end PlatformSet

end EmojiText
