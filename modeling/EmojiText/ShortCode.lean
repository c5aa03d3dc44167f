import EmojiText.Index

/-!
Short codes in texts.

A token is a short code between two colons. Tokens are found from left to right and do not overlap,
so the colon that closes one token does not open the next. Replacing a token changes the length of
the text, so each replacement is moved by what the ones before it have added or taken away.
-/

namespace EmojiText

/-- A token in a text: the position of its first colon, and the code between its colons. -/
structure Token where
  start : Nat
  code : Text
deriving DecidableEq, Repr

namespace Token

/-- The colon around short codes. -/
def colon : CodePoint := 0x3A

/-- The code points of which a short code in a text may consist. -/
def isCodeUnit (c : CodePoint) : Bool :=
  (0x30 ≤ c.val && c.val ≤ 0x39) || (0x41 ≤ c.val && c.val ≤ 0x5A)
    || (0x61 ≤ c.val && c.val ≤ 0x7A) || c.val = 0x5F || c.val = 0x2D || c.val = 0x2B

/-- The number of code points of a token, its colons included. -/
def length (token : Token) : Nat := token.code.length + 2

/-- The code between the colons that a text starts with, and what follows them. -/
def codeAtStart? : Text → Option (Text × Text)
  | [] => none
  | c :: rest =>
    if c = colon then
      match rest.dropWhile isCodeUnit with
      | [] => none
      | d :: after =>
        let code := rest.takeWhile isCodeUnit
        if d = colon ∧ code ≠ [] then some (code, after) else none
    else none

theorem length_codeAtStart? {t code after : Text} (h : codeAtStart? t = some (code, after)) :
    after.length < t.length := by
  unfold codeAtStart? at h
  split at h
  · simp at h
  · rename_i c rest
    have hle := (List.dropWhile_suffix isCodeUnit : rest.dropWhile isCodeUnit <:+ rest).length_le
    split at h
    · split at h
      · simp at h
      · rename_i d tail hdrop
        dsimp only at h
        split at h
        · simp only [Option.some.injEq, Prod.mk.injEq] at h
          obtain ⟨_, rfl⟩ := h
          rw [hdrop] at hle
          simp only [List.length_cons] at hle ⊢
          omega
        · simp at h
    · simp at h

/-- The tokens of a text that starts at a position. -/
def allFrom (position : Nat) (text : Text) : List Token :=
  match text with
  | [] => []
  | c :: rest =>
    match h : codeAtStart? (c :: rest) with
    | some (code, after) =>
      let token : Token := ⟨position, code⟩
      -- the closing colon is used up
      token :: allFrom (position + token.length) after
    | none => allFrom (position + 1) rest
termination_by text.length
decreasing_by
  · exact length_codeAtStart? h
  · exact Nat.lt_succ_self rest.length

/-- The tokens of a text. -/
def all (text : Text) : List Token := allFrom 0 text

end Token

/-- A text in the course of replacements, and the change of its length so far. -/
structure Splicing where
  text : Text
  offset : Int

namespace Splicing

/-- Puts a text in the place of a token of the first text. -/
def replace (state : Splicing) (token : Token) (replacement : Text) : Splicing :=
  -- the token stands where the replacements before it have moved it
  let start := (token.start + state.offset).toNat
  { text := state.text.take start ++ replacement ++ state.text.drop (start + token.length)
    offset := state.offset + replacement.length - token.length }

end Splicing

namespace Index

/-- The part of the program that writes about short codes. -/
def shortCodeOrigin : Text := "emoji_shortcodes"

variable (index : Index)

/-- The tokens of a text whose code is known, with their records. -/
def knownTokens (text : Text) : List (Token × Record) :=
  (Token.all text).filterMap fun token =>
    (index.ofShortCode? token.code).map fun record => (token, record)

/-- The text with the emoji in the places of their short codes. -/
def replaced (text : Text) : Text :=
  ((index.knownTokens text).foldl (fun state (token, record) => state.replace token record.text)
    (⟨text, 0⟩ : Splicing)).text

/-- The report on replacements. -/
def replacedMessage (count : Nat) : Text :=
  "Заменено " ++ Text.ofNat count ++ " алиасов эмодзи"

/-- The text with the emoji in the places of their short codes, with a report if there are any. -/
def replaceShortCodes (text : Text) : Logged Text := do
  let count := (index.knownTokens text).length
  if 0 < count then
    Logged.record .debug shortCodeOrigin (replacedMessage count)
  return index.replaced text

/-- The records that the short codes in a text name. -/
def findShortCodes (text : Text) : List Record := (index.knownTokens text).map (·.2)

end Index

end EmojiText
