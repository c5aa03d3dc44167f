import EmojiText.Text.Numeral
import EmojiText.Text.Quoted

/-!
Texts as bytes: UTF-8, UTF-16 and UTF-32, read one code point at a time.

A text may hold surrogates, so a reader is told whether an encoded surrogate passes. The first bytes
that encode nothing are refused together with their place and the reason.

The names of files are bytes, and a surrogate from 0xDC80 to 0xDCFF stands in them for the byte from
0x80 on that is no text. No bytes stand for other surrogates: the first of them are refused.
-/

namespace EmojiText

/-- A sequence of bytes. -/
abbrev Bytes : Type := List UInt8

/-- The encodings of texts. -/
inductive Encoding where
  | utf8
  | utf16 (bigEndian : Bool)
  | utf32 (bigEndian : Bool)
deriving DecidableEq, Repr

/-- The reasons to refuse bytes. -/
inductive EncodingFault where
  | startByte
  | continuationByte
  | endOfData
  | truncated
  | range
deriving DecidableEq, Repr

/-- Bytes that encode nothing, from a position on. -/
structure EncodingError where
  encoding : Encoding
  position : Nat
  bytes : Bytes
  fault : EncodingFault
deriving DecidableEq, Repr

/-- Surrogates that no bytes stand for, from a position of a text on. -/
structure LoneSurrogates where
  position : Nat
  codes : Text
deriving DecidableEq, Repr

/-- The name of an encoding in messages. -/
def Encoding.label : Encoding → Text
  | .utf8 => "utf-8"
  | .utf16 false => "utf-16-le"
  | .utf16 true => "utf-16-be"
  | .utf32 false => "utf-32-le"
  | .utf32 true => "utf-32-be"

/-- The wording of a reason. -/
def EncodingFault.message : EncodingFault → Text
  | .startByte => "invalid start byte"
  | .continuationByte => "invalid continuation byte"
  | .endOfData => "unexpected end of data"
  | .truncated => "truncated data"
  | .range => "code point not in range(0x110000)"

/-- The wording of a refusal: one byte is shown, of several the positions. -/
def EncodingError.message (e : EncodingError) : Text :=
  let place : Text := match e.bytes with
    | [byte] => "byte 0x" ++ Text.hexDigits 2 byte.toNat ++ " in position " ++ Text.ofNat e.position
    | bytes => "bytes in position " ++ Text.ofNat e.position ++ "-"
        ++ Text.ofNat (e.position + bytes.length - 1)
  "'" ++ e.encoding.label ++ "' codec can't decode " ++ place ++ ": " ++ e.fault.message

/-- The wording of a refusal: one surrogate is shown, of several the positions. -/
def LoneSurrogates.message (surrogates : LoneSurrogates) : Text :=
  let start := Text.ofNat surrogates.position
  let place : Text := match surrogates.codes with
    | [c] => "character '\\u" ++ Text.hexDigits 4 c.val ++ "' in position " ++ start
    | codes => "characters in position " ++ start ++ "-"
        ++ Text.ofNat (surrogates.position + codes.length - 1)
  "'utf-8' codec can't encode " ++ place ++ ": surrogates not allowed"

namespace Encoding

/-- What a byte and those after it are: a code point that takes some bytes after the first, or a
fault of so many bytes. -/
inductive Step where
  | codePoint (c : CodePoint) (more : Nat)
  | fault (size : Nat) (reason : EncodingFault)

/-- A number as a step, if it is a code point. -/
def Step.ofNat (n more : Nat) : Step :=
  match CodePoint.ofNat? n with
  | some c => .codePoint c more
  | none => .fault (more + 1) .range

/-- Reads continuation bytes of UTF-8 within the given bounds onto a value. `size` counts the bytes
from the first one on. -/
def continueUtf8 (value size : Nat) : List (Nat × Nat) → Bytes → Step
  | [], _ => .ofNat value (size - 1)
  | _ :: _, [] => .fault size .endOfData
  | (low, high) :: bounds, byte :: bytes =>
    if low ≤ byte.toNat && byte.toNat ≤ high then
      continueUtf8 (value * 64 + byte.toNat % 64) (size + 1) bounds bytes
    else .fault size .continuationByte

/-- A surrogate in three bytes of UTF-8, given those after the first. -/
def surrogateUtf8? : Bytes → Option CodePoint
  | second :: third :: _ =>
    if 0xA0 ≤ second.toNat && second.toNat ≤ 0xBF && 0x80 ≤ third.toNat && third.toNat ≤ 0xBF then
      CodePoint.ofNat? (0xD000 + second.toNat % 64 * 64 + third.toNat % 64)
    else none
  | _ => none

/-- A step of UTF-8. -/
def stepUtf8 (surrogatesPass : Bool) (byte : UInt8) (bytes : Bytes) : Step :=
  let n := byte.toNat
  let tail := (0x80, 0xBF)
  if n < 0x80 then .ofNat n 0
  -- 0x80 to 0xBF only continue, and 0xC0 and 0xC1 would start what one byte can say
  else if n < 0xC2 then .fault 1 .startByte
  else if n < 0xE0 then continueUtf8 (n - 0xC0) 1 [tail] bytes
  -- the bounds of the second byte leave out what two bytes can say
  else if n = 0xE0 then continueUtf8 0 1 [(0xA0, 0xBF), tail] bytes
  -- 0xED starts the surrogates
  else if n = 0xED then
    match surrogateUtf8? bytes with
    | some c =>
      if surrogatesPass then .codePoint c 2 else continueUtf8 0xD 1 [(0x80, 0x9F), tail] bytes
    | none => continueUtf8 0xD 1 [(0x80, 0x9F), tail] bytes
  else if n < 0xF0 then continueUtf8 (n - 0xE0) 1 [tail, tail] bytes
  else if n = 0xF0 then continueUtf8 0 1 [(0x90, 0xBF), tail, tail] bytes
  else if n < 0xF4 then continueUtf8 (n - 0xF0) 1 [tail, tail, tail] bytes
  -- the code space ends at 0x10FFFF
  else if n = 0xF4 then continueUtf8 4 1 [(0x80, 0x8F), tail, tail] bytes
  else .fault 1 .startByte

/-- The number of a unit of several bytes. -/
def unitOfBytes (bigEndian : Bool) (bytes : Bytes) : Nat :=
  (if bigEndian then bytes else bytes.reverse).foldl (fun value byte => value * 256 + byte.toNat) 0

/-- A step of UTF-16 with surrogates passing: a pair is one code point, a surrogate without its
partner stands for itself. -/
def stepUtf16 (bigEndian : Bool) (byte : UInt8) (bytes : Bytes) : Step :=
  match bytes with
  | [] => .fault 1 .truncated
  | second :: rest =>
    let unit := unitOfBytes bigEndian [byte, second]
    match rest with
    | third :: fourth :: _ =>
      let trail := unitOfBytes bigEndian [third, fourth]
      if 0xD800 ≤ unit && unit ≤ 0xDBFF && 0xDC00 ≤ trail && trail ≤ 0xDFFF then
        .ofNat (0x10000 + (unit - 0xD800) * 0x400 + (trail - 0xDC00)) 3
      else .ofNat unit 1
    | _ => .ofNat unit 1

/-- A step of UTF-32 with surrogates passing. -/
def stepUtf32 (bigEndian : Bool) (byte : UInt8) (bytes : Bytes) : Step :=
  match bytes with
  | second :: third :: fourth :: _ => .ofNat (unitOfBytes bigEndian [byte, second, third, fourth]) 3
  | _ => .fault (bytes.length + 1) .truncated

/-- The step of an encoding. Surrogates always pass in the encodings with wide units. -/
def step (encoding : Encoding) (surrogatesPass : Bool) : UInt8 → Bytes → Step :=
  match encoding with
  | .utf8 => stepUtf8 surrogatesPass
  | .utf16 bigEndian => stepUtf16 bigEndian
  | .utf32 bigEndian => stepUtf32 bigEndian

/-- Decodes bytes that start at a position, behind the text taken so far in reverse. -/
def decodeFrom (encoding : Encoding) (surrogatesPass : Bool) (position : Nat) (taken : Text)
    (bytes : Bytes) : Except EncodingError Text :=
  match bytes with
  | [] => .ok taken.reverse
  | byte :: rest =>
    match encoding.step surrogatesPass byte rest with
    | .codePoint c more =>
      decodeFrom encoding surrogatesPass (position + 1 + more) (c :: taken) (rest.drop more)
    | .fault size reason =>
      .error { encoding, position, bytes := (byte :: rest).take size, fault := reason }
termination_by bytes.length
decreasing_by simp only [List.length_drop, List.length_cons]; omega

/-- The text that the bytes encode. -/
def decode (encoding : Encoding) (surrogatesPass : Bool) (bytes : Bytes) :
    Except EncodingError Text :=
  decodeFrom encoding surrogatesPass 0 [] bytes

/-- One code point in UTF-8, surrogates included. -/
def encodeUtf8 (c : CodePoint) : Bytes :=
  let n := c.val
  let tail (shift : Nat) : UInt8 := UInt8.ofNat (0x80 + n / Nat.pow 64 shift % 64)
  if n < 0x80 then [UInt8.ofNat n]
  else if n < 0x800 then [UInt8.ofNat (0xC0 + n / 64), tail 0]
  else if n < 0x10000 then [UInt8.ofNat (0xE0 + n / 4096), tail 1, tail 0]
  else [UInt8.ofNat (0xF0 + n / 262144), tail 2, tail 1, tail 0]

/-- A text in UTF-8. -/
def encode (t : Text) : Bytes := t.flatMap encodeUtf8

/-! ### The names of files -/

/-- Whether a code point stands for a single byte in the name of a file. -/
def isByteMark (c : CodePoint) : Bool := 0xDC80 ≤ c.val && c.val ≤ 0xDCFF

/-- The bytes of the name of a file. -/
def encodeName (t : Text) : Bytes :=
  t.flatMap fun c => if isByteMark c then [UInt8.ofNat (c.val - 0xDC00)] else encodeUtf8 c

/-- The first surrogates in a text that no bytes stand for, and those right behind them. `position`
is where the text starts. -/
def loneSurrogatesFrom? (position : Nat) : Text → Option LoneSurrogates
  | [] => none
  | c :: rest =>
    if c.isSurrogate && !isByteMark c then
      some ⟨position, c :: rest.takeWhile CodePoint.isSurrogate⟩
    else loneSurrogatesFrom? (position + 1) rest

/-- The first surrogates in a text that no bytes stand for. -/
def loneSurrogates? (t : Text) : Option LoneSurrogates := loneSurrogatesFrom? 0 t

end Encoding

end EmojiText
