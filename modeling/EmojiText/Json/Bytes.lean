import EmojiText.Json.Parser
import EmojiText.Text.Encoding

/-!
Reading JSON from bytes. The encoding shows in a byte order mark, else in which of the first four
bytes are zero, since a JSON text starts with an ASCII character. Encoded surrogates pass.
-/

namespace EmojiText.Json

/-- The byte order mark at the start of a JSON text, as its encoding and its number of bytes. The
marks of UTF-32 come first, since one of them starts with a mark of UTF-16. -/
def byteOrderMark? : Bytes → Option (Encoding × Nat)
  | 0x00 :: 0x00 :: 0xFE :: 0xFF :: _ => some (.utf32 true, 4)
  | 0xFF :: 0xFE :: 0x00 :: 0x00 :: _ => some (.utf32 false, 4)
  | 0xFE :: 0xFF :: _ => some (.utf16 true, 2)
  | 0xFF :: 0xFE :: _ => some (.utf16 false, 2)
  | 0xEF :: 0xBB :: 0xBF :: _ => some (.utf8, 3)
  | _ => none

/-- The encoding of a JSON text without a byte order mark. -/
def encodingOfZeros : Bytes → Encoding
  | 0x00 :: 0x00 :: _ :: _ :: _ => .utf32 true
  | 0x00 :: _ :: _ :: _ :: _ => .utf16 true
  | _ :: 0x00 :: 0x00 :: 0x00 :: _ => .utf32 false
  | _ :: 0x00 :: _ :: _ :: _ => .utf16 false
  | [0x00, _] => .utf16 true
  | [_, 0x00] => .utf16 false
  | _ => .utf8

/-- The encoding of a JSON text and the number of bytes of its byte order mark. -/
def detectEncoding (bytes : Bytes) : Encoding × Nat :=
  (byteOrderMark? bytes).getD (encodingOfZeros bytes, 0)

/-- The text of a JSON document. Places count from the byte order mark, which in UTF-8 is left out
of the count. -/
def decode (bytes : Bytes) : Except EncodingError Text :=
  let (encoding, mark) := detectEncoding bytes
  let start := match encoding with | .utf8 => 0 | _ => mark
  encoding.decodeFrom true start [] (bytes.drop mark)

/-- What a JSON document is read from. -/
inductive Source where
  | text (text : Text)
  | bytes (bytes : Bytes)
deriving Repr

/-- Why a document is not read. -/
inductive DocumentError where
  | encoding (error : EncodingError)
  | syntaxError (error : SyntaxError)
  | integerTooLong (digits : Nat)
  | tooDeep (container : Container)
deriving DecidableEq, Repr

/-- A reading error as an error of the document. -/
def ReadError.ofDocument : ReadError → DocumentError
  | .syntaxError error => .syntaxError error
  | .integerTooLong digits => .integerTooLong digits
  | .tooDeep container => .tooDeep container

/-- The value of a document. A text must not start with a byte order mark. -/
def ofSource (source : Source) (room : Nat := defaultRoom) : Except DocumentError Json :=
  match source with
  | .text t =>
    if t.head? = some Text.byteOrderMark then .error (.syntaxError (.at t .byteOrderMark 0))
    else (ofText t room).mapError ReadError.ofDocument
  | .bytes bytes =>
    match decode bytes with
    | .error error => .error (.encoding error)
    | .ok t => (ofText t room).mapError ReadError.ofDocument

end EmojiText.Json
