import EmojiText.Json.Bytes

/-!
# JSON that is encoded in ASCII

A text of ASCII characters without the code point zero is read from its bytes as it is read from the
text itself: each byte is one character again, and no two of the first four bytes look like another
encoding (`Json.of_source_encode`).
-/

namespace EmojiText

/-- Whether a text consists of ASCII characters other than the code point zero. -/
def Text.IsAscii (t : Text) : Prop := ∀ c ∈ t, 0 < c.val ∧ c.val < 0x80

instance (t : Text) : Decidable t.IsAscii := List.decidableBAll _ t

namespace Encoding

theorem encode_utf8_of_ascii {c : CodePoint} (h : c.val < 0x80) :
    encodeUtf8 c = [UInt8.ofNat c.val] := by
  simp only [encodeUtf8]
  rw [if_pos h]

theorem to_nat_of_ascii {c : CodePoint} (h : c.val < 0x80) :
    (UInt8.ofNat c.val).toNat = c.val := by
  rw [UInt8.toNat_ofNat']
  omega

/-- The byte of an ASCII character is that character. -/
theorem step_utf8_of_ascii {c : CodePoint} (h : c.val < 0x80) (surrogatesPass : Bool)
    (bytes : Bytes) :
    Encoding.utf8.step surrogatesPass (UInt8.ofNat c.val) bytes = .codePoint c 0 := by
  have hvalid : CodePoint.ofNat? c.val = some c := by
    simp [CodePoint.ofNat?]
  simp only [step, stepUtf8, to_nat_of_ascii h]
  rw [if_pos h, Step.ofNat, hvalid]

theorem encode_cons_of_ascii {c : CodePoint} (h : c.val < 0x80) (t : Text) :
    encode (c :: t) = UInt8.ofNat c.val :: encode t := by
  simp only [encode, List.flatMap_cons]
  rw [encode_utf8_of_ascii h, List.singleton_append]

/-- Decoding gives the characters back, behind those taken before. -/
theorem decode_from_encode {t : Text} (h : t.IsAscii) (surrogatesPass : Bool) (position : Nat)
    (taken : Text) :
    Encoding.utf8.decodeFrom surrogatesPass position taken (encode t)
      = .ok (taken.reverse ++ t) := by
  induction t generalizing position taken with
  | nil => simp [encode, decodeFrom]
  | cons c rest ih =>
      have hc := (h c List.mem_cons_self).2
      rw [encode_cons_of_ascii hc, decodeFrom, step_utf8_of_ascii hc]
      dsimp only
      rw [List.drop_zero, ih (fun other hother => h other (List.mem_cons_of_mem _ hother)),
        List.reverse_cons, List.append_assoc, List.singleton_append]

end Encoding

namespace Json

section

variable {bytes : Bytes} (h : ∀ byte ∈ bytes, 0 < byte.toNat ∧ byte.toNat < 0x80)
include h

theorem byte_order_mark_of_ascii : byteOrderMark? bytes = none := by
  unfold byteOrderMark?
  split <;> first
    | rfl
    | exact absurd (h _ List.mem_cons_self) (by decide)

theorem encoding_of_zeros_of_ascii : encodingOfZeros bytes = .utf8 := by
  unfold encodingOfZeros
  split <;> first
    | rfl
    | exact absurd (h _ List.mem_cons_self) (by decide)
    | exact absurd (h _ (List.mem_cons_of_mem _ List.mem_cons_self)) (by decide)

/-- Bytes below 0x80, none of which is zero, are taken for UTF-8 without a mark. -/
theorem detect_encoding_of_ascii : detectEncoding bytes = (.utf8, 0) := by
  simp only [detectEncoding, byte_order_mark_of_ascii h, encoding_of_zeros_of_ascii h,
    Option.getD_none]

end

/-- The bytes of a text in ASCII are decoded to the text. -/
theorem decode_encode {t : Text} (h : t.IsAscii) : decode (Encoding.encode t) = .ok t := by
  have hbytes : ∀ byte ∈ Encoding.encode t, 0 < byte.toNat ∧ byte.toNat < 0x80 := by
    intro byte hbyte
    obtain ⟨c, hc, hencoded⟩ := List.mem_flatMap.mp hbyte
    rw [Encoding.encode_utf8_of_ascii (h c hc).2, List.mem_singleton] at hencoded
    rw [hencoded, Encoding.to_nat_of_ascii (h c hc).2]
    exact h c hc
  simp only [decode, detect_encoding_of_ascii hbytes, List.drop_zero]
  exact Encoding.decode_from_encode h true 0 []

/-- A text in ASCII is read from its bytes as from the text itself. -/
theorem of_source_encode {t : Text} (h : t.IsAscii) (room : Nat) :
    ofSource (.bytes (Encoding.encode t)) room
      = (ofText t room).mapError ReadError.ofDocument := by
  simp only [ofSource, decode_encode h]

end Json

end EmojiText
