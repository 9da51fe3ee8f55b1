-- UTF-8 over lists of bytes: a text has one encoding, and only an encoding is decoded.
import Mathlib.Tactic.Common

namespace utf8

/-- The bytes of a text. -/
def encode (text : List Char) : List UInt8 := text.flatMap String.utf8EncodeChar

/-- The text of some bytes, none where they are not valid. -/
def decode (bytes : List UInt8) : Option (List Char) :=
  bytes.toByteArray.utf8Decode?.map Array.toList

/-- The encoder is that of the language. -/
theorem toByteArray_encode (text : List Char) :
    (encode text).toByteArray = text.utf8Encode := rfl

theorem toByteArray_inj {bs cs : List UInt8} (h : bs.toByteArray = cs.toByteArray) : bs = cs := by
  have hdata := congrArg (fun b : ByteArray => b.data.toList) h
  simpa using hdata

/-- What was encoded is read back. -/
@[simp] theorem decode_encode (text : List Char) : decode (encode text) = some text := by
  unfold decode
  rw [toByteArray_encode, List.utf8Decode?_utf8Encode]
  rfl

/-- Only the encoding of a text is read as that text. -/
theorem decode_eq_some_iff {bytes : List UInt8} {text : List Char} :
    decode bytes = some text ↔ encode text = bytes := by
  constructor
  · intro h
    unfold decode at h
    obtain ⟨chars, hchars, rfl⟩ := Option.map_eq_some_iff.mp h
    apply toByteArray_inj
    rw [toByteArray_encode]
    have hsome : bytes.toByteArray.utf8Decode?.isSome = true := by
      rw [hchars]
      rfl
    have hget := ByteArray.utf8Encode_get_utf8Decode? (b := bytes.toByteArray) (h := hsome)
    simpa [hchars] using hget
  · rintro rfl
    exact decode_encode text

/-- No two texts have the same bytes. -/
theorem encode_injective : Function.Injective encode := by
  intro s t h
  have hs := decode_encode s
  rw [h, decode_encode] at hs
  exact (Option.some.inj hs).symm

end utf8
