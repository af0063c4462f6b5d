import Kmip.Bytes

/-!
# Text as bytes

The bytes of a text, the text of bytes, and for bytes that are no text the place and the kind of the
first flaw.
-/

namespace Kmip.Utf8

/-- The first flaw of bytes that are no text. -/
structure Fault where
  /-- The position at which the last valid character ends. -/
  index : Nat
  /-- How many bytes from there on can start no character; none when the bytes end too early. -/
  length : Option Nat
deriving DecidableEq, Repr

/-- The bytes of a text. -/
def encode (text : String) : Bytes :=
  text.toUTF8.data.toList

/-- What may follow a leading byte: a closed range for each further byte of the character. -/
def follow? (lead : Nat) : Option (List (Nat × Nat)) :=
  if lead < 0x80 then some []
  else if lead < 0xC2 then none
  else if lead < 0xE0 then some [(0x80, 0xBF)]
  else if lead = 0xE0 then some [(0xA0, 0xBF), (0x80, 0xBF)]
  else if lead = 0xED then some [(0x80, 0x9F), (0x80, 0xBF)]
  else if lead < 0xF0 then some [(0x80, 0xBF), (0x80, 0xBF)]
  else if lead = 0xF0 then some [(0x90, 0xBF), (0x80, 0xBF), (0x80, 0xBF)]
  else if lead < 0xF4 then some [(0x80, 0xBF), (0x80, 0xBF), (0x80, 0xBF)]
  else if lead = 0xF4 then some [(0x80, 0x8F), (0x80, 0xBF), (0x80, 0xBF)]
  else none

/-- The first flaw in bytes of which the `seen` bytes from `start` on begin a character that goes on
with a byte in each of the `awaited` ranges. -/
def flaw (start seen : Nat) : (awaited : List (Nat × Nat)) → Bytes → Fault
  | _, [] => ⟨start, none⟩
  | (low, high) :: awaited, byte :: rest =>
    if low ≤ byte.toNat ∧ byte.toNat ≤ high then flaw start (seen + 1) awaited rest
    else ⟨start, some seen⟩
  | [], byte :: rest =>
    match follow? byte.toNat with
    | some awaited => flaw (start + seen) 1 awaited rest
    | none => ⟨start + seen, some 1⟩

/-- The text of bytes. -/
def decode (bytes : Bytes) : Except Fault String :=
  match String.fromUTF8? ⟨bytes.toArray⟩ with
  | some text => .ok text
  | none => .error (flaw 0 0 [] bytes)

/-- A text is read back from its bytes. -/
@[simp] theorem decode_encode (text : String) : decode (encode text) = .ok text := by
  have bytes : (⟨(encode text).toArray⟩ : ByteArray) = text.toByteArray := by simp [encode]
  simp [decode, bytes, String.fromUTF8?, text.isValidUTF8, String.fromUTF8]

/-- Bytes that are read as a text are the bytes of that text. -/
theorem encode_of_decode {bytes : Bytes} {text : String} (h : decode bytes = .ok text) :
    encode text = bytes := by
  unfold decode at h
  split at h
  · next text' found =>
    obtain rfl : text' = text := by simpa using h
    unfold String.fromUTF8? at found
    split at found
    · obtain rfl := Option.some.inj found
      simp [encode, String.fromUTF8]
    · simp at found
  · simp at h

/-- The text of a flaw. -/
def Fault.message (fault : Fault) : String :=
  match fault.length with
  | some length => s!"invalid utf-8 sequence of {length} bytes from index {fault.index}"
  | none => s!"incomplete utf-8 byte sequence from index {fault.index}"

end Kmip.Utf8
