/-!
# Bytes

Runs of bytes, their big-endian reading, and the padding that brings an item to a multiple of
eight bytes.
-/

namespace Kmip

/-- A run of bytes, in the order in which they travel. -/
abbrev Bytes := List UInt8

namespace Bytes

/-- The `width` low bytes of `n`, highest first, in front of `tail`. -/
def bigEndianOnto : (width n : Nat) → (tail : Bytes) → Bytes
  | 0, _, tail => tail
  | width + 1, n, tail => bigEndianOnto width (n / 256) (UInt8.ofNat n :: tail)

/-- The big-endian form of `n` in `width` bytes; what does not fit is cut off at the top. -/
def bigEndian (width n : Nat) : Bytes :=
  bigEndianOnto width n []

/-- The number that a run of bytes denotes, the highest byte first. -/
def toNat (bytes : Bytes) : Nat :=
  bytes.foldl (fun high byte => high * 256 + byte.toNat) 0

/-- A run of zero bytes. -/
def zeros (count : Nat) : Bytes :=
  List.replicate count 0

end Bytes

/-- How many zero bytes follow a content of `length` bytes. -/
def paddingLength (length : Nat) : Nat :=
  (8 - length % 8) % 8

/-- Padding ends on a multiple of eight bytes. -/
theorem add_paddingLength_mod (length : Nat) : (length + paddingLength length) % 8 = 0 := by
  unfold paddingLength
  omega

/-- Padding is shorter than eight bytes. -/
theorem paddingLength_lt (length : Nat) : paddingLength length < 8 := by
  unfold paddingLength
  omega

namespace Bytes

theorem length_bigEndianOnto (width n : Nat) (tail : Bytes) :
    (bigEndianOnto width n tail).length = width + tail.length := by
  induction width generalizing n tail with
  | zero => simp [bigEndianOnto]
  | succ width ih =>
    rw [bigEndianOnto, ih, List.length_cons]
    omega

@[simp] theorem length_bigEndian (width n : Nat) : (bigEndian width n).length = width := by
  simp [bigEndian, length_bigEndianOnto]

@[simp] theorem length_zeros (count : Nat) : (zeros count).length = count := by
  simp [zeros]

end Bytes

end Kmip
