import Kmip.Bytes

/-!
# Big integers as bytes

Integers of any size in two's complement, highest byte first. The written form takes whole groups of
eight bytes, and as few of them as hold the value.
-/

namespace Kmip.BigInteger

/-- How many binary digits a number has; zero has none. -/
def bitLength (n : Nat) : Nat :=
  if n = 0 then 0 else n.log2 + 1

/-- The number whose binary digits fill the form of `value` below its sign. -/
def magnitude (value : Int) : Nat :=
  if value < 0 then (-value - 1).toNat else value.toNat

/-- How many groups of eight bytes hold a value together with its sign. -/
def groups (value : Int) : Nat :=
  bitLength (magnitude value) / 64 + 1

/-- The written form of a value. -/
def encode (value : Int) : Bytes :=
  let width := 8 * groups value
  Bytes.bigEndian width (value % (Nat.pow 256 width : Nat)).toNat

/-- The value of bytes of any length; no bytes denote zero. -/
def decode (bytes : Bytes) : Int :=
  match bytes with
  | [] => 0
  | first :: _ =>
    if first.toNat < 128 then bytes.toNat else (bytes.toNat : Int) - (Nat.pow 256 bytes.length : Nat)

/-- A written form is made of whole groups. -/
theorem length_encode_mod (value : Int) : (encode value).length % 8 = 0 := by
  simp [encode]

end Kmip.BigInteger
