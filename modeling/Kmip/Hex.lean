import Kmip.Bytes

/-!
# Hexadecimal text

Bytes as pairs of hexadecimal digits. Digits of either case are read; a text is refused for its
length before any of its characters is looked at.
-/

namespace Kmip.Hex

/-- Why a text is no hexadecimal run of bytes. -/
inductive Fault where
  /-- The text holds an odd number of bytes. -/
  | oddLength
  /-- The byte at this position is no hexadecimal digit. -/
  | notADigit (byte : UInt8) (position : Nat)
deriving DecidableEq, Repr

/-- The digit of a value below sixteen, letters in lower case. -/
def lowerDigit (value : Nat) : Char :=
  if value < 10 then Char.ofNat (48 + value) else Char.ofNat (87 + value)

/-- The digit of a value below sixteen, letters in upper case. -/
def upperDigit (value : Nat) : Char :=
  if value < 10 then Char.ofNat (48 + value) else Char.ofNat (55 + value)

/-- The value of a hexadecimal digit given as a character code. -/
def digitValue? (code : Nat) : Option Nat :=
  if 48 ≤ code ∧ code ≤ 57 then some (code - 48)
  else if 97 ≤ code ∧ code ≤ 102 then some (code - 87)
  else if 65 ≤ code ∧ code ≤ 70 then some (code - 55)
  else none

/-- Two digits a byte, as `digit` spells them. -/
def encodeWith (digit : Nat → Char) (bytes : Bytes) : List Char :=
  bytes.flatMap fun byte => [digit (byte.toNat / 16), digit (byte.toNat % 16)]

/-- Two lower-case digits a byte. -/
def encode (bytes : Bytes) : String :=
  String.ofList (encodeWith lowerDigit bytes)

/-- Two upper-case digits a byte. -/
def encodeUpper (bytes : Bytes) : String :=
  String.ofList (encodeWith upperDigit bytes)

/-- The digits of `n` to base sixteen, most significant first, in front of `tail`. -/
def digitsOnto (digit : Nat → Char) (n : Nat) (tail : List Char) : List Char :=
  if n < 16 then digit n :: tail else digitsOnto digit (n / 16) (digit (n % 16) :: tail)
termination_by n

/-- A number to base sixteen in lower case, without leading zeros. -/
def ofNat (n : Nat) : String :=
  String.ofList (digitsOnto lowerDigit n [])

/-- A number to base sixteen in upper case, with at least `width` digits. -/
def ofNatUpper (width n : Nat) : String :=
  let digits := digitsOnto upperDigit n []
  String.ofList (List.replicate (width - digits.length) '0' ++ digits)

/-- The bytes that pairs of digits spell; `position` is the place of the first of them. -/
def decodeFrom (position : Nat) : Bytes → Except Fault Bytes
  | high :: low :: rest => do
    let h ← (digitValue? high.toNat).elim (throw (.notADigit high position)) pure
    let l ← (digitValue? low.toNat).elim (throw (.notADigit low (position + 1))) pure
    let bytes ← decodeFrom (position + 2) rest
    pure (UInt8.ofNat (h * 16 + l) :: bytes)
  | _ => pure []

/-- The bytes that a text spells. -/
def decode (text : String) : Except Fault Bytes :=
  let units := text.toUTF8.toList
  if units.length % 2 = 0 then decodeFrom 0 units else throw .oddLength

end Kmip.Hex
