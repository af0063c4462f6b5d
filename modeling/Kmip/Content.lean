import Kmip.Fault

/-!
# The content of scalar items

How a value of each scalar type is laid out as bytes, and which bytes are such a layout. Padding is
no part of the content.
-/

namespace Kmip.ScalarType

/-- The length of a content, for the types that have a fixed one. -/
def width? : ScalarType → Option Nat
  | integer | enumeration | interval => some 4
  | longInteger | boolean | dateTime | dateTimeExtended => some 8
  | bigInteger | textString | byteString => none

/-- Whether an item of this type may declare such a length. -/
def checkLength (type : ScalarType) (length : Nat) : Except Fault Unit :=
  match type.width? with
  | some width => if length = width then pure () else throw (.unexpectedLength width length)
  | none =>
    if type = bigInteger ∧ length % 8 ≠ 0 then throw (.invalidBigIntegerLength length) else pure ()

/-- The content of a value. A date-time is written as its whole Unix second. -/
def encode : (type : ScalarType) → type.Content → Bytes
  | integer, value => Bytes.bigEndian 4 value.toUInt32.toNat
  | longInteger, value => Bytes.bigEndian 8 value.toUInt64.toNat
  | bigInteger, value => BigInteger.encode value
  | enumeration, code => Bytes.bigEndian 4 code.toNat
  | boolean, value => Bytes.bigEndian 8 value.toNat
  | textString, text => Utf8.encode text
  | byteString, bytes => bytes
  | dateTime, time => Bytes.bigEndian 8 (Int64.ofInt time.seconds).toUInt64.toNat
  | interval, seconds => Bytes.bigEndian 4 seconds.toNat
  | dateTimeExtended, micros => Bytes.bigEndian 8 micros.toUInt64.toNat

/-- The 64-bit number of eight bytes in two's complement. -/
def longOf (bytes : Bytes) : Int64 :=
  (UInt64.ofNat bytes.toNat).toInt64

/-- The value of a content of admitted length. -/
def decode : (type : ScalarType) → Bytes → Except Fault type.Content
  | integer, bytes => .ok (UInt32.ofNat bytes.toNat).toInt32
  | longInteger, bytes => .ok (longOf bytes)
  | bigInteger, bytes => .ok (BigInteger.decode bytes)
  | enumeration, bytes => .ok (UInt32.ofNat bytes.toNat)
  | boolean, bytes =>
    match bytes.toNat with
    | 0 => .ok false
    | 1 => .ok true
    | _ => .error (.invalidBoolean bytes)
  | textString, bytes => (Utf8.decode bytes).mapError .invalidText
  | byteString, bytes => .ok bytes
  | dateTime, bytes =>
    let seconds := (longOf bytes).toInt
    (DateTime.ofUnix? seconds).elim (.error (.invalidDateTime seconds)) .ok
  | interval, bytes => .ok (UInt32.ofNat bytes.toNat)
  | dateTimeExtended, bytes => .ok (longOf bytes)

end Kmip.ScalarType
