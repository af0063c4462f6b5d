import Kmip.Bytes
import Kmip.DateTime

/-!
# Item types

The byte of an item's header that says how its content is to be read: a structure holds further
items, and each scalar type holds one value.
-/

namespace Kmip

/-- The types of items that hold a single value. -/
inductive ScalarType where
  | integer
  | longInteger
  | bigInteger
  | enumeration
  | boolean
  | textString
  | byteString
  | dateTime
  | interval
  | dateTimeExtended
deriving DecidableEq, Repr

namespace ScalarType

/-- The values of a scalar type. An interval counts seconds, an extended date-time microseconds. -/
@[reducible] def Content : ScalarType → Type
  | integer => Int32
  | longInteger => Int64
  | bigInteger => Int
  | enumeration => UInt32
  | boolean => Bool
  | textString => String
  | byteString => Bytes
  | dateTime => DateTime
  | interval => UInt32
  | dateTimeExtended => Int64

end ScalarType

/-- The types of items. -/
inductive ItemType where
  | structured
  | scalar (type : ScalarType)
deriving DecidableEq, Repr

namespace ItemType

/-- Every type, in the order of the bytes. -/
def all : List ItemType :=
  [.structured, .scalar .integer, .scalar .longInteger, .scalar .bigInteger, .scalar .enumeration,
    .scalar .boolean, .scalar .textString, .scalar .byteString, .scalar .dateTime,
    .scalar .interval, .scalar .dateTimeExtended]

/-- The byte of a type. -/
def byte : ItemType → UInt8
  | .structured => 1
  | .scalar .integer => 2
  | .scalar .longInteger => 3
  | .scalar .bigInteger => 4
  | .scalar .enumeration => 5
  | .scalar .boolean => 6
  | .scalar .textString => 7
  | .scalar .byteString => 8
  | .scalar .dateTime => 9
  | .scalar .interval => 10
  | .scalar .dateTimeExtended => 11

/-- The name of a type. -/
def name : ItemType → String
  | .structured => "Structure"
  | .scalar .integer => "Integer"
  | .scalar .longInteger => "LongInteger"
  | .scalar .bigInteger => "BigInteger"
  | .scalar .enumeration => "Enumeration"
  | .scalar .boolean => "Boolean"
  | .scalar .textString => "TextString"
  | .scalar .byteString => "ByteString"
  | .scalar .dateTime => "DateTime"
  | .scalar .interval => "Interval"
  | .scalar .dateTimeExtended => "DateTimeExtended"

/-- The type of a byte. -/
def ofByte? (byte : UInt8) : Option ItemType :=
  all.find? fun type => type.byte = byte

/-- The type of a name. -/
def named? (name : String) : Option ItemType :=
  all.find? fun type => type.name = name

/-- Every type is found by its byte. -/
@[simp] theorem ofByte?_byte (type : ItemType) : ofByte? type.byte = some type := by
  rcases type with _ | (_ | _) <;> decide

/-- A type that is found has the byte looked for. -/
theorem byte_of_ofByte? {byte : UInt8} {type : ItemType} (found : ofByte? byte = some type) :
    type.byte = byte := by
  simpa using List.find?_some found

end ItemType

end Kmip
