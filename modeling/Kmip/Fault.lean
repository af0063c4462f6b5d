import Kmip.BigInteger
import Kmip.Enumeration
import Kmip.ItemType
import Kmip.Span
import Kmip.Tag
import Kmip.Text.Utf8

/-!
# Faults

Everything that can be wrong with bytes that are read, or with a value that is to be written, each
with what is needed to tell where it lies.
-/

namespace Kmip

/-- A number that does not fit where it has to go. -/
inductive Overflow where
  /-- The tag takes more than the three bytes of a header. -/
  | tagTooWide (tag : Tag)
  /-- The length takes more than the four bytes of a header. -/
  | lengthTooLarge (length : Nat)
  /-- The span has a fraction of a second. -/
  | fractionalInterval (span : Span)
  /-- The seconds of the span take more than four bytes. -/
  | longInterval (seconds : Nat)
  /-- The number is above every word. -/
  | aboveWord
  /-- The number is below every word. -/
  | belowWord
deriving DecidableEq

/-- The text of a number that does not fit. -/
def Overflow.message : Overflow → String
  | .tagTooWide tag => s!"tag 0x{Hex.ofNatUpper 1 tag.code.toNat} does not fit 3 bytes"
  | .lengthTooLarge length => s!"length too large: {length}"
  | .fractionalInterval span => s!"interval of {span.text} is not a whole number of seconds"
  | .longInterval seconds => s!"interval of {seconds} seconds"
  | .aboveWord => "number too large to fit in target type"
  | .belowWord => "number too small to fit in target type"

/-- What is wrong with bytes or with a value. -/
inductive Fault where
  /-- Another tag stands where this one is expected. -/
  | unexpectedTag (expected actual : Tag)
  /-- The item has another type than its place demands. -/
  | unexpectedType (expected : ItemType) (actual : UInt8)
  /-- The item has another length than its type demands. -/
  | unexpectedLength (expected actual : Nat)
  /-- No type has this byte. -/
  | invalidType (byte : UInt8)
  /-- A field of the record stands where it may not, or once too often. -/
  | unexpectedField (record : String) (tag : Tag)
  /-- The content of a structure ends elsewhere than declared. -/
  | structureLength (tag : Tag) (declared actual : Nat)
  /-- The bytes end within an item. -/
  | endOfInput
  /-- Eight bytes that are neither zero nor one. -/
  | invalidBoolean (bytes : Bytes)
  /-- The padding of an item holds something. -/
  | nonZeroPadding (tag : Tag)
  /-- A text string that is no text. -/
  | invalidText (flaw : Utf8.Fault)
  /-- A second outside the years -9999 to 9999. -/
  | invalidDateTime (seconds : Int)
  /-- A big integer that is not made of groups of eight bytes. -/
  | invalidBigIntegerLength (length : Nat)
  /-- The domain does not know the code. -/
  | unknownEnumeration (domain : Domain) (code : UInt32)
  /-- The registry does not know the number. -/
  | unknownTagValue (tag : Tag)
  /-- A field that the record needs is absent. -/
  | missingField (record : String) (tag : Tag)
  /-- Nothing is known of the form that this value selects. -/
  | unsupported (what value : String)
  /-- A value has another form than the one selected for it. -/
  | mismatched (what value : String)
  /-- The record declares no field of this tag. -/
  | unknownTag (record : String) (tag : Tag)
  /-- An item declares more bytes than the reader takes. -/
  | valueTooLarge (length max : Nat)
  /-- More structures lie within each other than the reader takes. -/
  | tooDeep (max : Nat)
  /-- Bytes follow the end of the message. -/
  | trailingBytes (count : Nat)
  /-- A number does not fit. -/
  | overflow (cause : Overflow)
  /-- The source or the sink failed, with this report. -/
  | io (report : String)
  /-- A text names no tag. -/
  | badTag (cause : Tag.Fault)
  /-- A structure is left that was not entered. -/
  | noOpenStructure
  /-- A failure of another kind, with its report. -/
  | other (report : String)
deriving DecidableEq

/-- Bytes as a list of decimal numbers. -/
def Bytes.listText (bytes : Bytes) : String :=
  "[" ++ ", ".intercalate (bytes.map fun byte => String.ofList (Decimal.ofNat byte.toNat)) ++ "]"

/-- The text of a fault. -/
def Fault.message : Fault → String
  | .unexpectedTag expected actual =>
    s!"expecting tag {Hex.ofNat expected.code.toNat}, " ++
      s!"but {Hex.ofNat actual.code.toNat} was encountered"
  | .unexpectedType expected actual =>
    s!"expecting type {expected.byte.toNat}, but {actual.toNat} was encountered"
  | .unexpectedLength expected actual =>
    s!"expecting length {expected}, but {actual} was encountered"
  | .invalidType byte => s!"invalid item type: 0x{Hex.ofNatUpper 2 byte.toNat}"
  | .unexpectedField record tag => s!"unexpected field {tag.text} in {record}"
  | .structureLength tag declared actual =>
    s!"structure {tag.text} declares {declared} bytes but its content spans {actual} bytes"
  | .endOfInput => "unexpected end of input"
  | .invalidBoolean bytes => s!"unexpected boolean value: {bytes.listText}"
  | .nonZeroPadding tag => s!"non zero padding after {tag.text}"
  | .invalidText flaw => s!"invalid UTF-8 text string: {flaw.message}"
  | .invalidDateTime seconds => s!"invalid date time: {seconds}"
  | .invalidBigIntegerLength length =>
    s!"invalid big integer length: {length}, expected a multiple of 8"
  | .unknownEnumeration domain code =>
    s!"unknown {domain.name} value: 0x{Hex.ofNatUpper 8 code.toNat}"
  | .unknownTagValue tag => s!"unknown tag value: {tag.hexText}"
  | .missingField record tag => s!"missing required field {tag.text} in {record}"
  | .unsupported what value => s!"unsupported {what}: {value}"
  | .mismatched what value => s!"value does not match {what} {value}"
  | .unknownTag record tag => s!"unknown tag {tag.text} in {record}"
  | .valueTooLarge length max => s!"declared length {length} exceeds the maximum of {max} bytes"
  | .tooDeep max => s!"structures are nested deeper than {max} levels"
  | .trailingBytes count => s!"{count} bytes left after the end of the message"
  | .overflow cause => s!"value out of range: {cause.message}"
  | .io report => report
  | .badTag cause => cause.message
  | .noOpenStructure => "no structure to close"
  | .other report => report

/-- The kinds of failures of a source or a sink that are told apart. -/
inductive Breakdown.Kind where
  /-- The bytes are said to end where more were asked for. -/
  | unexpectedEnd
  /-- Anything else. -/
  | other
deriving DecidableEq, Repr

/-- A failure of a source or of a sink. -/
structure Breakdown where
  kind : Breakdown.Kind
  report : String
deriving DecidableEq, Repr

/-- The fault that comes of a failure. One that says that the bytes have ended counts as their end,
and its report is lost. -/
def Breakdown.fault (breakdown : Breakdown) : Fault :=
  match breakdown.kind with
  | .unexpectedEnd => .endOfInput
  | .other => .io breakdown.report

/-- A failure counts as the end of the bytes, or is told by its report. -/
theorem Breakdown.fault_eq (breakdown : Breakdown) :
    breakdown.fault = .endOfInput ∨ breakdown.fault = .io breakdown.report := by
  cases breakdown with
  | mk kind report =>
    cases kind with
    | unexpectedEnd => exact .inl rfl
    | other => exact .inr rfl

/-- The value of bytes that hold a big integer, which are groups of eight. -/
def BigInteger.ofBytes (bytes : Bytes) : Except Fault Int :=
  if bytes.length % 8 = 0 then .ok (decode bytes)
  else .error (.invalidBigIntegerLength bytes.length)

/-- The registered tag of a number. -/
def Tag.ofCode (code : UInt32) : Except Kmip.Fault Tag :=
  if (registered? ⟨code⟩).isSome then .ok ⟨code⟩ else .error (.unknownTagValue ⟨code⟩)

end Kmip
