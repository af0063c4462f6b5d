import Kmip.Encoding
import Kmip.Selection

/-!
# Writing records

A record is a structure of its fields, in their order. Absent fields leave nothing, a field that
stands several times leaves an item each time, and the fields of an embedded record stand among the
others.
-/

namespace Kmip

namespace Leaf

/-- The seconds of a span, which must be whole and fit a word. -/
def intervalSeconds (span : Span) : Except Fault UInt32 :=
  if span.nanos ≠ .zero then .error (.overflow (.fractionalInterval span))
  else if 0xFFFFFFFF < span.seconds then .error (.overflow (.longInterval span.seconds))
  else .ok (UInt32.ofNat span.seconds)

/-- A value of a leaf under a tag. -/
def encode (tag : Tag) : (leaf : Leaf) → leaf.Val → Encoded
  | integer, value => Encoded.scalar .integer tag value
  | longInteger, value => Encoded.scalar .longInteger tag value
  | bigInteger, value => Encoded.scalar .bigInteger tag value
  | boolean, value => Encoded.scalar .boolean tag value
  | text, value => Encoded.scalar .textString tag value
  | bytes, value => Encoded.scalar .byteString tag value
  | dateTime, time | timeStamp, time => Encoded.scalar .dateTime tag time
  | interval, span => do Encoded.scalar .interval tag (← intervalSeconds span)
  | enumeration _, member => Encoded.scalar .enumeration tag member.code
  | usageMask, mask => Encoded.scalar .integer tag mask.bits.toInt32
  | anything, value => value.encode tag

end Leaf

mutual

/-- A value under a tag. -/
def Shape.encode (tag : Tag) : (shape : Shape) → shape.Val → Encoded
  | .leaf leaf, value => leaf.encode tag value
  | .choice variants, value => variants.encode tag value
  | .record name _ fields, value => Encoded.structured tag (fields.encodeEach name value)

/-- The items of fields, in their order. -/
def Fields.encodeEach (record : String) : (fields : Fields) → fields.Val → List Encoded
  | .nil, _ => []
  | .one presence tag _ shape rest, (value, values) =>
    ((presence.toOption value).map fun value => shape.encode tag value).toList ++
      rest.encodeEach record values
  | .many atLeastOne tag _ shape rest, (items, values) =>
    (if items.isEmpty && atLeastOne then [.error (.missingField record tag)]
      else items.map fun item => shape.encode tag item) ++ rest.encodeEach record values
  | .embedded _ name _ fields rest, (inner, values) =>
    fields.encodeEach name inner ++ rest.encodeEach record values
  | .keyed selector keyTag _ between presence tag _ variants rest, (key, inner, value, values) =>
    let selected := fun value => do
      (Selection.of selector key).check variants value
      variants.encode tag value
    selector.leaf.encode keyTag key :: between.encodeEach record inner ++
      ((presence.toOption value).map selected).toList ++ rest.encodeEach record values

/-- A value under a tag, in the form of its variant. -/
def Variants.encode (tag : Tag) : (variants : Variants) → variants.Val → Encoded
  | .only _ shape, value => shape.encode tag value
  | .or _ shape _, .inl value => shape.encode tag value
  | .or _ _ rest, .inr value => rest.encode tag value

end

/-- A record under its own tag. -/
def Record.encode (record : Record) (value : record.Val) : Encoded :=
  record.shape.encode record.tag value

end Kmip
