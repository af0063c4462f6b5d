import Kmip.Shape.Encode
import Kmip.Writer

/-!
# Writing records into a sink

A writer goes through the fields of a record in their order. It stops at the first that is missing
where it must not be, that does not have the form selected for it, or that cannot be written. What
it has written before stays in the sink, which is a buffer where the record is a structure.
-/

namespace Kmip

namespace Leaf

/-- Writes a value of a leaf under a tag. -/
def write (tag : Tag) : (leaf : Leaf) → leaf.Val → Write
  | integer, value => Write.scalar .integer tag value
  | longInteger, value => Write.scalar .longInteger tag value
  | bigInteger, value => Write.scalar .bigInteger tag value
  | boolean, value => Write.scalar .boolean tag value
  | text, value => Write.scalar .textString tag value
  | bytes, value => Write.scalar .byteString tag value
  | dateTime, time | timeStamp, time => Write.scalar .dateTime tag time
  | interval, span => do
    let seconds ← Write.lift (intervalSeconds span)
    Write.scalar .interval tag seconds
  | enumeration _, member => Write.scalar .enumeration tag member.code
  | usageMask, mask => Write.scalar .integer tag mask.bits.toInt32
  | anything, value => value.write tag

end Leaf

/-- Writes the value of a field, if there is one. -/
def Presence.write {α : Type} (item : α → Write) : (presence : Presence) → presence.Val α → Write
  | required, value => item value
  | optional, none => pure ()
  | optional, some value => item value

/-- Writes values one after the other, up to the first that fails. -/
def Write.list {α : Type} (item : α → Write) : List α → Write
  | [] => pure ()
  | first :: rest => do
    item first
    Write.list item rest

mutual

/-- Writes a value under a tag. -/
def Shape.write (tag : Tag) : (shape : Shape) → shape.Val → Write
  | .leaf leaf, value => leaf.write tag value
  | .choice variants, value => variants.write tag value
  | .record name _ fields, value => Write.structured tag (fields.write name value)

/-- Writes fields in their order. -/
def Fields.write (record : String) : (fields : Fields) → fields.Val → Write
  | .nil, _ => pure ()
  | .one presence tag _ shape rest, (value, values) => do
    presence.write (fun value => shape.write tag value) value
    rest.write record values
  | .many atLeastOne tag _ shape rest, (items, values) => do
    if items.isEmpty && atLeastOne then throw (.missingField record tag)
    Write.list (fun item => shape.write tag item) items
    rest.write record values
  | .embedded _ name _ fields rest, (inner, values) => do
    fields.write name inner
    rest.write record values
  | .keyed selector keyTag _ between presence tag _ variants rest,
      (key, inner, value, values) => do
    selector.leaf.write keyTag key
    between.write record inner
    presence.write (fun value => do
      Write.lift ((Selection.of selector key).check variants value)
      variants.write tag value) value
    rest.write record values

/-- Writes a value under a tag, in the form of its variant. -/
def Variants.write (tag : Tag) : (variants : Variants) → variants.Val → Write
  | .only _ shape, value => shape.write tag value
  | .or _ shape _, .inl value => shape.write tag value
  | .or _ _ rest, .inr value => rest.write tag value

end

end Kmip
