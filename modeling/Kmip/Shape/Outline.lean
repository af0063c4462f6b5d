import Kmip.Outline
import Kmip.Shape

/-!
# Outlines of records

A record is shown under its name, with its fields under their labels in the order in which they are
written; a value whose form is selected is shown under the name of the form.
-/

namespace Kmip

/-- The groups of 32 binary digits of a number, the lowest first; zero has none. -/
def BigInteger.words (n : Nat) : List Nat :=
  if n = 0 then [] else n % 4294967296 :: words (n / 4294967296)
termination_by n

/-- A big integer is shown as its sign and the groups of 32 binary digits of its absolute value. -/
def BigInteger.outline (n : Int) : Outline :=
  let sign := if n < 0 then "Minus" else if n = 0 then "NoSign" else "Plus"
  .wrapped "KmipBigInt" <| .fields "BigInt"
    [("sign", .atom sign),
      ("data", .fields "BigUint"
        [("data", .list ((words n.natAbs).map fun word : Nat => .integer word))])]

/-- Bytes are shown as a list of numbers. -/
def Bytes.outline (bytes : Bytes) : Outline :=
  .list (bytes.map fun byte => .integer byte.toNat)

/-- The outline of a truth value. -/
def Outline.ofBool (value : Bool) : Outline :=
  .atom (if value then "true" else "false")

/-- The outline of the value of an item. -/
def ScalarType.outline : (type : ScalarType) → type.Content → Outline
  | integer, value => .integer value.toInt
  | longInteger, value | dateTimeExtended, value => .integer value.toInt
  | bigInteger, value => BigInteger.outline value
  | enumeration, value | interval, value => .integer value.toNat
  | boolean, value => .ofBool value
  | textString, text => .quoted text
  | byteString, bytes => Bytes.outline bytes
  | dateTime, time => .atom time.text

mutual

/-- The outline of what an item holds. -/
def Value.outline : Value → Outline
  | .structured items => .wrapped ItemType.structured.name (.list (Item.outlines items))
  | .scalar type content => .wrapped (ItemType.scalar type).name (type.outline content)

/-- The outlines of items. -/
def Item.outlines : List Item → List Outline
  | [] => []
  | ⟨tag, value⟩ :: rest =>
    .fields "TTLV" [("tag", .quoted tag), ("value", value.outline)] :: Item.outlines rest

end

/-- The outline of a value of a leaf. -/
def Leaf.outline : (leaf : Leaf) → leaf.Val → Outline
  | integer, value => .integer value.toInt
  | longInteger, value => .integer value.toInt
  | bigInteger, value => BigInteger.outline value
  | boolean, value => .ofBool value
  | text, value => .quoted value
  | bytes, value => Bytes.outline value
  | dateTime, time => .atom time.text
  | timeStamp, time => .wrapped (ItemType.scalar .dateTime).name (.atom time.text)
  | interval, span => .atom span.text
  | enumeration _, member => .atom member.name
  | usageMask, mask => .wrapped "CryptographicUsageMask" (.integer mask.bits.toNat)
  | anything, value => value.outline

/-- The outline of the value of a field, which is marked where it may be absent. -/
def Presence.outline {α : Type} (outline : α → Outline) :
    (presence : Presence) → presence.Val α → Outline
  | required, value => outline value
  | optional, value => .optional (value.map outline)

mutual

/-- The outline of a value. -/
def Shape.outline : (shape : Shape) → shape.Val → Outline
  | .leaf leaf, value => leaf.outline value
  | .choice variants, value => variants.outline value
  | .record name _ fields, value => .fields name (fields.outlines value)

/-- The outlines of fields, each under its label. -/
def Fields.outlines : (fields : Fields) → fields.Val → List (String × Outline)
  | .nil, _ => []
  | .one presence _ label shape rest, (value, values) =>
    (label, presence.outline (fun value => shape.outline value) value) :: rest.outlines values
  | .many _ _ label shape rest, (items, values) =>
    (label, .list (items.map fun item => shape.outline item)) :: rest.outlines values
  | .embedded label name _ fields rest, (inner, values) =>
    (label, .fields name (fields.outlines inner)) :: rest.outlines values
  | .keyed selector _ keyLabel between presence _ label variants rest,
      (key, inner, value, values) =>
    (keyLabel, selector.leaf.outline key) :: between.outlines inner ++
      (label, presence.outline (fun value => variants.outline value) value) :: rest.outlines values

/-- The outline of a value, under the name of its variant. -/
def Variants.outline : (variants : Variants) → variants.Val → Outline
  | .only label shape, value => .wrapped label (shape.outline value)
  | .or label shape _, .inl value => .wrapped label (shape.outline value)
  | .or _ _ rest, .inr value => rest.outline value

end

/-- The outline of a record. -/
def Record.outline (record : Record) (value : record.Val) : Outline :=
  record.shape.outline value

end Kmip
