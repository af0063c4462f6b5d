import Kmip.Content
import Kmip.Item

/-!
# Encoding items

An item is written as a header, its content and its padding. A structure declares the length of what
it holds, so its items are encoded before its own header.
-/

namespace Kmip

/-- An encoded item, or the reason why it has no encoding. -/
abbrev Encoded := Except Fault Bytes

namespace Encoded

/-- The encodings of items that follow each other, up to the first that is refused. -/
def concat : List Encoded → Encoded
  | [] => .ok []
  | first :: rest => do
    let bytes ← first
    let more ← concat rest
    pure (bytes ++ more)

/-- An item around its content: three bytes of tag, the type, four bytes of length, the content, and
padding to a multiple of eight bytes. -/
def frame (tag : Tag) (type : ItemType) (content : Bytes) : Encoded :=
  if 0xFFFFFF < tag.code.toNat then .error (.overflow (.tagTooWide tag))
  else if 0xFFFFFFFF < content.length then .error (.overflow (.lengthTooLarge content.length))
  else
    .ok <| Bytes.bigEndian 3 tag.code.toNat ++ type.byte :: Bytes.bigEndian 4 content.length ++
      content ++ (if type = .structured then [] else Bytes.zeros (paddingLength content.length))

/-- A single value under a tag. -/
def scalar (type : ScalarType) (tag : Tag) (value : type.Content) : Encoded :=
  frame tag (.scalar type) (type.encode value)

/-- A structure of encoded items. -/
def structured (tag : Tag) (items : List Encoded) : Encoded := do
  let content ← concat items
  frame tag .structured content

end Encoded

mutual

/-- A value under a tag. -/
def Value.encode (tag : Tag) : Value → Encoded
  | .structured items => Encoded.structured tag (Item.encodeEach items)
  | .scalar type content => Encoded.scalar type tag content

/-- Items under their own tags. -/
def Item.encodeEach : List Item → List Encoded
  | [] => []
  | ⟨text, value⟩ :: rest =>
    (do
      let tag ← (Tag.ofText text).mapError .badTag
      value.encode tag) :: Item.encodeEach rest

end

/-- An item under its own tag. -/
def Item.encode (item : Item) : Encoded := do
  let tag ← (Tag.ofText item.tag).mapError .badTag
  item.value.encode tag

end Kmip
