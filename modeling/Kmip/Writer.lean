import Kmip.Sink

/-!
# Writing items

How a writer puts items into a sink: the header, the content and the padding, each in a write of its
own. The header of a structure declares the length of what is in it, so this is written into a
buffer first and copied from there.
-/

namespace Kmip

/-- Whether contents of the type are padded. The others are whole groups of eight bytes. -/
def ScalarType.isPadded : ScalarType → Bool
  | integer | enumeration | interval | textString | byteString => true
  | longInteger | bigInteger | boolean | dateTime | dateTimeExtended => false

namespace Write

/-- A result that does not depend on the sink. -/
def lift {α : Type} : Except Fault α → EStateM Fault Sink α
  | .ok value => pure value
  | .error fault => throw fault

/-- Writes the header of an item: three bytes of tag, the type, and four bytes of length. -/
def header (tag : Tag) (type : ItemType) (length : Nat) : Write :=
  if 0xFFFFFF < tag.code.toNat then throw (.overflow (.tagTooWide tag))
  else if 0xFFFFFFFF < length then throw (.overflow (.lengthTooLarge length))
  else bytes (Bytes.bigEndian 3 tag.code.toNat ++ type.byte :: Bytes.bigEndian 4 length)

/-- Writes a content, and then its padding if it needs any. -/
def padded (content : Bytes) : Write := do
  bytes content
  if paddingLength content.length ≠ 0 then bytes (Bytes.zeros (paddingLength content.length))

/-- Writes a single value under a tag. -/
def scalar (type : ScalarType) (tag : Tag) (value : type.Content) : Write := do
  let content := type.encode value
  header tag (.scalar type) content.length
  if type.isPadded then padded content else bytes content

/-- What is written into an empty buffer, which takes everything. -/
def buffered (content : Write) : Encoded :=
  match content .empty with
  | .ok _ buffer => .ok buffer.written
  | .error fault _ => .error fault

/-- Writes a structure under a tag, around what its content writes into a buffer. -/
def structured (tag : Tag) (content : Write) : Write := do
  let items ← lift (buffered content)
  header tag .structured items.length
  bytes items

end Write

mutual

/-- Writes a value under a tag. -/
def Value.write (tag : Tag) : Value → Write
  | .structured items => Write.structured tag (Item.writeEach items)
  | .scalar type content => Write.scalar type tag content

/-- Writes items under their own tags, up to the first that fails. -/
def Item.writeEach : List Item → Write
  | [] => pure ()
  | ⟨text, value⟩ :: rest => do
    let tag ← Write.lift ((Tag.ofText text).mapError .badTag)
    value.write tag
    Item.writeEach rest

end

/-- Writes an item under its own tag. -/
def Item.write (item : Item) : Write := do
  let tag ← Write.lift ((Tag.ofText item.tag).mapError .badTag)
  item.value.write tag

end Kmip
