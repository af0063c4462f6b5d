import Kmip.Reader
import Kmip.Selection

/-!
# Reading records

The fields of a record are read in their order, each into the value that is there before: a field
that is absent keeps it, repeated fields go on behind it, and nested records are read into it. A
field whose form is selected starts afresh. Items whose tag the record does not declare are refused or
passed over, as the settings say; a declared tag that comes out of its order is always refused.
-/

namespace Kmip

namespace Read

/-- Passes over items as long as their tags are not among the known ones, or refuses the first of
them. No more than `fuel` headers can still come. -/
def skipUnknownWithin (record : String) (known : List Tag) : (fuel : Nat) → Read Unit
  | 0 => pure ()
  | fuel + 1 => do
    let some tag ← tag? | pure ()
    if tag ∈ known then pure ()
    else
      match (← get).config.unknownTags with
      | .reject => throw (.unknownTag record tag)
      | .skip =>
        skip
        skipUnknownWithin record known fuel

/-- Deals with the items ahead whose tags are not among the known ones. -/
def skipUnknown (record : String) (known : List Tag) : Read Unit := do
  skipUnknownWithin record known ((← headersLeft) + 1)

/-- Reads items as long as they have this tag. No more than `fuel` headers can still come. -/
def repeatedWithin {α : Type} (tag : Tag) (item : Read α) (between : Read Unit) :
    (fuel : Nat) → Read (List α)
  | 0 => pure []
  | fuel + 1 => do
    if (← tag?) ≠ some tag then pure []
    else
      let first ← item
      between
      let rest ← repeatedWithin tag item between fuel
      pure (first :: rest)

/-- Reads items as long as they have this tag. -/
def repeated {α : Type} (tag : Tag) (item : Read α) (between : Read Unit) : Read (List α) := do
  repeatedWithin tag item between ((← headersLeft) + 1)

/-- Makes sure that no field of the record follows the last one. -/
def noFurtherField (record : String) (known : List Tag) : Read Unit := do
  skipUnknown record known
  let some tag ← tag? | pure ()
  throw (.unexpectedField record tag)

end Read

namespace Leaf

/-- The member of a code that has been read. -/
def memberOf (domain : Domain) (code : UInt32) : Except Fault domain.Member :=
  (domain.member? code).elim (.error (.unknownEnumeration domain code)) .ok

/-- The value of the next item. -/
def read (tag : Tag) : (leaf : Leaf) → Read leaf.Val
  | integer => Read.scalar .integer tag
  | longInteger => Read.scalar .longInteger tag
  | bigInteger => Read.scalar .bigInteger tag
  | boolean => Read.scalar .boolean tag
  | text => Read.scalar .textString tag
  | bytes => Read.scalar .byteString tag
  | dateTime | timeStamp => Read.scalar .dateTime tag
  | interval => do
    let seconds ← Read.scalar .interval tag
    pure (Span.ofSeconds seconds.toNat)
  | enumeration domain => do
    let code ← Read.scalar .enumeration tag
    Read.lift (memberOf domain code)
  | usageMask => do
    let bits ← Read.scalar .integer tag
    pure (UsageMask.mk bits.toUInt32)
  | anything => Read.valueAs tag

end Leaf

/-- Reads a field that stands once, or at most once. What reads its item is given the value that is
there before, or `blank` when there is none. -/
def Presence.read {α : Type} (record : String) (tag : Tag) (item : α → Read α) (blank : α) :
    (presence : Presence) → presence.Val α → Read (presence.Val α)
  | required, value => do
    if (← Read.tag?) = some tag then item value else throw (.missingField record tag)
  | optional, value => do
    if (← Read.tag?) = some tag then
      let value ← item (value.getD blank)
      pure (some value)
    else pure value

mutual

/-- Reads the next item into a value. -/
def Shape.read (tag : Tag) : (shape : Shape) → shape.Val → Read shape.Val
  | .leaf leaf, _ => leaf.read tag
  | .choice variants, value => variants.read tag value
  | .record name _ fields, value => do
    Read.structureStart tag
    let value ← fields.read name fields.tags value
    Read.noFurtherField name fields.tags
    Read.structureEnd
    pure value

/-- Reads fields into their values. The tags that the enclosing structure admits are `known`. -/
def Fields.read (record : String) (known : List Tag) :
    (fields : Fields) → fields.Val → Read fields.Val
  | .nil, _ => pure ()
  | .one presence tag _ shape rest, (value, values) => do
    Read.skipUnknown record known
    let value ← presence.read record tag (shape.read tag) shape.blank value
    let values ← rest.read record known values
    pure (value, values)
  | .many atLeastOne tag _ shape rest, (items, values) => do
    Read.skipUnknown record known
    let more ← Read.repeated tag (shape.read tag shape.blank) (Read.skipUnknown record known)
    if more.isEmpty && atLeastOne then throw (.missingField record tag)
    let values ← rest.read record known values
    pure (items ++ more, values)
  | .embedded _ name _ fields rest, (inner, values) => do
    Read.skipUnknown record known
    let inner ← fields.read name known inner
    let values ← rest.read record known values
    pure (inner, values)
  | .keyed selector keyTag _ between presence tag _ variants rest,
      (key, inner, value, values) => do
    Read.skipUnknown record known
    let key ← Presence.required.read record keyTag (fun _ => selector.leaf.read keyTag)
      selector.leaf.blank key
    let inner ← between.read record known inner
    Read.skipUnknown record known
    let selected := do
      let blank ← Read.lift ((Selection.of selector key).blank variants)
      variants.read tag blank
    let value ← presence.read record tag (fun _ => selected) variants.blank value
    let values ← rest.read record known values
    pure (key, inner, value, values)

/-- Reads the next item into a value, in the form of its variant. -/
def Variants.read (tag : Tag) : (variants : Variants) → variants.Val → Read variants.Val
  | .only _ shape, value => shape.read tag value
  | .or _ shape _, .inl value => do
    let value ← shape.read tag value
    pure (.inl value)
  | .or _ _ rest, .inr value => do
    let value ← rest.read tag value
    pure (.inr value)

end

namespace Record

/-- Reads a record under its own tag. -/
def read (record : Record) : Read record.Val :=
  record.shape.read record.tag record.blank

/-- Reads one record from a source, and gives the source with what follows it. -/
def readFrom (record : Record) (config : Config) (source : Source) :
    Except Fault record.Val × Source :=
  match record.read (.start source config) with
  | .ok value reader => (.ok value, reader.source)
  | .error fault reader => (.error fault, reader.source)

/-- The record that bytes hold, and that takes all of them. -/
def decode (record : Record) (config : Config) (bytes : Bytes) : Except Fault record.Val :=
  let whole : Read record.Val := do
    let value ← record.read
    Read.finish
    pure value
  match whole (.start (.ofBytes bytes) config) with
  | .ok value _ => .ok value
  | .error fault _ => .error fault

end Record

end Kmip
