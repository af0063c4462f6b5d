import Kmip.Config
import Kmip.Content
import Kmip.Item
import Kmip.Source

/-!
# Reading items

A reader goes once through a source, from the front. It can look ahead at one header, which is how
the absence of a field is noticed, and it keeps the structures that it has entered with the ends that
they declare. A step that fails leaves a reader that can go on.

Every typed step compares first the tag, then the type, then the length of the item with what it
expects, and the first difference is its fault.
-/

namespace Kmip

/-- The first eight bytes of an item. -/
structure Header where
  tag : Tag
  type : UInt8
  length : Nat
deriving DecidableEq, Repr

/-- The header that eight bytes make up. -/
def Header.ofBytes? : Bytes → Option Header
  | [a, b, c, type, d, e, f, g] =>
    some ⟨⟨UInt32.ofNat (Bytes.toNat [a, b, c])⟩, type, Bytes.toNat [d, e, f, g]⟩
  | _ => none

namespace Header

/-- Whether the item is a structure. -/
def isStructure (header : Header) : Bool :=
  header.type == ItemType.structured.byte

/-- How many bytes follow the header before the next item. -/
def span (header : Header) : Nat :=
  if header.isStructure then header.length else header.length + paddingLength header.length

end Header

/-- A structure that has been entered and not left. -/
structure OpenStructure where
  tag : Tag
  /-- Where the content starts. -/
  start : Nat
  /-- Where the content ends, as the header declares. -/
  stop : Nat
deriving DecidableEq, Repr

/-- A place in a source. -/
structure Reader where
  config : Config
  source : Source
  /-- How many bytes have been read, those of a header that was looked at included. -/
  offset : Nat
  /-- The header that was looked at, and that no step has taken yet. -/
  pending : Option Header
  /-- The structures that have been entered, the innermost first. -/
  opened : List OpenStructure
deriving DecidableEq, Repr

namespace Reader

/-- The start of a source. -/
def start (source : Source) (config : Config) : Reader where
  config
  source
  offset := 0
  pending := none
  opened := []

/-- How many structures have been entered. -/
def depth (reader : Reader) : Nat :=
  reader.opened.length

/-- Whether the innermost structure has been read to its end. -/
def atStop (reader : Reader) : Bool :=
  match reader.opened with
  | [] => false
  | innermost :: _ => innermost.stop ≤ reader.offset

/-- How many bytes no step has taken, those of a header that was looked at included. -/
def remaining (reader : Reader) : Nat :=
  reader.source.unread.length + if reader.pending.isSome then 8 else 0

end Reader

/-- The fault of a source that has no more bytes to give. -/
def Ending.fault : Ending → Fault
  | .closed => .endOfInput
  | .broken breakdown => breakdown.fault

/-- A step of a reader, which may fail, and leaves a reader in either case. -/
abbrev Read := EStateM Fault Reader

namespace Read

/-- A step that succeeds or fails without touching the reader. -/
def lift {α : Type} : Except Fault α → Read α
  | .ok value => pure value
  | .error fault => throw fault

/-- Exactly `count` bytes. Bytes that are too few are gone, but do not count as read. -/
def bytes (count : Nat) : Read Bytes := fun reader =>
  let (taken, source) := reader.source.pull count
  if taken.length = count then .ok taken { reader with source, offset := reader.offset + count }
  else .error source.ending.fault { reader with source }

/-- The next header, without taking it; none at the end of the innermost structure, and at the top
level also none where a closed source ends between two items. -/
def header? : Read (Option Header) := fun reader =>
  if reader.pending.isSome then .ok reader.pending reader
  else if reader.atStop then .ok none reader
  else
    let (taken, source) := reader.source.pull 8
    let moved := { reader with source, offset := reader.offset + taken.length }
    match Header.ofBytes? taken with
    | some header =>
      if ¬ header.isStructure ∧ reader.config.maxValueLength < header.length then
        .error (.valueTooLarge header.length reader.config.maxValueLength) moved
      else .ok (some header) { moved with pending := some header }
    | none =>
      match source.ending with
      | .broken breakdown => .error breakdown.fault { reader with source }
      | .closed =>
        if taken = [] ∧ reader.opened = [] then .ok none moved else .error .endOfInput moved

/-- The tag of the next item, without taking it. -/
def tag? : Read (Option Tag) := do
  let header ← header?
  pure (header.map Header.tag)

/-- Counts the header that was looked at as taken. -/
def dropPending : Read Unit :=
  modify fun reader => { reader with pending := none }

/-- Takes the next header. -/
def header : Read Header := do
  let some header ← header? | throw .endOfInput
  dropPending
  pure header

/-- Takes the next header if it has this tag and this type, and gives the length that it declares. A
header that is refused stays, and can be taken by another step. -/
def expect (tag : Tag) (type : ItemType) : Read Nat := do
  let some header ← header? | throw .endOfInput
  if header.tag ≠ tag then throw (.unexpectedTag tag header.tag)
  if header.type ≠ type.byte then throw (.unexpectedType type header.type)
  dropPending
  pure header.length

/-- The padding behind a content of `length` bytes. -/
def padding (tag : Tag) (length : Nat) : Read Unit := do
  let padding ← bytes (paddingLength length)
  if padding.any (· ≠ 0) then throw (.nonZeroPadding tag)

/-- The value of an item whose header has been taken. -/
def content (type : ScalarType) (tag : Tag) (length : Nat) : Read type.Content := do
  lift (type.checkLength length)
  let content ← bytes length
  padding tag length
  lift (type.decode content)

/-- The value of the next item, and how many bytes the item takes. -/
def sized (type : ScalarType) (tag : Tag) : Read (type.Content × Nat) := do
  let length ← expect tag (.scalar type)
  let value ← content type tag length
  pure (value, 8 + length + paddingLength length)

/-- The value of the next item. -/
def scalar (type : ScalarType) (tag : Tag) : Read type.Content := do
  let (value, _) ← sized type tag
  pure value

/-- Enters a structure whose header has been taken. -/
def enter (tag : Tag) (length : Nat) : Read Unit := fun reader =>
  if reader.config.maxDepth ≤ reader.depth then
    .error (.tooDeep reader.config.maxDepth) reader
  else
    let entered : OpenStructure := ⟨tag, reader.offset, reader.offset + length⟩
    let next := { reader with opened := entered :: reader.opened }
    match reader.opened with
    | [] => .ok () next
    | parent :: _ =>
      if parent.stop < entered.stop then
        .error (.structureLength parent.tag (parent.stop - parent.start)
          (entered.stop - parent.start)) reader
      else .ok () next

/-- Enters the structure that comes next. -/
def structureStart (tag : Tag) : Read Unit := do
  let length ← expect tag .structured
  enter tag length

/-- Leaves the innermost structure, which must have been read exactly to its declared end. -/
def structureEnd : Read Unit := fun reader =>
  match reader.opened with
  | [] => .error .noOpenStructure reader
  | left :: outer =>
    let next := { reader with opened := outer }
    if reader.pending.isSome ∨ reader.offset ≠ left.stop then
      .error (.structureLength left.tag (left.stop - left.start) (reader.offset - left.start)) next
    else .ok () next

/-- Passes over `count` bytes. Where a closed source ends too early, those that were there count as
read. -/
def pass (count : Nat) : Read Unit := fun reader =>
  let (taken, source) := reader.source.pull count
  let moved := { reader with source, offset := reader.offset + taken.length }
  if taken.length = count then .ok () moved
  else
    match source.ending with
    | .closed => .error .endOfInput moved
    | .broken breakdown => .error breakdown.fault { reader with source }

/-- Passes over the next item, whatever it is. -/
def skip : Read Unit := do
  let header ← header
  pass header.span

/-- Makes sure that nothing follows. -/
def finish : Read Unit := fun reader =>
  let next := { reader with source := reader.source.drained }
  match reader.source.ending with
  | .broken breakdown => .error breakdown.fault next
  | .closed =>
    if 0 < reader.remaining then .error (.trailingBytes reader.remaining) next else .ok () next

/-- The value of an item whose header has been taken; `children` reads the items of a structure that
has just been entered. -/
def value (children : Read (List Item)) (header : Header) : Read Value := do
  match ItemType.ofByte? header.type with
  | none => throw (.invalidType header.type)
  | some (.scalar type) =>
    let value ← content type header.tag header.length
    pure (.scalar type value)
  | some .structured =>
    enter header.tag header.length
    let items ← children
    structureEnd
    pure (.structured items)

/-- The items up to the end of the innermost structure. Every item takes a header, so `fuel` headers
are enough where no more than that can still come. -/
def itemsWithin : (fuel : Nat) → Read (List Item)
  | 0 => do
    match ← header? with
    | none => pure []
    | some _ => throw .endOfInput
  | fuel + 1 => do
    let some _ ← header? | pure []
    let header ← header
    let value ← value (itemsWithin fuel) header
    let rest ← itemsWithin fuel
    pure (⟨header.tag.text, value⟩ :: rest)

/-- How many headers can still come. -/
def headersLeft : Read Nat := do
  let reader ← get
  pure (reader.remaining / 8)

/-- The value of the next item, whatever its type, under any tag. -/
def taggedValue : Read (Tag × Value) := do
  let fuel ← headersLeft
  let header ← header
  let value ← value (itemsWithin fuel) header
  pure (header.tag, value)

/-- The next item. -/
def item : Read Item := do
  let (tag, value) ← taggedValue
  pure ⟨tag.text, value⟩

/-- The value of the next item, whatever its type, which must have this tag. -/
def valueAs (tag : Tag) : Read Value := do
  let fuel ← headersLeft
  let header ← header
  if header.tag ≠ tag then throw (.unexpectedTag tag header.tag)
  value (itemsWithin fuel) header

end Read

namespace Item

/-- The item that bytes hold, and that takes all of them. -/
def decode (config : Config) (bytes : Bytes) : Except Fault Item :=
  let whole : Read Item := do
    let item ← Read.item
    Read.finish
    pure item
  match whole (.start (.ofBytes bytes) config) with
  | .ok item _ => .ok item
  | .error fault _ => .error fault

end Item

end Kmip
