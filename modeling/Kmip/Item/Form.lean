import Kmip.Content
import Kmip.Item
import Kmip.Json.Primitive

/-!
# The JSON form of items

An item is an object with its tag, its type and its value. Integers, intervals, truth values and texts
are written as they are; numbers of 64 bits or more as hexadecimal text after `0x`, so are codes; bytes
as hexadecimal text, and date-times as RFC 3339 text.

The type of an item stands before its value, because it says how the value is to be read; an item
without a type is a structure. A form is read either from its text, as far as the first fault, or from
a JSON value.
-/

namespace Kmip

open Json (Primitive Scan)

/-- The names of the members of a form. -/
def formNames : List String :=
  ["tag", "type", "value"]

namespace ScalarType

/-- Bytes as digits after `0x`. -/
def hexForm (bytes : Bytes) : Json :=
  .string ("0x" ++ Hex.encodeUpper bytes)

/-- The form of a value. -/
def form : (type : ScalarType) → type.Content → Except Json.Fault Json
  | integer, value => .ok (.integer value.toInt)
  | longInteger, value => .ok (hexForm (encode longInteger value))
  | bigInteger, value => .ok (hexForm (encode bigInteger value))
  | enumeration, code => .ok (hexForm (encode enumeration code))
  | boolean, value => .ok (.bool value)
  | textString, text => .ok (.string text)
  | byteString, bytes => .ok (.string (Hex.encodeUpper bytes))
  | dateTime, time =>
    match DateTime.Rfc3339.format time with
    | .ok text => .ok (.string text)
    | .error fault => .error (.unwritableDate fault)
  | interval, seconds => .ok (.integer seconds.toNat)
  | dateTimeExtended, micros => .ok (hexForm (encode dateTimeExtended micros))

/-- The bytes that digits spell. -/
def bytesOfDigits (what text digits : String) : Except Json.Fault Bytes :=
  (Hex.decode digits).mapError fun _ => .badText what text

/-- The bytes that digits after `0x` spell. -/
def bytesOfHex (what text : String) : Except Json.Fault Bytes :=
  match text.toList with
  | '0' :: 'x' :: digits => bytesOfDigits what text (String.ofList digits)
  | _ => .error (.badText what text)

/-- The number of so many bytes, which digits after `0x` spell. -/
def wordOfHex (what : String) (width : Nat) (text : String) : Except Json.Fault Nat := do
  let bytes ← bytesOfHex what text
  if bytes.length = width then pure bytes.toNat else throw (.badText what text)

/-- The value of a form, taken from primitive values. -/
def ofForm {m : Type → Type} [Monad m] [MonadExceptOf Json.Fault m] (primitive : Primitive m) :
    (type : ScalarType) → m type.Content
  | integer => do
    let n ← primitive.whole (-2147483648) 2147483647 "i32"
    pure (Int32.ofInt n)
  | longInteger => do
    let word ← ofExcept (wordOfHex "a long integer" 8 (← primitive.text))
    pure (UInt64.ofNat word).toInt64
  | bigInteger => do
    let bytes ← ofExcept (bytesOfHex "a big integer" (← primitive.text))
    ofExcept ((BigInteger.ofBytes bytes).mapError Json.Fault.badItem)
  | enumeration => do
    let word ← ofExcept (wordOfHex "an enumeration" 4 (← primitive.text))
    pure (UInt32.ofNat word)
  | boolean => primitive.boolean
  | textString => primitive.text
  | byteString => do
    let text ← primitive.text
    ofExcept (bytesOfDigits "a byte string" text text)
  | dateTime => do
    let text ← primitive.text
    match DateTime.Rfc3339.parse text with
    | some time => pure time
    | none => throw (Json.Fault.badText "an RFC 3339 date" text)
  | interval => do
    let n ← primitive.whole 0 4294967295 "u32"
    pure (UInt32.ofNat n.toNat)
  | dateTimeExtended => do
    let word ← ofExcept (wordOfHex "an extended date time" 8 (← primitive.text))
    pure (UInt64.ofNat word).toInt64

end ScalarType

mutual

/-- The form of an item. -/
def Item.form : Item → Except Json.Fault Json
  | ⟨tag, .structured items⟩ => do
    let items ← Item.forms items
    pure (.object [("tag", .string tag), ("type", .string ItemType.structured.name),
      ("value", .array items)])
  | ⟨tag, .scalar type content⟩ => do
    let value ← type.form content
    pure (.object [("tag", .string tag), ("type", .string (ItemType.scalar type).name),
      ("value", value)])

/-- The forms of items. -/
def Item.forms : List Item → Except Json.Fault (List Json)
  | [] => pure []
  | item :: rest => do
    let form ← item.form
    let forms ← Item.forms rest
    pure (form :: forms)

end

/-- The members of a form that have been read so far. -/
structure Draft where
  tag : Option String := none
  type : Option ItemType := none
  value : Option Value := none

namespace Draft

/-- A member of a form. -/
inductive Member where
  | tag
  | type
  | value
deriving DecidableEq, Repr

/-- The member of a name, if it may stand behind those that have been read. -/
def member (draft : Draft) (name : String) : Except Json.Fault Member :=
  if name = "tag" then
    if draft.tag.isSome then .error (.duplicateField name) else .ok .tag
  else if name = "type" then
    if draft.type.isSome then .error (.duplicateField name)
    else if draft.value.isSome then .error .typeAfterValue
    else .ok .type
  else if name = "value" then
    if draft.value.isSome then .error (.duplicateField name) else .ok .value
  else .error (.unknownField name formNames)

/-- The type of a name. -/
def typeNamed (name : String) : Except Json.Fault ItemType :=
  (ItemType.named? name).elim (.error (.unknownType name)) .ok

/-- Reads a member; `items` reads the items of a structure. -/
def take {m : Type → Type} [Monad m] [MonadExceptOf Json.Fault m] (primitive : Primitive m)
    (items : m (List Item)) (draft : Draft) : Member → m Draft
  | .tag => do
    let tag ← primitive.text
    pure { draft with tag }
  | .type => do
    let type ← ofExcept (typeNamed (← primitive.text))
    pure { draft with type }
  | .value => do
    match draft.type.getD .structured with
    | .structured =>
      let items ← items
      pure { draft with value := some (.structured items) }
    | .scalar type =>
      let content ← type.ofForm primitive
      pure { draft with value := some (.scalar type content) }

/-- The item of a form of which all members have been read. -/
def item (draft : Draft) : Except Json.Fault Item :=
  match draft.tag, draft.value with
  | none, _ => .error (.missingField "tag")
  | some _, none => .error (.missingField "value")
  | some tag, some value => .ok ⟨tag, value⟩

end Draft

namespace Item

/-- Takes the form of an item from a text; `items` takes the items of a structure. At the limit of the
depth nothing may be entered, and there is no `items`. -/
def scanWith (items : Option (Scan (List Item))) : Scan Item := do
  match ← Scan.next?, items with
  | some '\x7b', some items =>
    Scan.advance
    let member : Draft → String → Scan Draft := fun draft name => do
      let member ← ofExcept (draft.member name)
      Scan.colon
      draft.take Scan.primitive items member
    let draft ← Scan.members member {}
    ofExcept draft.item
  | some '\x7b', none | some '[', none => throw .malformed
  | _, _ => Scan.mismatch "struct TTLV"

/-- Takes the items of a structure from a text. -/
def scanItems (item : Option (Scan Item)) : Scan (List Item) := do
  match ← Scan.next?, item with
  | some '[', some item =>
    Scan.advance
    Scan.items item
  | some '[', none => throw .malformed
  | _, _ => Scan.mismatch "a sequence"

/-- Takes the form of an item from a text, with at most so many arrays and objects within each
other. -/
def scan : (depth : Nat) → Scan Item
  | 0 => scanWith none
  | 1 => scanWith (some (scanItems none))
  | depth + 2 => scanWith (some (scanItems (some (scan depth))))

/-- The item of which a text is the form. -/
def ofFormText (text : String) : Except Json.Fault Item :=
  (scan Json.depthLimit).whole text

mutual

/-- The item of which a value is the form. -/
def ofForm : Json → Except Json.Fault Item
  | .object members => ofMembers {} members
  | value => .error (.invalidType value.found "struct TTLV")

/-- The item of a form of which some members have been read. -/
def ofMembers (draft : Draft) : List (String × Json) → Except Json.Fault Item
  | [] => draft.item
  | (name, value) :: rest => do
    let member ← draft.member name
    let items : Except Json.Fault (List Item) :=
      match value with
      | .array items => ofForms items
      | _ => .error (.invalidType value.found "a sequence")
    let draft ← draft.take value.primitive items member
    ofMembers draft rest

/-- The items of which values are the forms. -/
def ofForms : List Json → Except Json.Fault (List Item)
  | [] => pure []
  | value :: rest => do
    let item ← ofForm value
    let items ← ofForms rest
    pure (item :: items)

end

/-- The item of which a text is the form, read by way of a value whose members are sorted. -/
def ofFormValue (text : String) : Except Json.Fault Item := do
  let value ← Json.parse text
  ofForm value.sorted

end Item

end Kmip
