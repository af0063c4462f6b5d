import Kmip.Failure
import Kmip.Selection
import Kmip.Version

/-!
# Messages

How requests and responses are made up, and when their parts fit together: the header counts the
batch items, every payload belongs to the operation of its item, and items have identifiers where
there are several of them.
-/

namespace Kmip

/-- An operation of the protocol. -/
abbrev Operation := Domain.operation.Member

/-- The operation that a payload belongs to, which has the name of the variant of the payload. -/
def Operation.ofPayload (variants : Variants) (payload : variants.Val) : Operation :=
  (Domain.operation.named? (variants.labelOf payload)).getD Domain.operation.first

namespace Batch

/-- What the parts of a batch item have to fit together. -/
structure Entry where
  operation : Operation
  /-- The operation that the payload belongs to, if there is a payload. -/
  payload : Option Operation
  id : Option Bytes
deriving DecidableEq

/-- The failure of a payload that belongs to another operation than its item. -/
def Entry.mismatch? (entry : Entry) : Option Failure :=
  match entry.payload with
  | none => none
  | some payload =>
    if entry.operation = payload then none
    else some <| .invalidMessage
      s!"operation {entry.operation.name} carries a {payload.name} payload"

/-- Makes sure that the parts of a batch fit together. -/
def check (count : Int32) (entries : List Entry) : Except Failure Unit :=
  if count.toInt ≠ entries.length then
    .error <| .invalidMessage
      s!"batch count {count.toInt} does not match the {entries.length} batch items"
  else
    match entries.findSome? Entry.mismatch? with
    | some failure => .error failure
    | none =>
      if 1 < entries.length ∧ entries.any (fun entry => entry.id.isNone) then
        .error <| .invalidMessage
          "every batch item requires a unique batch item id when batch count > 1"
      else .ok ()

/-- The number of items of a batch, as a header gives it. -/
def count (items : Nat) : Except Failure Int32 :=
  if items < 2147483648 then .ok (Int32.ofNat items)
  else .error (.invalidMessage Overflow.aboveWord.message)

end Batch

/-- A payload of a request. -/
abbrev RequestPayload := Records.requestPayloadVariants.Val

/-- One operation of a request. -/
abbrev RequestItem := Records.requestBatchItem.Val

/-- A request. -/
abbrev Request := Records.requestMessage.Val

namespace RequestItem

/-- The item of a payload, which says which operation it is. -/
def ofPayload (payload : RequestPayload) : RequestItem :=
  (Operation.ofPayload _ payload, (none, ()), payload, none, ())

/-- The item under an identifier. -/
def withId (id : Option Bytes) : RequestItem → RequestItem
  | (operation, _, payload, rest) => (operation, (id, ()), payload, rest)

/-- What the parts of an item have to fit together. -/
def entry : RequestItem → Batch.Entry
  | (operation, (id, _), payload, _) => ⟨operation, some (Operation.ofPayload _ payload), id⟩

end RequestItem

namespace Request

/-- The items of a request. -/
def items (request : Request) : List RequestItem :=
  request.2.1

/-- The number of items that the header tells. -/
def batchCount (request : Request) : Int32 :=
  match request with
  | ((_, _, _, _, _, _, _, count, _), _) => count

/-- Makes sure that the parts of a request fit together. -/
def validate (request : Request) : Except Failure Unit :=
  Batch.check request.batchCount (request.items.map RequestItem.entry)

/-- The request of some items, if they fit together. -/
def ofItems (version : Version) (items : List RequestItem) : Except Failure Request := do
  let count ← Batch.count items.length
  let request : Request := ((version, none, none, none, none, none, none, count, ()), items, ())
  request.validate
  pure request

end Request

/-- A payload of a response. -/
abbrev ResponsePayload := Records.responsePayloadVariants.Val

/-- The outcome of one operation. -/
abbrev ResponseItem := Records.responseBatchItem.Val

/-- A response. -/
abbrev Response := Records.responseMessage.Val

/-- Whether an operation succeeded. -/
abbrev ResultStatus := Domain.resultStatus.Member

namespace ResultStatus

/-- The operation succeeded. -/
def success : ResultStatus := ⟨0x0, by decide⟩

/-- The operation failed. -/
def operationFailed : ResultStatus := ⟨0x1, by decide⟩

end ResultStatus

namespace ResponseItem

/-- The item of an operation that succeeded, with its payload. -/
def success (payload : ResponsePayload) : ResponseItem :=
  (Operation.ofPayload _ payload, (none, ResultStatus.success, none, none, none, ()), some payload, none, ())

/-- The item of an operation that failed, with the reason and the text of the failure. -/
def failure (operation : Operation) (failure : Failure) : ResponseItem :=
  let outcome := (none, ResultStatus.operationFailed, some failure.reason, some failure.message,
    none, ())
  (operation, outcome, none, none, ())

/-- The item under an identifier. -/
def withId (id : Option Bytes) : ResponseItem → ResponseItem
  | (operation, (_, outcome), rest) => (operation, (id, outcome), rest)

/-- What the parts of an item have to fit together. -/
def entry : ResponseItem → Batch.Entry
  | (operation, (id, _), payload, _) => ⟨operation, payload.map (Operation.ofPayload _), id⟩

end ResponseItem

namespace Response

/-- The items of a response. -/
def items (response : Response) : List ResponseItem :=
  response.2.1

/-- The number of items that the header tells. -/
def batchCount (response : Response) : Int32 :=
  match response with
  | ((_, _, _, _, _, _, count, _), _) => count

/-- When the response was made, if the header tells. -/
def timeStamp (response : Response) : Option DateTime :=
  match response with
  | ((_, time, _), _) => time

/-- The response without the time at which it was made. -/
def withoutTimeStamp : Response → Response
  | ((version, _, rest), items) => ((version, none, rest), items)

/-- Makes sure that the parts of a response fit together. -/
def validate (response : Response) : Except Failure Unit :=
  Batch.check response.batchCount (response.items.map ResponseItem.entry)

/-- The response of some items at an instant, if they fit together. The time is told to the second,
because a fraction cannot be written. -/
def ofItems (version : Version) (now : DateTime) (items : List ResponseItem) :
    Except Failure Response := do
  let count ← Batch.count items.length
  let response : Response := ((version, some now.floor, none, [], none, none, count, ()), items, ())
  response.validate
  pure response

end Response

end Kmip
