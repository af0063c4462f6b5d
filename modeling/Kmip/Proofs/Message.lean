import Kmip.Message
import Kmip.Proofs.Arrival

/-!
# Sending messages

A request or a response that is made of batch items, each of which can be sent on its own, arrives,
unless there are no items at all: making a message and validating it admit an empty batch, but its
record must hold an item (`Message.arrives_iff`).
-/

namespace Kmip

/-- The batch item is written on its own, and a receiver admits it inside of a message. -/
structure Record.Sendable (record : Record) (value : record.Val) : Prop where
  written : ∃ bytes, record.encode value = .ok bytes
  admissible : (record.item value).Admissible
  /-- At most 62 structures lie within each other in the batch item. -/
  depth : (record.item value).value.nesting ≤ 62 + 1

/-- The number of bytes of a record that is written. -/
def Record.size (record : Record) (value : record.Val) : Nat :=
  Item.lengthOfAll [record.item value]

/-- The size of a record is the number of bytes that are written for it. -/
lemma Record.length_of_encode {record : Record} {value : record.Val} {bytes : Bytes}
    (written : record.encode value = .ok bytes) : bytes.length = record.size value := by
  obtain ⟨-, written⟩ := encode_eq_ok.1 written
  obtain ⟨tag, -, written⟩ := Item.encode_eq_ok.1 written
  rw [Value.length_of_encode written, size, Item.lengthOfAll_cons, Item.lengthOfAll]
  rfl

namespace Record.Sendable

variable {record : Record} {value : record.Val}

lemma valid (sendable : record.Sendable value) : record.shape.Valid value := by
  obtain ⟨bytes, written⟩ := sendable.written
  exact (encode_eq_ok.1 written).1

lemma encodable (sendable : record.Sendable value) : (record.item value).Encodable := by
  obtain ⟨bytes, written⟩ := sendable.written
  exact Item.exists_encode_iff.1 ⟨bytes, (encode_eq_ok.1 written).2⟩

lemma of_encodable (valid : record.shape.Valid value) (encodable : (record.item value).Encodable)
    (admissible : (record.item value).Admissible)
    (depth : (record.item value).value.nesting ≤ 62 + 1) : record.Sendable value := by
  obtain ⟨bytes, written⟩ := Item.exists_encode_iff.2 encodable
  exact ⟨⟨bytes, encode_eq_ok.2 ⟨valid, written⟩⟩, admissible, depth⟩

end Record.Sendable

namespace Records

/-- The form that requests and responses have in common: a header in front of the batch items. -/
abbrev message (name label : String) (tag headerTag : Tag) (header item : Record) : Record where
  name
  tag
  fields :=
    .required headerTag label header <|
    .oneOrMore .batchItem "batch_items" item <|
    .nil

end Records

namespace Message

variable {name label : String} {tag headerTag : Tag} {header item : Record}

/-- The items of a message are its header and the batch items. -/
lemma item_eq (headed : header.tag = headerTag) (own : item.tag = .batchItem) (head : header.Val)
    (items : List item.Val) :
    (Records.message name label tag headerTag header item).item (head, items, ()) =
      ⟨tag.text, .structured (header.item head :: items.map item.item)⟩ := by
  simp [Record.item, Shape.tree, Fields.trees, Presence.values, Presence.toOption, headed, own]

/-- An empty batch cannot be written. -/
lemma not_valid_empty (head : header.Val) :
    ¬ (Records.message name label tag headerTag header item).shape.Valid (head, [], ()) := by
  simp [Shape.Valid, Fields.Valid]

/-- A message with a header and batch items that can be sent arrives exactly if there is a batch
item. -/
lemma arrives_iff_of_header {head : header.Val} {items : List item.Val}
    (mem : Records.message name label tag headerTag header item ∈ Records.all)
    (narrow : tag.code.toNat < 2 ^ 24) (headed : header.tag = headerTag)
    (own : item.tag = .batchItem) (front : header.Sendable head)
    (each : ∀ one ∈ items, item.Sendable one)
    (size :
      (Records.message name label tag headerTag header item).size (head, items, ()) < 2 ^ 32) :
    (Records.message name label tag headerTag header item).Arrives (head, items, ()) ↔
      items ≠ [] := by
  have spelled :
      (Records.message name label tag headerTag header item).item (head, items, ()) = _ :=
    item_eq headed own head items
  constructor
  · rintro ⟨bytes, written, -⟩ rfl
    exact not_valid_empty head (Record.encode_eq_ok.1 written).1
  · intro some
    refine Record.arrives_of_encodable mem ?_ ?_ ?_ ?_
    · simp only [Shape.Valid, Fields.Valid, Presence.values, Presence.toOption]
      simpa [some] using ⟨front.valid, fun one mem => (each one mem).valid⟩
    · rw [Record.size, spelled, Item.lengthOfAll_cons, Value.contentLength] at size
      rw [spelled, Item.encodable_structured, List.forall_mem_cons, List.forall_mem_map]
      exact ⟨narrow, by omega, front.encodable, fun one mem => (each one mem).encodable⟩
    · rw [spelled, Item.admissible_structured, List.forall_mem_cons, List.forall_mem_map]
      exact ⟨Tag.canonical_text tag, front.admissible, fun one mem => (each one mem).admissible⟩
    · rw [spelled, Value.nesting]
      refine Nat.succ_le_succ (Item.nestingOfAll_le.2 ?_)
      rw [List.forall_mem_cons, List.forall_mem_map]
      exact ⟨front.depth, fun one mem => (each one mem).depth⟩

end Message

/-- A header of a request that tells only the version and the number of items can be sent. -/
lemma Request.sendable_header (version : Version) (count : Int32) :
    Records.requestHeader.Sendable (version, none, none, none, none, none, none, count, ()) := by
  obtain ⟨major, minor, ⟨⟩⟩ := version
  have spelled : Records.requestHeader.item
      ((major, minor, ()), none, none, none, none, none, none, count, ()) =
      ⟨Tag.requestHeader.text, .structured
        [⟨Tag.protocolVersion.text, .structured
          [⟨Tag.protocolVersionMajor.text, .scalar .integer major⟩,
            ⟨Tag.protocolVersionMinor.text, .scalar .integer minor⟩]⟩,
          ⟨Tag.batchCount.text, .scalar .integer count⟩]⟩ := rfl
  apply Record.Sendable.of_encodable
  · simp [Shape.Valid, Fields.Valid, Leaf.Valid, Presence.values, Presence.toOption]
  · rw [spelled]
    simp +decide [Item.encodable_structured, Item.encodable_scalar, Item.lengthOfAll,
      Value.contentLength, ScalarType.encode, paddingLength]
  · rw [spelled]
    simp [Item.admissible_structured, Item.admissible_scalar, ScalarType.InRange, ScalarType.encode,
      Config.strict]
  · rw [spelled]
    simp [Value.nesting, Value.nestingOfAll]

/-- A header of a response that tells only the version, the time and the number of items can be
sent. -/
lemma Response.sendable_header (version : Version) {now : DateTime}
    (range : DateTime.earliest ≤ now.seconds ∧ now.seconds ≤ DateTime.latest) (count : Int32) :
    Records.responseHeader.Sendable (version, some now.floor, none, [], none, none, count, ()) := by
  obtain ⟨major, minor, ⟨⟩⟩ := version
  have spelled : Records.responseHeader.item
      ((major, minor, ()), some now.floor, none, [], none, none, count, ()) =
      ⟨Tag.responseHeader.text, .structured
        [⟨Tag.protocolVersion.text, .structured
          [⟨Tag.protocolVersionMajor.text, .scalar .integer major⟩,
            ⟨Tag.protocolVersionMinor.text, .scalar .integer minor⟩]⟩,
          ⟨Tag.timeStamp.text, .scalar .dateTime now.floor⟩,
          ⟨Tag.batchCount.text, .scalar .integer count⟩]⟩ := rfl
  apply Record.Sendable.of_encodable
  · simp [Shape.Valid, Fields.Valid, Leaf.Valid, Presence.values, Presence.toOption]
  · rw [spelled]
    simp +decide [Item.encodable_structured, Item.encodable_scalar, Item.lengthOfAll,
      Value.contentLength, ScalarType.encode, paddingLength]
  · rw [spelled]
    simp [Item.admissible_structured, Item.admissible_scalar, ScalarType.InRange, ScalarType.encode,
      Config.strict, DateTime.floor, DateTime.ofSeconds, range]
  · rw [spelled]
    simp [Value.nesting, Value.nestingOfAll]

/-- A request of some items is valid. -/
lemma Request.validate_of_ofItems {version : Version} {items : List RequestItem} {request : Request}
    (made : Request.ofItems version items = .ok request) :
    ∃ count, request = ((version, none, none, none, none, none, none, count, ()), items, ()) ∧
      request.validate = .ok () := by
  obtain ⟨count, -, made⟩ := Encoded.bind_eq_ok.1 made
  obtain ⟨⟨⟩, valid, made⟩ := Encoded.bind_eq_ok.1 made
  obtain rfl := Except.ok.inj made
  exact ⟨count, rfl, valid⟩

/-- A response of some items is valid. -/
lemma Response.validate_of_ofItems {version : Version} {now : DateTime} {items : List ResponseItem}
    {response : Response} (made : Response.ofItems version now items = .ok response) :
    ∃ count, response = ((version, some now.floor, none, [], none, none, count, ()), items, ()) ∧
      response.validate = .ok () := by
  obtain ⟨count, -, made⟩ := Encoded.bind_eq_ok.1 made
  obtain ⟨⟨⟩, valid, made⟩ := Encoded.bind_eq_ok.1 made
  obtain rfl := Except.ok.inj made
  exact ⟨count, rfl, valid⟩

/-- Messages that are made of sendable batch items are valid, and arrive unless they are empty. -/
theorem Message.arrives_iff (version : Version) :
    (∀ (items : List RequestItem) (request : Request),
      Request.ofItems version items = .ok request →
      (∀ item ∈ items, Records.requestBatchItem.Sendable item) →
      Records.requestMessage.size request < 2 ^ 32 →
        request.validate = .ok () ∧ (Records.requestMessage.Arrives request ↔ items ≠ [])) ∧
    ∀ (now : DateTime) (items : List ResponseItem) (response : Response),
      DateTime.earliest ≤ now.seconds ∧ now.seconds ≤ DateTime.latest →
      Response.ofItems version now items = .ok response →
      (∀ item ∈ items, Records.responseBatchItem.Sendable item) →
      Records.responseMessage.size response < 2 ^ 32 →
        response.validate = .ok () ∧ (Records.responseMessage.Arrives response ↔ items ≠ []) := by
  constructor
  · intro items request made sendable size
    obtain ⟨count, rfl, valid⟩ := Request.validate_of_ofItems made
    have mem : Records.requestMessage ∈ Records.all :=
      List.mem_of_getElem? (by rfl : Records.all[36]? = _)
    have front := Request.sendable_header version count
    exact ⟨valid, arrives_iff_of_header mem (by decide) rfl rfl front sendable size⟩
  · intro now items response range made sendable size
    obtain ⟨count, rfl, valid⟩ := Response.validate_of_ofItems made
    have mem : Records.responseMessage ∈ Records.all :=
      List.mem_of_getElem? (by rfl : Records.all[39]? = _)
    have front := Response.sendable_header version range count
    exact ⟨valid, arrives_iff_of_header mem (by decide) rfl rfl front sendable size⟩

/-- The batch item that asks for the versions that a server speaks. -/
def RequestItem.discoverVersions : RequestItem :=
  .ofPayload (.inl ([], ()))

lemma RequestItem.sendable_discoverVersions :
    Records.requestBatchItem.Sendable discoverVersions := by
  have spelled : Records.requestBatchItem.item discoverVersions =
      ⟨Tag.batchItem.text, .structured
        [⟨Tag.operation.text, .scalar .enumeration 30⟩,
          ⟨Tag.requestPayload.text, .structured []⟩]⟩ := by
    rfl
  refine ⟨⟨_, rfl⟩, ?_, ?_⟩
  · rw [spelled]
    simp [Item.admissible_structured, Item.admissible_scalar, ScalarType.InRange,
      ScalarType.encode, Config.strict]
  · rw [spelled]
    simp [Value.nesting, Value.nestingOfAll]

/-- The request for the versions that a server speaks. -/
def Request.discoverVersions : Request :=
  ((Version.ofNumbers 1 4, none, none, none, none, none, none, 1, ()),
    [RequestItem.discoverVersions], ())

/-- The batch item that tells the versions that a server speaks, if it speaks none. -/
def ResponseItem.discoverVersions : ResponseItem :=
  .success (.inl ([], ()))

lemma ResponseItem.sendable_discoverVersions :
    Records.responseBatchItem.Sendable discoverVersions := by
  have spelled : Records.responseBatchItem.item discoverVersions =
      ⟨Tag.batchItem.text, .structured
        [⟨Tag.operation.text, .scalar .enumeration 30⟩,
          ⟨Tag.resultStatus.text, .scalar .enumeration 0⟩,
          ⟨Tag.responsePayload.text, .structured []⟩]⟩ := by
    rfl
  refine ⟨⟨_, rfl⟩, ?_, ?_⟩
  · rw [spelled]
    simp [Item.admissible_structured, Item.admissible_scalar, ScalarType.InRange,
      ScalarType.encode, Config.strict]
  · rw [spelled]
    simp [Value.nesting, Value.nestingOfAll]

/-- The request for the versions that a server speaks arrives, and so does a response to it. -/
theorem Message.arrives_discoverVersions :
    (Request.ofItems (.ofNumbers 1 4) [.discoverVersions] = .ok .discoverVersions ∧
      Records.requestMessage.Arrives Request.discoverVersions) ∧
    ∃ response, Response.ofItems (.ofNumbers 1 4) .epoch [.discoverVersions] = .ok response ∧
      Records.responseMessage.Arrives response := by
  obtain ⟨requests, responses⟩ := Message.arrives_iff (.ofNumbers 1 4)
  constructor
  · have made : Request.ofItems (.ofNumbers 1 4) [.discoverVersions] = .ok .discoverVersions := rfl
    obtain ⟨-, arrives⟩ := requests _ _ made
      (List.forall_mem_singleton.2 RequestItem.sendable_discoverVersions) (by decide +kernel)
    exact ⟨made, arrives.2 (List.cons_ne_nil _ _)⟩
  · have made : Response.ofItems (.ofNumbers 1 4) .epoch [.discoverVersions] = .ok
        ((Version.ofNumbers 1 4, some .epoch, none, [], none, none, 1, ()),
          [ResponseItem.discoverVersions], ()) := rfl
    obtain ⟨-, arrives⟩ := responses .epoch _ _ (by decide) made
      (List.forall_mem_singleton.2 ResponseItem.sendable_discoverVersions) (by decide +kernel)
    exact ⟨_, made, arrives.2 (List.cons_ne_nil _ _)⟩

/-- A response without items is made and found valid, but cannot be written. -/
theorem Message.not_arrives_empty :
    ∃ response, Response.ofItems (.ofNumbers 1 4) .epoch [] = .ok response ∧
      response.validate = .ok () ∧ Records.responseMessage.size response < 2 ^ 32 ∧
      Records.responseMessage.encode response =
        .error (.missingField "ResponseMessage" .batchItem) := by
  refine ⟨((Version.ofNumbers 1 4, some .epoch, none, [], none, none, 0, ()), [], ()),
    ?_, ?_, ?_, ?_⟩
  · rfl
  · rfl
  · decide +kernel
  · rfl

end Kmip
