import Kmip.Proofs.Record

/-!
# What arrives of a record that is sent

Two date-times are equal if they are the same instant, whatever the offset at which they are shown;
`Record.inUtc` shows all of them in UTC, so that values are equal exactly if these are the same. A
record `Arrives` if it is written and the receiver reads an equal record. That is so if it can be
written at all, keeps to the limits of a receiver, and has nothing in it that another spelling would
have replaced (`Record.arrives_of_encodable`).
-/

namespace Kmip

/-- The instant, shown in UTC. -/
def DateTime.inUtc (time : DateTime) : DateTime :=
  { time with offset := 0 }

/-- A content with its date-time shown in UTC. -/
def ScalarType.inUtc : (type : ScalarType) → type.Content → type.Content
  | dateTime, time => time.inUtc
  | integer, value | longInteger, value | bigInteger, value | enumeration, value | boolean, value
  | textString, value | byteString, value | interval, value | dateTimeExtended, value => value

mutual

/-- A value with all date-times shown in UTC. -/
def Value.inUtc : Value → Value
  | .structured items => .structured (Item.inUtcEach items)
  | .scalar type content => .scalar type (type.inUtc content)

/-- Items with all date-times shown in UTC. -/
def Item.inUtcEach : List Item → List Item
  | [] => []
  | ⟨tag, value⟩ :: rest => ⟨tag, value.inUtc⟩ :: Item.inUtcEach rest

end

/-- A leaf with all date-times shown in UTC. -/
def Leaf.inUtc : (leaf : Leaf) → leaf.Val → leaf.Val
  | dateTime, time | timeStamp, time => time.inUtc
  | anything, value => value.inUtc
  | integer, value | longInteger, value | bigInteger, value | boolean, value | text, value
  | bytes, value | interval, value | enumeration _, value | usageMask, value => value

mutual

/-- The value with all date-times shown in UTC. -/
def Shape.inUtc : (shape : Shape) → shape.Val → shape.Val
  | .leaf leaf, value => leaf.inUtc value
  | .choice variants, value => variants.inUtc value
  | .record _ _ fields, values => fields.inUtc values

/-- Fields with all date-times shown in UTC. -/
def Fields.inUtc : (fields : Fields) → fields.Val → fields.Val
  | .nil, _ => ()
  | .one presence _ _ shape rest, (value, values) =>
    (presence.map shape.inUtc value, rest.inUtc values)
  | .many _ _ _ shape rest, (items, values) => (items.map shape.inUtc, rest.inUtc values)
  | .embedded _ _ _ fields rest, (inner, values) => (fields.inUtc inner, rest.inUtc values)
  | .keyed selector _ _ between presence _ _ variants rest, (key, inner, value, values) =>
    (selector.leaf.inUtc key, between.inUtc inner, presence.map variants.inUtc value,
      rest.inUtc values)

/-- A value of one of the variants with all date-times shown in UTC. -/
def Variants.inUtc : (variants : Variants) → variants.Val → variants.Val
  | .only _ shape, value => shape.inUtc value
  | .or _ shape _, .inl value => .inl (shape.inUtc value)
  | .or _ _ rest, .inr value => .inr (rest.inUtc value)

end

/-- The record with all date-times shown in UTC. -/
abbrev Record.inUtc (record : Record) (value : record.Val) : record.Val :=
  record.fields.inUtc value

namespace Item

/-- Every tag is in its canonical text, and every date-time is a whole second: nothing that is read
back differs. -/
def IsSettled (item : Item) : Prop :=
  ∀ inner ∈ item.all, Tag.canonical inner.tag = inner.tag ∧
    ∀ time, inner.value = .scalar .dateTime time → time.nanos = .zero

lemma isSettled_structured {tag : String} {items : List Item} :
    IsSettled ⟨tag, .structured items⟩ ↔
      Tag.canonical tag = tag ∧ ∀ item ∈ items, item.IsSettled := by
  simp [IsSettled, forall_mem_all_structured]

lemma isSettled_scalar {tag : String} {type : ScalarType} {content : type.Content} :
    IsSettled ⟨tag, .scalar type content⟩ ↔
      Tag.canonical tag = tag ∧
        ∀ time, Value.scalar type content = .scalar .dateTime time → time.nanos = .zero := by
  rw [IsSettled, forall_mem_all_scalar]

end Item

/-- A whole second is read back as the same instant. -/
lemma DateTime.floor_eq_inUtc {time : DateTime} (whole : time.nanos = .zero) :
    time.floor = time.inUtc := by
  rw [floor, inUtc, ofSeconds, whole]

/-- A content of a whole second is read back as the same instant. -/
lemma ScalarType.normal_eq_inUtc {type : ScalarType} {content : type.Content}
    (whole : ∀ time, Value.scalar type content = .scalar .dateTime time → time.nanos = .zero) :
    type.normal content = type.inUtc content := by
  cases type with
  | dateTime => exact DateTime.floor_eq_inUtc (whole content rfl)
  | _ => rfl

/-- A value in which everything is settled is read back as an equal one. -/
lemma Value.normal_eq_inUtc {value : Value} : ∀ {tag : String}, Item.IsSettled ⟨tag, value⟩ →
    value.normal = value.inUtc := by
  induction value with
  | scalar type content =>
    intro tag settled
    obtain ⟨-, whole⟩ := Item.isSettled_scalar.1 settled
    rw [normal, inUtc, ScalarType.normal_eq_inUtc whole]
  | structured items ih =>
    intro tag settled
    rw [Item.isSettled_structured] at settled
    obtain ⟨-, settled⟩ := settled
    rw [normal, inUtc]
    congr 1
    induction items with
    | nil => rfl
    | cons item rest more =>
      obtain ⟨text, value⟩ := item
      obtain ⟨first, others⟩ := List.forall_mem_cons.1 ih
      obtain ⟨head, tail⟩ := List.forall_mem_cons.1 settled
      obtain ⟨canonical, -⟩ := head _ List.mem_cons_self
      rw [Item.normalEach, Item.inUtcEach, first head, more others tail, canonical]

/-- A leaf in which everything is settled is read back as an equal one. -/
lemma Leaf.normal_eq_inUtc (leaf : Leaf) {value : leaf.Val} {tag : String}
    (settled : Item.IsSettled ⟨tag, leaf.tree value⟩) : leaf.normal value = leaf.inUtc value := by
  cases leaf with
  | dateTime | timeStamp =>
    obtain ⟨-, whole⟩ := Item.isSettled_scalar.1 settled
    exact DateTime.floor_eq_inUtc (whole value rfl)
  | anything => exact Value.normal_eq_inUtc settled
  | _ => rfl

/-- A field is replaced in the same way by what agrees on its value. -/
lemma Presence.map_congr {α : Type} {change change' : α → α} (presence : Presence)
    {value : presence.Val α} (same : ∀ one ∈ presence.values value, change one = change' one) :
    presence.map change value = presence.map change' value := by
  cases presence with
  | required => exact same value List.mem_cons_self
  | optional =>
    cases value with
    | none => rfl
    | some value => exact congrArg some (same value List.mem_cons_self)

mutual

/-- A value in which everything is settled is read back as an equal one. -/
lemma Shape.normal_eq_inUtc (shape : Shape) {value : shape.Val} {tag : String}
    (settled : Item.IsSettled ⟨tag, shape.tree value⟩) :
    shape.normal value = shape.inUtc value := by
  cases shape with
  | leaf leaf => exact leaf.normal_eq_inUtc settled
  | choice variants => exact variants.normal_eq_inUtc settled
  | record name own fields =>
    obtain ⟨-, settled⟩ := Item.isSettled_structured.1 settled
    exact fields.normal_eq_inUtc settled

/-- Fields in which everything is settled are read back as equal ones. -/
lemma Fields.normal_eq_inUtc (fields : Fields) {values : fields.Val}
    (settled : ∀ item ∈ fields.trees values, item.IsSettled) :
    fields.normal values = fields.inUtc values := by
  cases fields with
  | nil => rfl
  | one presence tag label shape rest =>
    obtain ⟨value, values⟩ := values
    obtain ⟨here, there⟩ := List.forall_mem_append.1 settled
    have same := presence.map_congr fun one mem =>
      shape.normal_eq_inUtc (here _ (List.mem_map_of_mem mem))
    rw [Fields.normal, Fields.inUtc, same, rest.normal_eq_inUtc there]
  | many atLeastOne tag label shape rest =>
    obtain ⟨items, values⟩ := values
    obtain ⟨here, there⟩ := List.forall_mem_append.1 settled
    have same := List.map_congr_left fun item mem =>
      shape.normal_eq_inUtc (here _ (List.mem_map_of_mem mem))
    rw [Fields.normal, Fields.inUtc, same, rest.normal_eq_inUtc there]
  | embedded label name tag fields rest =>
    obtain ⟨inner, values⟩ := values
    obtain ⟨here, there⟩ := List.forall_mem_append.1 settled
    rw [Fields.normal, Fields.inUtc, fields.normal_eq_inUtc here, rest.normal_eq_inUtc there]
  | keyed selector keyTag keyLabel between presence tag label variants rest =>
    obtain ⟨key, inner, value, values⟩ := values
    obtain ⟨front, there⟩ := List.forall_mem_append.1 settled
    obtain ⟨front, chosen⟩ := List.forall_mem_append.1 front
    obtain ⟨selects, middle⟩ := List.forall_mem_cons.1 front
    have same := presence.map_congr fun one mem =>
      variants.normal_eq_inUtc (chosen _ (List.mem_map_of_mem mem))
    rw [Fields.normal, Fields.inUtc, selector.leaf.normal_eq_inUtc selects,
      between.normal_eq_inUtc middle, same, rest.normal_eq_inUtc there]

/-- A value of one of the variants in which everything is settled is read back as an equal one. -/
lemma Variants.normal_eq_inUtc (variants : Variants) {value : variants.Val} {tag : String}
    (settled : Item.IsSettled ⟨tag, variants.tree value⟩) :
    variants.normal value = variants.inUtc value := by
  cases variants with
  | only label shape => exact shape.normal_eq_inUtc settled
  | or label shape rest =>
    cases value with
    | inl value => exact congrArg Sum.inl (shape.normal_eq_inUtc settled)
    | inr value => exact congrArg Sum.inr (rest.normal_eq_inUtc settled)

end

namespace Item

/-- What a receiver with the usual settings asks of an item, apart from how deep it is nested. -/
structure Admissible (item : Item) : Prop where
  inRange : item.InRange
  within : item.Within Config.strict.maxValueLength
  settled : item.IsSettled

lemma admissible_structured {tag : String} {items : List Item} :
    Admissible ⟨tag, .structured items⟩ ↔
      Tag.canonical tag = tag ∧ ∀ item ∈ items, item.Admissible := by
  constructor
  · rintro ⟨range, within, settled⟩
    obtain ⟨canonical, settled⟩ := isSettled_structured.1 settled
    exact ⟨canonical, fun item mem => ⟨inRange_structured.1 range item mem,
      within_structured.1 within item mem, settled item mem⟩⟩
  · rintro ⟨canonical, each⟩
    refine ⟨inRange_structured.2 ?_, within_structured.2 ?_, isSettled_structured.2 ⟨canonical, ?_⟩⟩
    · exact fun item mem => (each item mem).inRange
    · exact fun item mem => (each item mem).within
    · exact fun item mem => (each item mem).settled

lemma admissible_scalar {tag : Tag} {type : ScalarType} {content : type.Content} :
    Admissible ⟨tag.text, .scalar type content⟩ ↔
      type.InRange content ∧ (type.encode content).length ≤ Config.strict.maxValueLength ∧
        ∀ time, Value.scalar type content = .scalar .dateTime time → time.nanos = .zero := by
  constructor
  · rintro ⟨range, within, settled⟩
    exact ⟨inRange_scalar.1 range, within_scalar.1 within, (isSettled_scalar.1 settled).2⟩
  · rintro ⟨range, within, whole⟩
    exact ⟨inRange_scalar.2 range, within_scalar.2 within,
      isSettled_scalar.2 ⟨Tag.canonical_text tag, whole⟩⟩

lemma encodable_structured {tag : Tag} {items : List Item} :
    Encodable ⟨tag.text, .structured items⟩ ↔
      tag.code.toNat < 2 ^ 24 ∧ lengthOfAll items < 2 ^ 32 ∧ ∀ item ∈ items, item.Encodable := by
  simp only [Encodable, forall_mem_all_structured, Tag.ofText_text, Except.ok.injEq,
    exists_eq_left', Value.contentLength, and_assoc]

lemma encodable_scalar {tag : Tag} {type : ScalarType} {content : type.Content} :
    Encodable ⟨tag.text, .scalar type content⟩ ↔
      tag.code.toNat < 2 ^ 24 ∧ (type.encode content).length < 2 ^ 32 := by
  simp only [Encodable, forall_mem_all_scalar, Tag.ofText_text, Except.ok.injEq,
    exists_eq_left', Value.contentLength]

end Item

namespace Record

variable {record : Record} {value : record.Val}

/-- The record is written, and what is written is read as an equal record. -/
def Arrives (record : Record) (value : record.Val) : Prop :=
  ∃ bytes, record.encode value = .ok bytes ∧
    record.decode .strict bytes = .ok (record.inUtc value)

/-- A record that can be written and keeps to the limits of the receiver arrives. -/
theorem arrives_of_encodable (mem : record ∈ Records.all) (valid : record.shape.Valid value)
    (encodable : (record.item value).Encodable) (admissible : (record.item value).Admissible)
    (depth : (record.item value).value.nesting ≤ Config.strict.maxDepth) :
    record.Arrives value := by
  obtain ⟨bytes, written⟩ := Item.exists_encode_iff.2 encodable
  obtain ⟨layout, spelled, writes⟩ := Item.exists_layout_of_encode written
  have denoted := writes.denotes admissible.inRange
  have nesting := denoted.nesting_eq
  rw [Item.normal, Value.nesting_normal] at nesting
  have settled : record.normal value = record.inUtc value :=
    record.shape.normal_eq_inUtc admissible.settled
  refine ⟨bytes, encode_eq_ok.2 ⟨valid, written⟩, (decode_eq_ok mem rfl).2 ⟨layout, spelled,
    writes.fits, writes.within _ admissible.within, nesting ▸ depth, ?_, ?_⟩⟩
  · rwa [← settled, item_normal]
  · rw [← settled]
    exact (record.shape.valid_normal value).2 valid

end Record

end Kmip
