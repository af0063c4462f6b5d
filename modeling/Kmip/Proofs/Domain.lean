import Kmip.Attributes
import Kmip.Proofs.Record

/-!
# Which records are written

A record is written exactly if what it is made of allows it (`Record.exists_encode_iff_writable`):
the lists that must not be empty, the values whose form is selected, the spans, the items of any
kind, and the lengths of all items. The pieces of a record are listed wherever they lie in it, so
that each condition is said once for all of them.
-/

namespace Kmip

/-- What can keep a record from being written, but for the lengths of items. -/
inductive Piece where
  /-- A list of so many values, in which there must be one or not. -/
  | list (atLeastOne : Bool) (count : Nat)
  /-- A value in the variant of this name, with the selection that has been made for it. -/
  | chosen (selection : Selection) (variant : String)
  /-- A length of time. -/
  | interval (span : Span)
  /-- An item of any kind. -/
  | kept (value : Value)

/-- The pieces of a value of a leaf. -/
def Leaf.pieces : (leaf : Leaf) → leaf.Val → List Piece
  | interval, span => [.interval span]
  | anything, value => [.kept value]
  | integer, _ | longInteger, _ | bigInteger, _ | boolean, _ | text, _ | bytes, _ | dateTime, _
  | timeStamp, _ | enumeration _, _ | usageMask, _ => []

mutual

/-- The pieces of a value. -/
def Shape.pieces : (shape : Shape) → shape.Val → List Piece
  | .leaf leaf, value => leaf.pieces value
  | .choice variants, value => variants.pieces value
  | .record _ _ fields, values => fields.pieces values

/-- The pieces of fields. -/
def Fields.pieces : (fields : Fields) → fields.Val → List Piece
  | .nil, _ => []
  | .one presence _ _ shape rest, (value, values) =>
    (presence.values value).flatMap shape.pieces ++ rest.pieces values
  | .many atLeastOne _ _ shape rest, (items, values) =>
    .list atLeastOne items.length :: items.flatMap shape.pieces ++ rest.pieces values
  | .embedded _ _ _ fields rest, (inner, values) => fields.pieces inner ++ rest.pieces values
  | .keyed selector _ _ between presence _ _ variants rest, (key, inner, value, values) =>
    between.pieces inner ++
      (presence.values value).flatMap (fun one =>
        .chosen (.of selector key) (variants.labelOf one) :: variants.pieces one) ++
      rest.pieces values

/-- The pieces of a value of one of the variants. -/
def Variants.pieces : (variants : Variants) → variants.Val → List Piece
  | .only _ shape, value => shape.pieces value
  | .or _ shape _, .inl value => shape.pieces value
  | .or _ _ rest, .inr value => rest.pieces value

end

/-- The text of the tag names a tag of three bytes. -/
def Item.Named (item : Item) : Prop :=
  ∃ tag, Tag.ofText item.tag = .ok tag ∧ tag.code.toNat < 2 ^ 24

/-- Everywhere in the record, the value can be written. -/
structure Record.Writable (record : Record) (value : record.Val) : Prop where
  /-- A list that must hold a value does. -/
  lists : ∀ count, .list true count ∈ record.fields.pieces value → count ≠ 0
  /-- The name of an attribute is supported, and its value has the variant of the name. -/
  attributes : ∀ name variant, .chosen ⟨.attributeName, name⟩ variant ∈ record.fields.pieces value →
    attributeForm? name = some variant
  /-- The value of a credential has the variant of its type. -/
  credentials : ∀ type variant,
    .chosen ⟨.credentialType, type⟩ variant ∈ record.fields.pieces value → variant = type
  /-- A payload has the variant of its operation. -/
  payloads : ∀ operation variant,
    .chosen ⟨.operation, operation⟩ variant ∈ record.fields.pieces value → variant = operation
  /-- A length of time is a number of whole seconds that fits four bytes. -/
  spans : ∀ span, .interval span ∈ record.fields.pieces value →
    span.nanos = .zero ∧ span.seconds < 2 ^ 32
  /-- The texts of the tags in an item of any kind name tags of three bytes. -/
  tags : ∀ kept, .kept kept ∈ record.fields.pieces value → ∀ item ∈ kept.inner, item.Named
  /-- The length of every item fits four bytes. -/
  lengths : ∀ item ∈ (record.item value).all, item.value.contentLength < 2 ^ 32

/-- What is asked of a piece. -/
def Piece.Sound : Piece → Prop
  | .list atLeastOne count => atLeastOne = true → count ≠ 0
  | .chosen selection variant => selection.variant? = some variant
  | .interval span => span.nanos = .zero ∧ span.seconds < 2 ^ 32
  | .kept value => ∀ item ∈ value.inner, item.Named

mutual

/-- Whether all tags that a shape gives to items have three bytes. -/
def Shape.isNarrow : Shape → Bool
  | .leaf _ => true
  | .choice variants => variants.isNarrow
  | .record _ _ fields => fields.isNarrow

/-- Whether the tags of fields, and those in them, have three bytes. -/
def Fields.isNarrow : Fields → Bool
  | .nil => true
  | .one _ tag _ shape rest => tag.code.toNat < 2 ^ 24 && shape.isNarrow && rest.isNarrow
  | .many _ tag _ shape rest => tag.code.toNat < 2 ^ 24 && shape.isNarrow && rest.isNarrow
  | .embedded _ _ _ fields rest => fields.isNarrow && rest.isNarrow
  | .keyed _ keyTag _ between _ tag _ variants rest =>
    keyTag.code.toNat < 2 ^ 24 && between.isNarrow && tag.code.toNat < 2 ^ 24 &&
      variants.isNarrow && rest.isNarrow

/-- Whether all tags that the variants give to items have three bytes. -/
def Variants.isNarrow : Variants → Bool
  | .only _ shape => shape.isNarrow
  | .or _ shape rest => shape.isNarrow && rest.isNarrow

end

namespace Records

/-- The tags of the records of the protocol, and of their fields, have three bytes. -/
lemma isNarrow {record : Record} (mem : record ∈ all) :
    record.tag.code.toNat < 2 ^ 24 ∧ record.fields.isNarrow = true := by
  have every : ∀ record ∈ all, record.tag.code.toNat < 2 ^ 24 ∧ record.fields.isNarrow = true := by
    decide +kernel
  exact every record mem

end Records

namespace Item

/-- An item that has a tag of three bytes is sound as what it holds is. -/
lemma forall_named_all {tag : Tag} (narrow : tag.code.toNat < 2 ^ 24) {value : Value} :
    (∀ item ∈ all ⟨tag.text, value⟩, item.Named) ↔ ∀ item ∈ value.inner, item.Named := by
  have named : Named ⟨tag.text, value⟩ := ⟨tag, Tag.ofText_text tag, narrow⟩
  simp [all, named]

lemma forall_mem_allOf {p : Item → Prop} {items : List Item} :
    (∀ item ∈ allOf items, p item) ↔ ∀ outer ∈ items, ∀ item ∈ outer.all, p item := by
  simp only [mem_allOf]
  grind

end Item

/-- A list that must not be empty is not. -/
lemma Piece.sound_list {α : Type} {atLeastOne : Bool} {items : List α} :
    (list atLeastOne items.length).Sound ↔ ¬ (items.isEmpty && atLeastOne) := by
  cases items <;> simp [Sound]

/-- A value has the variant that is selected exactly if the check admits it. -/
lemma Piece.sound_chosen {selection : Selection} {variants : Variants} {value : variants.Val} :
    (chosen selection (variants.labelOf value)).Sound ↔ selection.check variants value = .ok () :=
  Selection.check_eq_ok.symm

namespace Selector

/-- A field that selects can always be written. -/
lemma valid_leaf (selector : Selector) (key : selector.leaf.Val) : selector.leaf.Valid key := by
  cases selector <;> trivial

/-- A field that selects holds no other items. -/
lemma inner_tree_leaf (selector : Selector) (key : selector.leaf.Val) :
    (selector.leaf.tree key).inner = [] := by
  cases selector <;> rfl

end Selector

mutual

/-- The pieces of a value are sound exactly if it can be written, but for lengths. -/
lemma Shape.forall_sound_iff : (shape : Shape) → shape.isNarrow = true → (value : shape.Val) →
    ((∀ piece ∈ shape.pieces value, piece.Sound) ↔
      shape.Valid value ∧ ∀ item ∈ (shape.tree value).inner, item.Named)
  | .leaf leaf, _, value => by
    cases leaf <;> simp [Shape.pieces, Leaf.pieces, Shape.Valid, Leaf.Valid, Shape.tree, Leaf.tree,
      Value.inner, Piece.Sound]
  | .choice variants, narrow, value => variants.forall_sound_iff narrow value
  | .record _ _ fields, narrow, values => by
    rw [Shape.pieces, fields.forall_sound_iff narrow values, Shape.Valid, Shape.tree, Value.inner,
      Item.forall_mem_allOf]

/-- The pieces of fields are sound exactly if these can be written, but for lengths. -/
lemma Fields.forall_sound_iff : (fields : Fields) → fields.isNarrow = true →
    (values : fields.Val) → ((∀ piece ∈ fields.pieces values, piece.Sound) ↔
      fields.Valid values ∧ ∀ outer ∈ fields.trees values, ∀ item ∈ outer.all, item.Named)
  | .nil, _, _ => by simp [Fields.pieces, Fields.Valid, Fields.trees]
  | .one presence tag _ shape rest, narrow, (value, values) => by
    simp only [Fields.isNarrow, Bool.and_eq_true, decide_eq_true_eq] at narrow
    obtain ⟨⟨fits, inner⟩, behind⟩ := narrow
    simp only [Fields.pieces, Fields.Valid, Fields.trees, List.forall_mem_append,
      List.forall_mem_flatMap, List.forall_mem_map, Item.forall_named_all fits,
      shape.forall_sound_iff inner, rest.forall_sound_iff behind values, forall_and]
    -- what is left here, and in the cases below, are the same conditions in another order
    tauto
  | .many atLeastOne tag _ shape rest, narrow, (items, values) => by
    simp only [Fields.isNarrow, Bool.and_eq_true, decide_eq_true_eq] at narrow
    obtain ⟨⟨fits, inner⟩, behind⟩ := narrow
    simp only [Fields.pieces, Fields.Valid, Fields.trees, List.cons_append, List.forall_mem_cons,
      List.forall_mem_append, List.forall_mem_flatMap, List.forall_mem_map,
      Item.forall_named_all fits, shape.forall_sound_iff inner, rest.forall_sound_iff behind values,
      Piece.sound_list, forall_and]
    tauto
  | .embedded _ _ _ fields rest, narrow, (inner, values) => by
    obtain ⟨here, behind⟩ := Bool.and_eq_true_iff.1 narrow
    simp only [Fields.pieces, Fields.Valid, Fields.trees, List.forall_mem_append,
      fields.forall_sound_iff here inner, rest.forall_sound_iff behind values]
    tauto
  | .keyed selector keyTag _ between presence tag _ variants rest, narrow,
      (key, inner, value, values) => by
    simp only [Fields.isNarrow, Bool.and_eq_true, decide_eq_true_eq] at narrow
    obtain ⟨⟨⟨⟨keyFits, upTo⟩, fits⟩, chosen⟩, behind⟩ := narrow
    simp only [Fields.pieces, Fields.Valid, Fields.trees, List.cons_append, List.forall_mem_cons,
      List.forall_mem_append, List.forall_mem_flatMap, List.forall_mem_map,
      Item.forall_named_all fits, Item.forall_named_all keyFits, selector.valid_leaf,
      selector.inner_tree_leaf, between.forall_sound_iff upTo, variants.forall_sound_iff chosen,
      rest.forall_sound_iff behind values, Piece.sound_chosen, forall_and]
    tauto

/-- The pieces of a value of one of the variants are sound exactly if it can be written, but for
lengths. -/
lemma Variants.forall_sound_iff : (variants : Variants) → variants.isNarrow = true →
    (value : variants.Val) → ((∀ piece ∈ variants.pieces value, piece.Sound) ↔
      variants.Valid value ∧ ∀ item ∈ (variants.tree value).inner, item.Named)
  | .only _ shape, narrow, value => shape.forall_sound_iff narrow value
  | .or _ shape _, narrow, .inl value =>
    shape.forall_sound_iff (Bool.and_eq_true_iff.1 narrow).1 value
  | .or _ _ rest, narrow, .inr value =>
    rest.forall_sound_iff (Bool.and_eq_true_iff.1 narrow).2 value

end

namespace Record

variable {record : Record} {value : record.Val}

/-- What is asked of a record is asked of its pieces, and of the lengths of its items. -/
lemma writable_iff : record.Writable value ↔
    (∀ piece ∈ record.fields.pieces value, piece.Sound) ∧
      ∀ item ∈ (record.item value).all, item.value.contentLength < 2 ^ 32 := by
  constructor
  · rintro ⟨lists, attributes, credentials, payloads, spans, tags, lengths⟩
    refine ⟨fun piece mem => ?_, lengths⟩
    match piece with
    | .list true count => exact fun _ => lists count mem
    | .list false count => exact nofun
    | .chosen ⟨.attributeName, name⟩ variant => exact attributes name variant mem
    | .chosen ⟨.credentialType, type⟩ variant =>
      exact congrArg some (credentials type variant mem).symm
    | .chosen ⟨.operation, operation⟩ variant =>
      exact congrArg some (payloads operation variant mem).symm
    | .interval span => exact spans span mem
    | .kept value => exact tags value mem
  · rintro ⟨sound, lengths⟩
    exact
      { lists := fun count mem => sound _ mem rfl
        attributes := fun name variant mem => sound _ mem
        credentials := fun type variant mem => (Option.some.inj (sound _ mem)).symm
        payloads := fun operation variant mem => (Option.some.inj (sound _ mem)).symm
        spans := fun span mem => sound _ mem
        tags := fun kept mem => sound _ mem
        lengths }

/-- A record is written exactly if, everywhere in it, its lists, its attributes, credentials and
payloads, its spans, the tags in items of any kind, and the lengths of its items allow it. -/
theorem exists_encode_iff_writable (mem : record ∈ Records.all) :
    (∃ bytes, record.encode value = .ok bytes) ↔ record.Writable value := by
  obtain ⟨own, narrow⟩ := Records.isNarrow mem
  have encodable : (record.item value).Encodable ↔ (∀ item ∈ (record.item value).all, item.Named) ∧
      ∀ item ∈ (record.item value).all, item.value.contentLength < 2 ^ 32 := forall₂_and
  have named : (∀ item ∈ (record.item value).all, item.Named) ↔
      ∀ item ∈ (record.shape.tree value).inner, item.Named := Item.forall_named_all own
  have sound : (∀ piece ∈ record.fields.pieces value, piece.Sound) ↔ record.shape.Valid value ∧
      ∀ item ∈ (record.shape.tree value).inner, item.Named :=
    record.shape.forall_sound_iff narrow value
  simp only [encode_eq_ok, exists_and_left, Item.exists_encode_iff]
  rw [encodable, named, writable_iff, sound, and_assoc]

/-- An attribute that holds a length of time, and one of a client that holds an item, are written
together; not so if the length has a fraction of a second, or the tag of the item four bytes. -/
theorem exists_encode_iff_writable_attributes :
    let lease (span : Span) : AttributeValue := .inr (.inr (.inr (.inr (.inl span))))
    let custom (text : String) : AttributeValue :=
      .inr (.inr (.inr (.inr (.inr (.inr (.inr (.inr (.inr (.inr (.inr
        (.structured [⟨text, .scalar .boolean true⟩])))))))))))
    let attributes (span : Span) (text : String) : Attributes :=
      .ofList [.ofValue "Lease Time" none (lease span), .ofValue "x-a" none (custom text)]
    let written (value : Attributes) := ∃ bytes, Records.attributes.encode value = .ok bytes
    let minute := Span.ofSeconds 60
    (written (attributes minute "0x42000f") ∧
        Records.attributes.Writable (attributes minute "0x42000f")) ∧
      ¬ written (attributes ⟨60, ⟨1, by decide⟩⟩ "0x42000f") ∧
      ¬ written (attributes minute "0x1000000") := by
  intro lease custom attributes written minute
  have mem : Records.attributes ∈ Records.all :=
    List.mem_of_getElem? (by rfl : Records.all[6]? = _)
  have pieces (span : Span) (text : String) :
      Records.attributes.fields.pieces (attributes span text) =
        [.list false 2, .chosen ⟨.attributeName, "Lease Time"⟩ "Interval", .interval span,
          .chosen ⟨.attributeName, "x-a"⟩ "Custom",
          .kept (.structured [⟨text, .scalar .boolean true⟩])] := by
    rfl
  have whole : written (attributes minute "0x42000f") := by
    have succeeds : (Records.attributes.encode (attributes minute "0x42000f")).isOk = true := by
      decide +kernel
    cases encoded : Records.attributes.encode (attributes minute "0x42000f") with
    | ok bytes => exact ⟨bytes, encoded⟩
    | error fault => rw [encoded] at succeeds; cases succeeds
  refine ⟨⟨whole, (exists_encode_iff_writable mem).1 whole⟩, fun fraction => ?_, fun wide => ?_⟩
  · have spans := ((exists_encode_iff_writable mem).1 fraction).spans
    rw [pieces] at spans
    have span := spans ⟨60, ⟨1, by decide⟩⟩ (by simp)
    exact absurd span.1 (by decide)
  · have tags := ((exists_encode_iff_writable mem).1 wide).tags
    rw [pieces] at tags
    obtain ⟨tag, named, narrow⟩ := tags (.structured [⟨"0x1000000", .scalar .boolean true⟩])
      (by simp) _ (.head _)
    have number : Tag.ofText "0x1000000" = .ok ⟨0x1000000⟩ := by decide +kernel
    obtain rfl := Except.ok.inj (number.symm.trans named)
    exact absurd narrow (by decide)

end Record

end Kmip
