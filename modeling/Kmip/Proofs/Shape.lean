import Kmip.Proofs.Encoding
import Kmip.Shape.Encode

/-!
# Records as items

A value of a shape is written as an item is: `Shape.tree` is the value of that item, and
`Shape.Valid` says which values can be written at all. Only such values are written
(`Shape.valid_of_encode`), and these are written, or refused, as their trees are
(`Shape.encode_of_valid`). `Shape.normal` is the value as it is read back; its tree is the normal
form of the tree (`Shape.tree_normal`).
-/

namespace Kmip

namespace Leaf

/-- The value of the item as which a leaf is written. -/
def tree : (leaf : Leaf) → leaf.Val → Value
  | integer, value => .scalar .integer value
  | longInteger, value => .scalar .longInteger value
  | bigInteger, value => .scalar .bigInteger value
  | boolean, value => .scalar .boolean value
  | text, value => .scalar .textString value
  | bytes, value => .scalar .byteString value
  | dateTime, time | timeStamp, time => .scalar .dateTime time
  | interval, span => .scalar .interval (UInt32.ofNat span.seconds)
  | enumeration _, member => .scalar .enumeration member.code
  | usageMask, mask => .scalar .integer mask.bits.toInt32
  | anything, value => value

/-- Whether a value can be written: a span has whole seconds, of which four bytes can tell. -/
def Valid : (leaf : Leaf) → leaf.Val → Prop
  | interval, span => span.nanos = .zero ∧ span.seconds < 2 ^ 32
  | integer, _ | longInteger, _ | bigInteger, _ | boolean, _ | text, _ | bytes, _ | dateTime, _
  | timeStamp, _ | enumeration _, _ | usageMask, _ | anything, _ => True

/-- The value as it is read back: a date-time is cut to its whole second and shown in UTC, and an
item of any kind is in its normal form. -/
def normal : (leaf : Leaf) → leaf.Val → leaf.Val
  | dateTime, time | timeStamp, time => time.floor
  | anything, value => value.normal
  | integer, value | longInteger, value | bigInteger, value | boolean, value | text, value
  | bytes, value | interval, value | enumeration _, value | usageMask, value => value

end Leaf

namespace Presence

/-- The values of a field, of which there is at most one. -/
def values {α : Type} (presence : Presence) (value : presence.Val α) : List α :=
  (presence.toOption value).toList

/-- A field with its value replaced, if there is one. -/
def map {α : Type} (change : α → α) : (presence : Presence) → presence.Val α → presence.Val α
  | required, value => change value
  | optional, value => value.map change

@[simp] lemma values_map {α : Type} (change : α → α) (presence : Presence)
    (value : presence.Val α) :
    presence.values (presence.map change value) = (presence.values value).map change := by
  cases presence with
  | required => rfl
  | optional => cases value <;> rfl

end Presence

mutual

/-- The value of the item as which a value is written. -/
def Shape.tree : (shape : Shape) → shape.Val → Value
  | .leaf leaf, value => leaf.tree value
  | .choice variants, value => variants.tree value
  | .record _ _ fields, values => .structured (fields.trees values)

/-- The items as which fields are written. -/
def Fields.trees : (fields : Fields) → fields.Val → List Item
  | .nil, _ => []
  | .one presence tag _ shape rest, (value, values) =>
    (presence.values value).map (fun value => ⟨tag.text, shape.tree value⟩) ++ rest.trees values
  | .many _ tag _ shape rest, (items, values) =>
    items.map (fun item => ⟨tag.text, shape.tree item⟩) ++ rest.trees values
  | .embedded _ _ _ fields rest, (inner, values) => fields.trees inner ++ rest.trees values
  | .keyed selector keyTag _ between presence tag _ variants rest, (key, inner, value, values) =>
    ⟨keyTag.text, selector.leaf.tree key⟩ :: between.trees inner ++
      (presence.values value).map (fun value => ⟨tag.text, variants.tree value⟩) ++
        rest.trees values

/-- The value of the item as which a value of one of the variants is written. -/
def Variants.tree : (variants : Variants) → variants.Val → Value
  | .only _ shape, value => shape.tree value
  | .or _ shape _, .inl value => shape.tree value
  | .or _ _ rest, .inr value => rest.tree value

end

mutual

/-- Whether a value can be written, but for tags and lengths. -/
def Shape.Valid : (shape : Shape) → shape.Val → Prop
  | .leaf leaf, value => leaf.Valid value
  | .choice variants, value => variants.Valid value
  | .record _ _ fields, values => fields.Valid values

/-- Whether fields can be written: none is missing, and each value has the form that is selected. -/
def Fields.Valid : (fields : Fields) → fields.Val → Prop
  | .nil, _ => True
  | .one presence _ _ shape rest, (value, values) =>
    (∀ one ∈ presence.values value, shape.Valid one) ∧ rest.Valid values
  | .many atLeastOne _ _ shape rest, (items, values) =>
    ¬ (items.isEmpty && atLeastOne) ∧ (∀ item ∈ items, shape.Valid item) ∧ rest.Valid values
  | .embedded _ _ _ fields rest, (inner, values) => fields.Valid inner ∧ rest.Valid values
  | .keyed selector _ _ between presence _ _ variants rest, (key, inner, value, values) =>
    selector.leaf.Valid key ∧ between.Valid inner ∧
      (∀ one ∈ presence.values value,
        (Selection.of selector key).check variants one = .ok () ∧ variants.Valid one) ∧
      rest.Valid values

/-- Whether a value of one of the variants can be written. -/
def Variants.Valid : (variants : Variants) → variants.Val → Prop
  | .only _ shape, value => shape.Valid value
  | .or _ shape _, .inl value => shape.Valid value
  | .or _ _ rest, .inr value => rest.Valid value

end

mutual

/-- The value as it is read back. -/
def Shape.normal : (shape : Shape) → shape.Val → shape.Val
  | .leaf leaf, value => leaf.normal value
  | .choice variants, value => variants.normal value
  | .record _ _ fields, values => fields.normal values

/-- Fields as they are read back. -/
def Fields.normal : (fields : Fields) → fields.Val → fields.Val
  | .nil, _ => ()
  | .one presence _ _ shape rest, (value, values) =>
    (presence.map shape.normal value, rest.normal values)
  | .many _ _ _ shape rest, (items, values) => (items.map shape.normal, rest.normal values)
  | .embedded _ _ _ fields rest, (inner, values) => (fields.normal inner, rest.normal values)
  | .keyed selector _ _ between presence _ _ variants rest, (key, inner, value, values) =>
    (selector.leaf.normal key, between.normal inner, presence.map variants.normal value,
      rest.normal values)

/-- A value of one of the variants as it is read back, in the same variant. -/
def Variants.normal : (variants : Variants) → variants.Val → variants.Val
  | .only _ shape, value => shape.normal value
  | .or _ shape _, .inl value => .inl (shape.normal value)
  | .or _ _ rest, .inr value => .inr (rest.normal value)

end

/-- The value of a record as it is read back. -/
abbrev Record.normal (record : Record) (value : record.Val) : record.Val :=
  record.fields.normal value

/-- The item as which a record is written under its own tag. -/
def Record.item (record : Record) (value : record.Val) : Item :=
  ⟨record.tag.text, record.shape.tree value⟩

namespace Leaf

/-- The tree of a leaf that is read back is the normal form of its tree. -/
lemma tree_normal (leaf : Leaf) (value : leaf.Val) :
    leaf.tree (leaf.normal value) = (leaf.tree value).normal := by
  cases leaf <;> rfl

/-- A leaf that is read back can be written again. -/
lemma valid_normal (leaf : Leaf) (value : leaf.Val) :
    leaf.Valid (leaf.normal value) ↔ leaf.Valid value := by
  cases leaf <;> rfl

/-- A span has an encoding only if it is one of whole seconds, of which four bytes can tell. -/
lemma intervalSeconds_eq_ok {span : Span} {word : UInt32} :
    intervalSeconds span = .ok word ↔
      (span.nanos = .zero ∧ span.seconds < 2 ^ 32) ∧ UInt32.ofNat span.seconds = word := by
  unfold intervalSeconds
  split
  · next fraction => simp [fraction]
  · next whole =>
    rw [not_not] at whole
    split
    · next long =>
      have long : ¬ span.seconds < 2 ^ 32 := by omega
      simp only [long, and_false, false_and, reduceCtorEq]
    · next short =>
      have short : span.seconds < 2 ^ 32 := by omega
      simp only [whole, short, true_and, and_true, Except.ok.injEq]

/-- A leaf that is written can be. -/
lemma valid_of_encode (leaf : Leaf) {tag : Tag} {value : leaf.Val} {bytes : Bytes}
    (written : leaf.encode tag value = .ok bytes) : leaf.Valid value := by
  cases leaf with
  | interval =>
    obtain ⟨word, seconds, -⟩ := Encoded.bind_eq_ok.1 written
    exact (intervalSeconds_eq_ok.1 seconds).1
  | _ => trivial

/-- A leaf that can be written is written as its tree is, or refused as its tree is. -/
lemma encode_of_valid (leaf : Leaf) (tag : Tag) {value : leaf.Val} (valid : leaf.Valid value) :
    leaf.encode tag value = (leaf.tree value).encode tag := by
  cases leaf with
  | interval =>
    rw [encode, intervalSeconds_eq_ok.2 ⟨valid, rfl⟩]
    rfl
  | _ => rfl

end Leaf

@[simp] lemma Item.encode_text (tag : Tag) (value : Value) :
    Item.encode ⟨tag.text, value⟩ = value.encode tag := by
  simp [encode, bind, Except.bind, Except.mapError]

/-- The items of a field that stands at most once. -/
lemma Presence.map_toList {α : Type} (presence : Presence) (write : α → Encoded)
    (value : presence.Val α) :
    ((presence.toOption value).map write).toList = (presence.values value).map write :=
  Option.toList_map

/-- Whether each of several items is written. -/
def Encoded.Succeed (items : List Encoded) : Prop :=
  ∀ item ∈ items, ∃ bytes, item = .ok bytes

mutual

/-- A value that is written can be. -/
lemma Shape.valid_of_encode (shape : Shape) {tag : Tag} {value : shape.Val} {bytes : Bytes}
    (written : shape.encode tag value = .ok bytes) : shape.Valid value := by
  cases shape with
  | leaf leaf => exact leaf.valid_of_encode written
  | choice variants => exact variants.valid_of_encode written
  | record name own fields =>
    obtain ⟨content, written, -⟩ := Encoded.structured_eq_ok.1 written
    exact fields.valid_of_encodeEach (Encoded.exists_concat_iff.1 ⟨content, written⟩)

/-- Fields of which each item is written can be. -/
lemma Fields.valid_of_encodeEach (fields : Fields) {record : String} {values : fields.Val}
    (written : Encoded.Succeed (fields.encodeEach record values)) : fields.Valid values := by
  cases fields with
  | nil => trivial
  | one presence tag label shape rest =>
    obtain ⟨value, values⟩ := values
    rw [Fields.encodeEach, Presence.map_toList] at written
    obtain ⟨here, there⟩ := List.forall_mem_append.1 written
    refine ⟨fun one mem => ?_, rest.valid_of_encodeEach there⟩
    obtain ⟨bytes, written⟩ := here _ (List.mem_map_of_mem mem)
    exact shape.valid_of_encode written
  | many atLeastOne tag label shape rest =>
    obtain ⟨items, values⟩ := values
    rw [Fields.encodeEach] at written
    obtain ⟨here, there⟩ := List.forall_mem_append.1 written
    split at here
    · obtain ⟨bytes, missing⟩ := here _ List.mem_cons_self
      cases missing
    · next some =>
      refine ⟨some, fun item mem => ?_, rest.valid_of_encodeEach there⟩
      obtain ⟨bytes, written⟩ := here _ (List.mem_map_of_mem mem)
      exact shape.valid_of_encode written
  | embedded label name tag fields rest =>
    obtain ⟨inner, values⟩ := values
    obtain ⟨here, there⟩ := List.forall_mem_append.1 written
    exact ⟨fields.valid_of_encodeEach here, rest.valid_of_encodeEach there⟩
  | keyed selector keyTag keyLabel between presence tag label variants rest =>
    obtain ⟨key, inner, value, values⟩ := values
    rw [Fields.encodeEach, Presence.map_toList] at written
    obtain ⟨front, there⟩ := List.forall_mem_append.1 written
    obtain ⟨front, chosen⟩ := List.forall_mem_append.1 front
    obtain ⟨⟨bytes, selects⟩, middle⟩ := List.forall_mem_cons.1 front
    refine ⟨selector.leaf.valid_of_encode selects, between.valid_of_encodeEach middle,
      fun one mem => ?_, rest.valid_of_encodeEach there⟩
    -- a value is written under its tag only if it has the variant that the key selects
    obtain ⟨bytes, written⟩ := chosen _ (List.mem_map_of_mem mem)
    obtain ⟨_, checked, written⟩ := Encoded.bind_eq_ok.1 written
    exact ⟨checked, variants.valid_of_encode written⟩

/-- A value of one of the variants that is written can be. -/
lemma Variants.valid_of_encode (variants : Variants) {tag : Tag} {value : variants.Val}
    {bytes : Bytes} (written : variants.encode tag value = .ok bytes) : variants.Valid value := by
  cases variants with
  | only label shape => exact shape.valid_of_encode written
  | or label shape rest =>
    cases value with
    | inl value => exact shape.valid_of_encode written
    | inr value => exact rest.valid_of_encode written

end

/-- Values of one tag that are each written as their trees are. -/
lemma Item.map_encode_of_eq {α : Type} {tag : Tag} {write : α → Encoded} {tree : α → Value}
    {values : List α} (same : ∀ value ∈ values, write value = (tree value).encode tag) :
    values.map write =
      (values.map fun value => (⟨tag.text, tree value⟩ : Item)).map Item.encode := by
  rw [List.map_map]
  apply List.map_congr_left
  intro value mem
  rw [same value mem, Function.comp_apply, Item.encode_text]

mutual

/-- A value that can be written is written as its tree is, or refused as its tree is. -/
lemma Shape.encode_of_valid (shape : Shape) (tag : Tag) {value : shape.Val}
    (valid : shape.Valid value) : shape.encode tag value = (shape.tree value).encode tag := by
  cases shape with
  | leaf leaf => exact leaf.encode_of_valid tag valid
  | choice variants => exact variants.encode_of_valid tag valid
  | record name own fields =>
    rw [Shape.encode, Shape.tree, Value.encode, Item.encodeEach_eq,
      fields.encodeEach_of_valid name valid]

/-- Fields that can be written are written as their trees are. -/
lemma Fields.encodeEach_of_valid (fields : Fields) (record : String) {values : fields.Val}
    (valid : fields.Valid values) :
    fields.encodeEach record values = (fields.trees values).map Item.encode := by
  cases fields with
  | nil => rfl
  | one presence tag label shape rest =>
    obtain ⟨value, values⟩ := values
    obtain ⟨here, there⟩ := valid
    have same := Item.map_encode_of_eq fun one mem => shape.encode_of_valid tag (here one mem)
    rw [Fields.encodeEach, Fields.trees, Presence.map_toList, List.map_append, same,
      rest.encodeEach_of_valid record there]
  | many atLeastOne tag label shape rest =>
    obtain ⟨items, values⟩ := values
    obtain ⟨some, here, there⟩ := valid
    have same := Item.map_encode_of_eq fun item mem => shape.encode_of_valid tag (here item mem)
    rw [Fields.encodeEach, Fields.trees, if_neg some, List.map_append, same,
      rest.encodeEach_of_valid record there]
  | embedded label name tag fields rest =>
    obtain ⟨inner, values⟩ := values
    obtain ⟨here, there⟩ := valid
    rw [Fields.encodeEach, Fields.trees, List.map_append, fields.encodeEach_of_valid name here,
      rest.encodeEach_of_valid record there]
  | keyed selector keyTag keyLabel between presence tag label variants rest =>
    obtain ⟨key, inner, value, values⟩ := values
    obtain ⟨selects, middle, here, there⟩ := valid
    -- the check of the variant lets every value pass
    have chosen : ∀ one ∈ presence.values value, (do
        (Selection.of selector key).check variants one
        variants.encode tag one : Encoded) = (variants.tree one).encode tag := by
      intro one mem
      obtain ⟨checked, valid⟩ := here one mem
      rw [checked]
      exact variants.encode_of_valid tag valid
    have same := Item.map_encode_of_eq chosen
    simp only [Fields.encodeEach, Fields.trees, Presence.map_toList, List.cons_append,
      List.map_cons, List.map_append, Item.encode_text, same]
    rw [selector.leaf.encode_of_valid keyTag selects, between.encodeEach_of_valid record middle,
      rest.encodeEach_of_valid record there]

/-- A value of one of the variants that can be written is written as its tree is. -/
lemma Variants.encode_of_valid (variants : Variants) (tag : Tag) {value : variants.Val}
    (valid : variants.Valid value) :
    variants.encode tag value = (variants.tree value).encode tag := by
  cases variants with
  | only label shape => exact shape.encode_of_valid tag valid
  | or label shape rest =>
    cases value with
    | inl value => exact shape.encode_of_valid tag valid
    | inr value => exact rest.encode_of_valid tag valid

end

/-- A value is written like its tree, if it can be. -/
lemma Shape.encode_eq_ok (shape : Shape) (tag : Tag) (value : shape.Val) (bytes : Bytes) :
    shape.encode tag value = .ok bytes ↔
      shape.Valid value ∧ (shape.tree value).encode tag = .ok bytes := by
  constructor
  · intro written
    have valid := shape.valid_of_encode written
    exact ⟨valid, (shape.encode_of_valid tag valid).symm.trans written⟩
  · rintro ⟨valid, written⟩
    exact (shape.encode_of_valid tag valid).trans written

mutual

/-- The tree of a value that is read back is the normal form of its tree. -/
lemma Shape.tree_normal (shape : Shape) (value : shape.Val) :
    shape.tree (shape.normal value) = (shape.tree value).normal := by
  cases shape with
  | leaf leaf => exact leaf.tree_normal value
  | choice variants => exact variants.tree_normal value
  | record name tag fields =>
    rw [Shape.normal, Shape.tree, Shape.tree, Value.normal, Item.normalEach_eq,
      fields.trees_normal value]

/-- The trees of fields that are read back are the normal forms of their trees. -/
lemma Fields.trees_normal (fields : Fields) (values : fields.Val) :
    fields.trees (fields.normal values) = (fields.trees values).map Item.normal := by
  cases fields with
  | nil => rfl
  | one presence tag label shape rest =>
    obtain ⟨value, values⟩ := values
    simp [Fields.normal, Fields.trees, rest.trees_normal values, shape.tree_normal, Item.normal]
  | many atLeastOne tag label shape rest =>
    obtain ⟨items, values⟩ := values
    simp [Fields.normal, Fields.trees, rest.trees_normal values, shape.tree_normal, Item.normal]
  | embedded label name tag fields rest =>
    obtain ⟨inner, values⟩ := values
    simp [Fields.normal, Fields.trees, fields.trees_normal inner, rest.trees_normal values]
  | keyed selector keyTag keyLabel between presence tag label variants rest =>
    obtain ⟨key, inner, value, values⟩ := values
    simp [Fields.normal, Fields.trees, between.trees_normal inner, rest.trees_normal values,
      variants.tree_normal, selector.leaf.tree_normal, Item.normal]

/-- The tree of a value that is read back is the normal form of its tree. -/
lemma Variants.tree_normal (variants : Variants) (value : variants.Val) :
    variants.tree (variants.normal value) = (variants.tree value).normal := by
  cases variants with
  | only label shape => exact shape.tree_normal value
  | or label shape rest =>
    cases value with
    | inl value => exact shape.tree_normal value
    | inr value => exact rest.tree_normal value

end

@[simp] lemma Variants.labelOf_normal : (variants : Variants) → (value : variants.Val) →
    variants.labelOf (variants.normal value) = variants.labelOf value
  | .only _ _, _ => rfl
  | .or _ _ _, .inl _ => rfl
  | .or _ _ rest, .inr value => rest.labelOf_normal value

@[simp] lemma Selection.of_normal (selector : Selector) (key : selector.leaf.Val) :
    Selection.of selector (selector.leaf.normal key) = Selection.of selector key := by
  cases selector <;> rfl

mutual

/-- A value that is read back can be written again. -/
lemma Shape.valid_normal (shape : Shape) (value : shape.Val) :
    shape.Valid (shape.normal value) ↔ shape.Valid value := by
  cases shape with
  | leaf leaf => exact leaf.valid_normal value
  | choice variants => exact variants.valid_normal value
  | record name tag fields => exact fields.valid_normal value

/-- Fields that are read back can be written again. -/
lemma Fields.valid_normal (fields : Fields) (values : fields.Val) :
    fields.Valid (fields.normal values) ↔ fields.Valid values := by
  cases fields with
  | nil => rfl
  | one presence tag label shape rest =>
    obtain ⟨value, values⟩ := values
    simp [Fields.normal, Fields.Valid, rest.valid_normal values, shape.valid_normal]
  | many atLeastOne tag label shape rest =>
    obtain ⟨items, values⟩ := values
    simp [Fields.normal, Fields.Valid, rest.valid_normal values, shape.valid_normal]
  | embedded label name tag fields rest =>
    obtain ⟨inner, values⟩ := values
    simp [Fields.normal, Fields.Valid, fields.valid_normal inner, rest.valid_normal values]
  | keyed selector keyTag keyLabel between presence tag label variants rest =>
    obtain ⟨key, inner, value, values⟩ := values
    simp [Fields.normal, Fields.Valid, between.valid_normal inner, rest.valid_normal values,
      variants.valid_normal, selector.leaf.valid_normal, Selection.check]

/-- A value of one of the variants that is read back can be written again. -/
lemma Variants.valid_normal (variants : Variants) (value : variants.Val) :
    variants.Valid (variants.normal value) ↔ variants.Valid value := by
  cases variants with
  | only label shape => exact shape.valid_normal value
  | or label shape rest =>
    cases value with
    | inl value => exact shape.valid_normal value
    | inr value => exact rest.valid_normal value

end

end Kmip
