import Kmip.Encoding
import Kmip.Proofs.Scalar
import Kmip.Proofs.Tag

/-!
# Trees of items

What is said of an item and of all items in it at once: that it can be written (`Item.Encodable`),
that its date-times can be read (`Item.InRange`), that its values are short (`Item.Within`).
`Item.normal` is the item that is read back when it is written; it differs from the item in the
texts of tags and in date-times only, and is written as the same bytes (`Item.encode_normal`).
-/

namespace Kmip

namespace Value

/-- What holds of a structure when it holds of all values in it holds of every value. -/
@[induction_eliminator]
theorem induction {motive : Value → Prop}
    (structured : ∀ items, (∀ item ∈ items, motive item.value) → motive (.structured items))
    (scalar : ∀ type content, motive (.scalar type content)) (value : Value) : motive value :=
  @Value.rec (fun item => motive item.value) motive (fun items => ∀ item ∈ items, motive item.value)
    (fun _ _ held => held) structured scalar (List.forall_mem_nil _)
    (fun _ _ first rest => List.forall_mem_cons.2 ⟨first, rest⟩) value

end Value

mutual

/-- All items in a value. -/
def Value.inner : Value → List Item
  | .structured items => Item.allOf items
  | .scalar _ _ => []

/-- All items of a list, and all items in these. -/
def Item.allOf : List Item → List Item
  | [] => []
  | ⟨tag, value⟩ :: rest => ⟨tag, value⟩ :: (value.inner ++ Item.allOf rest)

end

mutual

/-- The length that an item declares for its value. -/
def Value.contentLength : Value → Nat
  | .structured items => Item.lengthOfAll items
  | .scalar type content => (type.encode content).length

/-- The length of items that follow each other: eight bytes of header, the content and its padding,
for each of them. -/
def Item.lengthOfAll : List Item → Nat
  | [] => 0
  | ⟨_, value⟩ :: rest =>
    8 + value.contentLength + paddingLength value.contentLength + Item.lengthOfAll rest

end

mutual

/-- The value as it is read back. -/
def Value.normal : Value → Value
  | .structured items => .structured (Item.normalEach items)
  | .scalar type content => .scalar type (type.normal content)

/-- Items as they are read back. -/
def Item.normalEach : List Item → List Item
  | [] => []
  | ⟨tag, value⟩ :: rest => ⟨Tag.canonical tag, value.normal⟩ :: Item.normalEach rest

end

namespace Item

/-- An item, and all items in it. -/
def all (item : Item) : List Item :=
  item :: item.value.inner

/-- The item as it is read back: every tag in its canonical text, every date-time cut to its whole
second and shown in UTC. -/
def normal (item : Item) : Item :=
  ⟨Tag.canonical item.tag, item.value.normal⟩

/-- Every tag text names a tag of three bytes, and every length fits four bytes. -/
def Encodable (item : Item) : Prop :=
  ∀ inner ∈ item.all, (∃ tag, Tag.ofText inner.tag = .ok tag ∧ tag.code.toNat < 2 ^ 24) ∧
    inner.value.contentLength < 2 ^ 32

/-- Every date-time lies within the years that can be read. -/
def InRange (item : Item) : Prop :=
  ∀ inner ∈ item.all, ∀ type content, inner.value = .scalar type content → type.InRange content

/-- The content of no value other than a structure has more than so many bytes. -/
def Within (limit : Nat) (item : Item) : Prop :=
  ∀ inner ∈ item.all, ∀ type content, inner.value = .scalar type content →
    (type.encode content).length ≤ limit

/-- What is among items is one of them, or in one of them. -/
lemma mem_allOf {item : Item} {items : List Item} :
    item ∈ allOf items ↔ ∃ outer ∈ items, item ∈ outer.all := by
  induction items with
  | nil => simp [allOf]
  | cons first rest ih =>
    obtain ⟨tag, value⟩ := first
    simp [allOf, all, ih, or_assoc]

/-- What holds of a structure and of all in it holds of it, and of its items with all in them. -/
lemma forall_mem_all_structured {p : Item → Prop} {tag : String} {items : List Item} :
    (∀ item ∈ all ⟨tag, .structured items⟩, p item) ↔
      p ⟨tag, .structured items⟩ ∧ ∀ item ∈ items, ∀ inner ∈ item.all, p inner := by
  simp only [all, Value.inner, List.forall_mem_cons, mem_allOf]
  grind

/-- In a single value there is nothing else. -/
lemma forall_mem_all_scalar {p : Item → Prop} {tag : String} {type : ScalarType}
    {content : type.Content} :
    (∀ item ∈ all ⟨tag, .scalar type content⟩, p item) ↔ p ⟨tag, .scalar type content⟩ := by
  simp [all, Value.inner]

/-- What holds of the single values in a single value holds of it. -/
lemma forall_content_scalar {p : (type : ScalarType) → type.Content → Prop} {tag : String}
    {type : ScalarType} {content : type.Content} :
    (∀ item ∈ all ⟨tag, .scalar type content⟩, ∀ other held, item.value = .scalar other held →
      p other held) ↔ p type content := by
  rw [forall_mem_all_scalar]
  constructor
  · intro all
    exact all type content rfl
  · rintro held _ _ ⟨⟩
    exact held

@[simp] lemma inRange_structured {tag : String} {items : List Item} :
    InRange ⟨tag, .structured items⟩ ↔ ∀ item ∈ items, item.InRange := by
  simp [InRange, forall_mem_all_structured]

@[simp] lemma inRange_scalar {tag : String} {type : ScalarType} {content : type.Content} :
    InRange ⟨tag, .scalar type content⟩ ↔ type.InRange content :=
  forall_content_scalar

@[simp] lemma within_structured {limit : Nat} {tag : String} {items : List Item} :
    Within limit ⟨tag, .structured items⟩ ↔ ∀ item ∈ items, item.Within limit := by
  simp [Within, forall_mem_all_structured]

@[simp] lemma within_scalar {limit : Nat} {tag : String} {type : ScalarType}
    {content : type.Content} :
    Within limit ⟨tag, .scalar type content⟩ ↔ (type.encode content).length ≤ limit :=
  forall_content_scalar (p := fun type content => (type.encode content).length ≤ limit)

@[simp] lemma normalEach_eq (items : List Item) : normalEach items = items.map normal := by
  induction items with
  | nil => rfl
  | cons item rest ih =>
    obtain ⟨tag, value⟩ := item
    rw [normalEach, ih, List.map_cons, normal]

@[simp] lemma encodeEach_eq (items : List Item) : encodeEach items = items.map encode := by
  induction items with
  | nil => rfl
  | cons item rest ih =>
    obtain ⟨tag, value⟩ := item
    rw [encodeEach, ih, List.map_cons, encode]

/-- Items nest as deep as the deepest. -/
lemma nestingOfAll_cons (item : Item) (rest : List Item) :
    Value.nestingOfAll (item :: rest) = max item.value.nesting (Value.nestingOfAll rest) := by
  obtain ⟨tag, value⟩ := item
  rw [Value.nestingOfAll]

/-- Items nest as deep as may be if each of them does. -/
lemma nestingOfAll_le {items : List Item} {depth : Nat} :
    Value.nestingOfAll items ≤ depth ↔ ∀ item ∈ items, item.value.nesting ≤ depth := by
  induction items with
  | nil => simp [Value.nestingOfAll]
  | cons item rest ih => simp [nestingOfAll_cons, ih]

/-- The length of items is that of the first and of the others. -/
lemma lengthOfAll_cons (item : Item) (rest : List Item) :
    lengthOfAll (item :: rest) = 8 + item.value.contentLength +
      paddingLength item.value.contentLength + lengthOfAll rest := by
  obtain ⟨tag, value⟩ := item
  rw [lengthOfAll]

/-- Items are made of groups of eight bytes. -/
lemma lengthOfAll_mod (items : List Item) : lengthOfAll items % 8 = 0 := by
  induction items with
  | nil => rfl
  | cons item rest ih =>
    have padded := add_paddingLength_mod item.value.contentLength
    rw [lengthOfAll_cons]
    omega

end Item

@[simp] lemma Value.nesting_normal (value : Value) : value.normal.nesting = value.nesting := by
  induction value with
  | structured items ih =>
    rw [normal, nesting, nesting, Item.normalEach_eq]
    congr 1
    induction items with
    | nil => rfl
    | cons item rest more =>
      obtain ⟨head, tail⟩ := List.forall_mem_cons.1 ih
      rw [List.map_cons, Item.nestingOfAll_cons, Item.nestingOfAll_cons, more tail, Item.normal,
        head]
  | scalar type content => rfl

@[simp] lemma Value.encode_normal (value : Value) (tag : Tag) :
    value.normal.encode tag = value.encode tag := by
  induction value generalizing tag with
  | structured items ih =>
    simp only [normal, encode, Item.normalEach_eq, Item.encodeEach_eq, List.map_map]
    congr 1
    apply List.map_congr_left
    intro item mem
    simp only [Function.comp_apply, Item.encode, Item.normal, Tag.ofText_canonical]
    congr 1
    funext tag
    exact ih item mem tag
  | scalar type content => simp [normal, encode, Encoded.scalar]

@[simp] lemma Item.encode_normal (item : Item) : item.normal.encode = item.encode := by
  simp [encode, normal]

end Kmip
