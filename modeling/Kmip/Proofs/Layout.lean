import Kmip.Proofs.Scalar
import Kmip.Proofs.Tag
import Kmip.Reader

/-!
# The layout of items

The grammar of items in bytes, apart from any reader. A `Layout` is an item as it stands there, and
`Layout.bytes` spells it: a header, and then the content with its padding or, for a structure, the
items in it one after the other. `Layout.Denotes` tells which item it stands for.

Bytes have one layout only (`Layout.eq_of_bytes_eq`), whatever follows them.
-/

namespace Kmip

namespace Header

/-- The tag and the length of a header fit their bytes. -/
structure Fits (header : Header) : Prop where
  tag : header.tag.code.toNat < 2 ^ 24
  length : header.length < 2 ^ 32

/-- Three bytes of tag, the type, and four bytes of length. -/
def bytes (header : Header) : Bytes :=
  Bytes.bigEndian 3 header.tag.code.toNat ++ header.type :: Bytes.bigEndian 4 header.length

@[simp] lemma length_bytes (header : Header) : header.bytes.length = 8 := by
  simp [bytes]

/-- Bytes are read as the header that they spell. -/
lemma ofBytes?_eq_some {bytes : Bytes} {header : Header} :
    ofBytes? bytes = some header ↔ bytes = header.bytes ∧ header.Fits := by
  constructor
  · intro read
    unfold ofBytes? at read
    split at read
    · next a b c type d e f g =>
      obtain rfl := Option.some.inj read
      have three := Bytes.toNat_lt [a, b, c]
      have four := Bytes.toNat_lt [d, e, f, g]
      have tag := Bytes.bigEndian_toNat [a, b, c]
      have length := Bytes.bigEndian_toNat [d, e, f, g]
      simp only [List.length_cons, List.length_nil, Nat.zero_add, Nat.reduceAdd, Nat.reducePow]
        at three four tag length
      have code : (UInt32.ofNat (Bytes.toNat [a, b, c])).toNat = Bytes.toNat [a, b, c] :=
        UInt32.toNat_ofNat_of_lt' (three.trans (by decide))
      refine ⟨?_, ?_, four⟩
      · simp [Header.bytes, code, tag, length]
      · simpa [code] using three
    · cases read
  · rintro ⟨rfl, tag, length⟩
    have read : ofBytes? header.bytes =
        some ⟨⟨UInt32.ofNat (Bytes.bigEndian 3 header.tag.code.toNat).toNat⟩, header.type,
          (Bytes.bigEndian 4 header.length).toNat⟩ := rfl
    rw [read, ScalarType.toNat_bigEndian_of_lt tag, ScalarType.toNat_bigEndian_of_lt length,
      UInt32.ofNat_toNat]

/-- A header is read from the front of its bytes. -/
lemma Fits.ofBytes?_bytes {header : Header} (fits : header.Fits) :
    ofBytes? header.bytes = some header :=
  ofBytes?_eq_some.2 ⟨rfl, fits⟩

/-- A header that fits is known from its bytes. -/
lemma eq_of_bytes_eq {left right : Header} (hl : left.Fits) (hr : right.Fits)
    (same : left.bytes = right.bytes) : left = right := by
  have read := hl.ofBytes?_bytes
  rw [same, hr.ofBytes?_bytes] at read
  exact (Option.some.inj read).symm

/-- Bytes start with one header only. -/
lemma eq_of_prefix {left right : Header} {bytes : Bytes} (hl : left.Fits) (hr : right.Fits)
    (first : left.bytes <+: bytes) (first' : right.bytes <+: bytes) : left = right :=
  eq_of_bytes_eq hl hr
    ((List.prefix_of_prefix_length_le first first' (by simp)).eq_of_length (by simp))

lemma append_inj {left right : Header} {after behind : Bytes} (hl : left.Fits) (hr : right.Fits)
    (same : left.bytes ++ after = right.bytes ++ behind) : left = right ∧ after = behind := by
  obtain rfl := eq_of_prefix hl hr (List.prefix_append _ after) (same ▸ List.prefix_append _ _)
  exact ⟨rfl, List.append_cancel_left same⟩

end Header

/-- An item as it stands in bytes. -/
inductive Layout where
  /-- An item of a scalar type, with the bytes of its content. -/
  | scalar (tag : Tag) (type : ScalarType) (content : Bytes)
  /-- A structure of items. -/
  | structured (tag : Tag) (items : List Layout)

namespace Layout

/-- What holds of a structure when it holds of all items in it holds of every layout. -/
@[induction_eliminator]
theorem induction {motive : Layout → Prop}
    (scalar : ∀ tag type content, motive (.scalar tag type content))
    (structured : ∀ tag items, (∀ item ∈ items, motive item) → motive (.structured tag items))
    (layout : Layout) : motive layout :=
  @Layout.rec motive (fun items => ∀ item ∈ items, motive item) scalar structured
    (List.forall_mem_nil _) (fun _ _ first rest => List.forall_mem_cons.2 ⟨first, rest⟩) layout

/-- The tag of an item. -/
def tag : Layout → Tag
  | scalar tag _ _ | structured tag _ => tag

mutual

/-- The bytes of an item. -/
def bytes : Layout → Bytes
  | scalar tag type content =>
    Header.bytes ⟨tag, (ItemType.scalar type).byte, content.length⟩ ++ content ++
      Bytes.zeros (paddingLength content.length)
  | structured tag items =>
    Header.bytes ⟨tag, ItemType.structured.byte, (bytesOfAll items).length⟩ ++ bytesOfAll items

/-- The bytes of items that follow each other. -/
def bytesOfAll : List Layout → Bytes
  | [] => []
  | first :: rest => first.bytes ++ bytesOfAll rest

end

mutual

/-- An item, and all items in it. -/
def all : Layout → List Layout
  | scalar tag type content => [scalar tag type content]
  | structured tag items => structured tag items :: allOf items

/-- All items of a list, and all items in these. -/
def allOf : List Layout → List Layout
  | [] => []
  | first :: rest => first.all ++ allOf rest

end

mutual

/-- How many structures lie within each other. -/
def nesting : Layout → Nat
  | scalar _ _ _ => 0
  | structured _ items => nestingOfAll items + 1

/-- The deepest nesting among items. -/
def nestingOfAll : List Layout → Nat
  | [] => 0
  | first :: rest => max first.nesting (nestingOfAll rest)

end

mutual

/-- The item that a layout stands for: its tag in canonical text, and the value of its bytes. -/
def Denotes : Layout → Item → Prop
  | scalar tag type content, item =>
    ∃ value, item = ⟨tag.text, .scalar type value⟩ ∧ type.Denotes content value
  | structured tag layouts, item =>
    ∃ items, item = ⟨tag.text, .structured items⟩ ∧ DenotesAll layouts items

/-- The items that layouts stand for, in their order. -/
def DenotesAll : List Layout → List Item → Prop
  | [], items => items = []
  | first :: rest, items => ∃ item more, items = item :: more ∧ first.Denotes item ∧
    DenotesAll rest more

end

/-- The header of an item. -/
def header : Layout → Header
  | scalar tag type content => ⟨tag, (ItemType.scalar type).byte, content.length⟩
  | structured tag items => ⟨tag, ItemType.structured.byte, (bytesOfAll items).length⟩

/-- What follows the header of an item. -/
def body : Layout → Bytes
  | scalar _ _ content => content ++ Bytes.zeros (paddingLength content.length)
  | structured _ items => bytesOfAll items

/-- Every tag and every length fits its place in a header. -/
def Fits (layout : Layout) : Prop :=
  ∀ item ∈ layout.all, item.header.Fits

/-- No item other than a structure declares more than so many bytes. -/
def Within (limit : Nat) (layout : Layout) : Prop :=
  ∀ item ∈ layout.all, item.header.isStructure = false → item.header.length ≤ limit

/-- Every big integer is as short as its value allows. -/
def IsShortest (layout : Layout) : Prop :=
  ∀ item ∈ layout.all, ∀ tag type content, item = scalar tag type content → type.IsShortest content

/-- An item is its header and what follows. -/
lemma bytes_eq (layout : Layout) : layout.bytes = layout.header.bytes ++ layout.body := by
  cases layout with
  | scalar tag type content => simp [bytes, header, body]
  | structured tag items => simp [bytes, header, body]

/-- The length of an item is that of its header and of what follows. -/
lemma length_bytes (layout : Layout) : layout.bytes.length = 8 + layout.body.length := by
  simp [bytes_eq]

/-- Whole groups of eight bytes follow each other. -/
lemma length_bytesOfAll_mod {items : List Layout}
    (whole : ∀ item ∈ items, item.bytes.length % 8 = 0) : (bytesOfAll items).length % 8 = 0 := by
  induction items with
  | nil => rfl
  | cons first rest ih =>
    obtain ⟨whole, others⟩ := List.forall_mem_cons.1 whole
    have rest := ih others
    rw [bytesOfAll, List.length_append]
    omega

/-- Items are made of groups of eight bytes. -/
lemma length_bytes_mod (layout : Layout) : layout.bytes.length % 8 = 0 := by
  induction layout with
  | scalar tag type content =>
    have padded := add_paddingLength_mod content.length
    simp only [length_bytes, body, List.length_append, Bytes.length_zeros]
    omega
  | structured tag items ih =>
    have whole := length_bytesOfAll_mod ih
    simp only [length_bytes, body]
    omega

/-- What is among items is one of them, or in one of them. -/
lemma mem_allOf {item : Layout} {items : List Layout} :
    item ∈ allOf items ↔ ∃ outer ∈ items, item ∈ outer.all := by
  induction items with
  | nil => simp [allOf]
  | cons first rest ih => simp [allOf, ih]

/-- What holds of a structure and of all in it holds of it, and of its items with all in them. -/
lemma forall_mem_all_structured {p : Layout → Prop} {tag : Tag} {items : List Layout} :
    (∀ item ∈ (structured tag items).all, p item) ↔
      p (structured tag items) ∧ ∀ item ∈ items, ∀ inner ∈ item.all, p inner := by
  simp only [all, List.forall_mem_cons, mem_allOf]
  grind

@[simp] lemma isStructure_scalar (tag : Tag) (type : ScalarType) (content : Bytes) :
    (scalar tag type content).header.isStructure = false := by
  cases type <;> rfl

@[simp] lemma isStructure_structured (tag : Tag) (items : List Layout) :
    (structured tag items).header.isStructure = true := rfl

@[simp] lemma fits_scalar {tag : Tag} {type : ScalarType} {content : Bytes} :
    (scalar tag type content).Fits ↔ (scalar tag type content).header.Fits := by
  simp [Fits, all]

@[simp] lemma fits_structured {tag : Tag} {items : List Layout} :
    (structured tag items).Fits ↔
      (structured tag items).header.Fits ∧ ∀ item ∈ items, item.Fits :=
  forall_mem_all_structured

/-- The header of an item that fits does so too. -/
lemma Fits.header {layout : Layout} (fits : layout.Fits) : layout.header.Fits := by
  cases layout with
  | scalar tag type content => exact fits_scalar.1 fits
  | structured tag items => exact (fits_structured.1 fits).1

@[simp] lemma within_scalar {limit : Nat} {tag : Tag} {type : ScalarType} {content : Bytes} :
    (scalar tag type content).Within limit ↔ content.length ≤ limit := by
  simp only [Within, all, List.forall_mem_singleton, isStructure_scalar, true_imp_iff]
  rfl

@[simp] lemma within_structured {limit : Nat} {tag : Tag} {items : List Layout} :
    (structured tag items).Within limit ↔ ∀ item ∈ items, item.Within limit := by
  simp [Within, forall_mem_all_structured]

@[simp] lemma isShortest_scalar {tag : Tag} {type : ScalarType} {content : Bytes} :
    (scalar tag type content).IsShortest ↔ type.IsShortest content := by
  simp only [IsShortest, all, List.forall_mem_singleton, scalar.injEq]
  constructor
  · intro shortest
    exact shortest tag type content ⟨rfl, rfl, rfl⟩
  · rintro shortest _ _ _ ⟨rfl, rfl, rfl⟩
    exact shortest

@[simp] lemma isShortest_structured {tag : Tag} {items : List Layout} :
    (structured tag items).IsShortest ↔ ∀ item ∈ items, item.IsShortest := by
  simp [IsShortest, forall_mem_all_structured]

@[simp] lemma tag_header (layout : Layout) : layout.header.tag = layout.tag := by
  cases layout <;> rfl

lemma header_eq_of_append {left right : Layout} {after behind : Bytes} (hl : left.Fits)
    (hr : right.Fits) (same : left.bytes ++ after = right.bytes ++ behind) :
    left.header = right.header ∧ left.body ++ after = right.body ++ behind := by
  rw [bytes_eq, bytes_eq, List.append_assoc, List.append_assoc] at same
  exact Header.append_inj hl.header hr.header same

/-- Items that each have one layout have one layout together. -/
lemma eq_of_bytesOfAll_eq {left right : List Layout}
    (one : ∀ item ∈ left, ∀ (other : Layout) (after behind : Bytes), item.Fits → other.Fits →
      item.bytes ++ after = other.bytes ++ behind → item = other)
    (hl : ∀ item ∈ left, item.Fits) (hr : ∀ item ∈ right, item.Fits)
    (same : bytesOfAll left = bytesOfAll right) : left = right := by
  induction left generalizing right with
  | nil =>
    cases right with
    | nil => rfl
    | cons first rest =>
      have lengths := congrArg List.length same
      simp only [bytesOfAll, List.length_append, List.length_nil, length_bytes] at lengths
      omega
  | cons first rest ih =>
    cases right with
    | nil =>
      have lengths := congrArg List.length same
      simp only [bytesOfAll, List.length_append, List.length_nil, length_bytes] at lengths
      omega
    | cons first' rest' =>
      simp only [List.forall_mem_cons] at one hl hr
      obtain rfl := one.1 first' _ _ hl.1 hr.1 same
      rw [ih one.2 hl.2 hr.2 (List.append_cancel_left same)]

/-- Bytes start with one item only, if with any. -/
theorem eq_of_bytes_append_eq (left : Layout) : ∀ (right : Layout) (after behind : Bytes),
    left.Fits → right.Fits → left.bytes ++ after = right.bytes ++ behind → left = right := by
  -- any rests may follow, since in a structure each item is followed by its siblings
  induction left with
  | scalar tag type content =>
    intro right after behind hl hr same
    obtain ⟨headers, bodies⟩ := header_eq_of_append hl hr same
    cases right with
    | structured _ _ =>
      have kinds := congrArg Header.isStructure headers
      simp at kinds
    | scalar tag' type' content' =>
      simp only [header, Header.mk.injEq] at headers
      obtain ⟨rfl, byte, length⟩ := headers
      -- the byte of a type tells the type
      have types := ItemType.ofByte?_byte (.scalar type)
      rw [byte, ItemType.ofByte?_byte] at types
      obtain rfl : type' = type := by simpa using types
      rw [body, body, List.append_assoc, List.append_assoc] at bodies
      rw [(List.append_inj bodies length).1]
  | structured tag items ih =>
    intro right after behind hl hr same
    obtain ⟨headers, bodies⟩ := header_eq_of_append hl hr same
    cases right with
    | scalar _ _ _ =>
      have kinds := congrArg Header.isStructure headers
      simp at kinds
    | structured tag' items' =>
      simp only [header, Header.mk.injEq] at headers
      obtain ⟨rfl, -, length⟩ := headers
      have contents := (List.append_inj bodies length).1
      rw [eq_of_bytesOfAll_eq ih (fits_structured.1 hl).2 (fits_structured.1 hr).2 contents]

/-- Bytes have one layout only. -/
lemma eq_of_bytes_eq {left right : Layout} (hl : left.Fits) (hr : right.Fits)
    (same : left.bytes = right.bytes) : left = right :=
  eq_of_bytes_append_eq left right [] [] hl hr (by rw [same])

/-- Items nest like their layouts if each of them does. -/
lemma DenotesAll.nesting_eq {layouts : List Layout} {items : List Item}
    (one : ∀ layout ∈ layouts, ∀ {item : Item}, layout.Denotes item →
      layout.nesting = item.value.nesting) (denoted : DenotesAll layouts items) :
    nestingOfAll layouts = Value.nestingOfAll items := by
  induction layouts generalizing items with
  | nil =>
    obtain rfl := denoted
    rfl
  | cons first rest ih =>
    obtain ⟨⟨text, value⟩, more, rfl, head, tail⟩ := denoted
    obtain ⟨one, others⟩ := List.forall_mem_cons.1 one
    rw [nestingOfAll, Value.nestingOfAll, one head, ih others tail]

/-- A single value and its layout do not nest; a structure nests like its layout. -/
lemma Denotes.nesting_eq {layout : Layout} : ∀ {item : Item}, layout.Denotes item →
    layout.nesting = item.value.nesting := by
  induction layout with
  | scalar tag type content =>
    rintro _ ⟨value, rfl, -⟩
    rfl
  | structured tag layouts ih =>
    rintro _ ⟨items, rfl, denoted⟩
    rw [nesting, Value.nesting, DenotesAll.nesting_eq ih denoted]

/-- A single value is denoted by a content of its type under its tag. -/
lemma denotes_scalar_iff {layout : Layout} {tag : Tag} {type : ScalarType} {value : type.Content} :
    layout.Denotes ⟨tag.text, .scalar type value⟩ ↔
      ∃ content, layout = scalar tag type content ∧ type.Denotes content value := by
  constructor
  · intro denoted
    cases layout with
    | scalar own type' content =>
      obtain ⟨value', same, denoted⟩ := denoted
      obtain ⟨text, same⟩ := Item.mk.inj same
      obtain rfl := Tag.text_injective text
      cases same
      exact ⟨content, rfl, denoted⟩
    | structured own layouts =>
      obtain ⟨items, same, -⟩ := denoted
      cases (Item.mk.inj same).2
  · rintro ⟨content, rfl, denoted⟩
    exact ⟨value, rfl, denoted⟩

/-- A structure is denoted by layouts of its items under its tag. -/
lemma denotes_structured_iff {layout : Layout} {tag : Tag} {items : List Item} :
    layout.Denotes ⟨tag.text, .structured items⟩ ↔
      ∃ layouts, layout = structured tag layouts ∧ DenotesAll layouts items := by
  constructor
  · intro denoted
    cases layout with
    | scalar own type content =>
      obtain ⟨value, same, -⟩ := denoted
      cases (Item.mk.inj same).2
    | structured own layouts =>
      obtain ⟨items', same, denoted⟩ := denoted
      obtain ⟨text, same⟩ := Item.mk.inj same
      obtain rfl := Tag.text_injective text
      cases same
      exact ⟨layouts, rfl, denoted⟩
  · rintro ⟨layouts, rfl, denoted⟩
    exact ⟨items, rfl, denoted⟩

/-- Only no layouts denote no items. -/
lemma denotesAll_nil_iff {layouts : List Layout} : DenotesAll layouts [] ↔ layouts = [] := by
  cases layouts <;> simp [DenotesAll]

/-- The first of several layouts denotes the first item. -/
lemma denotesAll_cons_iff {layouts : List Layout} {item : Item} {rest : List Item} :
    DenotesAll layouts (item :: rest) ↔
      ∃ layout others, layouts = layout :: others ∧ layout.Denotes item ∧
        DenotesAll others rest := by
  constructor
  · intro denoted
    cases layouts with
    | nil => cases denoted
    | cons layout others =>
      obtain ⟨_, _, same, head, tail⟩ := denoted
      obtain ⟨rfl, rfl⟩ := List.cons.inj same
      exact ⟨layout, others, rfl, head, tail⟩
  · rintro ⟨layout, others, rfl, head, tail⟩
    exact ⟨item, rest, rfl, head, tail⟩

/-- Layouts denote items one after the other. -/
lemma denotesAll_append_iff {layouts : List Layout} {left right : List Item} :
    DenotesAll layouts (left ++ right) ↔
      ∃ first second, layouts = first ++ second ∧ DenotesAll first left ∧
        DenotesAll second right := by
  induction left generalizing layouts with
  | nil => simp [denotesAll_nil_iff]
  | cons item rest ih =>
    simp only [List.cons_append, denotesAll_cons_iff, ih]
    constructor
    · rintro ⟨layout, _, rfl, head, first, second, rfl, tail, more⟩
      exact ⟨layout :: first, second, rfl, ⟨layout, first, rfl, head, tail⟩, more⟩
    · rintro ⟨_, second, rfl, ⟨layout, first, rfl, head, tail⟩, more⟩
      exact ⟨layout, _, rfl, head, first, second, rfl, tail, more⟩

/-- The item of a layout has its tag, in canonical text. -/
lemma Denotes.tag_eq {layout : Layout} {item : Item} (denoted : layout.Denotes item) :
    item.tag = layout.tag.text := by
  cases layout with
  | scalar tag type content =>
    obtain ⟨value, rfl, -⟩ := denoted
    rfl
  | structured tag layouts =>
    obtain ⟨items, rfl, -⟩ := denoted
    rfl

end Layout

end Kmip
