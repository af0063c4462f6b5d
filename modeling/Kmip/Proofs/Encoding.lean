import Kmip.Proofs.Item
import Kmip.Proofs.Layout

/-!
# Which items are written, and how

`Item.exists_encode_iff` tells exactly which items have an encoding. What is written is the bytes of
a layout that denotes the item as it is read back (`Item.exists_layout_of_encode`), and an item that
a layout denotes is written as the bytes of that layout, big integers with superfluous groups
excepted (`Layout.Denotes.encode_eq`).
-/

namespace Kmip

namespace Encoded

/-- Two steps succeed if the first does, and the second on its result. -/
lemma bind_eq_ok {ε α β : Type} {step : Except ε α} {next : α → Except ε β} {result : β} :
    (step >>= next) = .ok result ↔ ∃ value, step = .ok value ∧ next value = .ok result := by
  cases step <;> simp [bind, Except.bind]

/-- Another report of a failure does not touch success. -/
lemma mapError_eq_ok {ε ε' α : Type} {step : Except ε α} {report : ε → ε'} {result : α} :
    step.mapError report = .ok result ↔ step = .ok result := by
  cases step <;> simp [Except.mapError]

/-- Items are written together if each of them is. -/
lemma concat_cons_eq_ok {first : Encoded} {rest : List Encoded} {bytes : Bytes} :
    concat (first :: rest) = .ok bytes ↔
      ∃ head tail, first = .ok head ∧ concat rest = .ok tail ∧ bytes = head ++ tail := by
  simp only [concat, bind_eq_ok, pure, Except.pure, Except.ok.injEq]
  grind

/-- An item has a frame if its header fits. -/
lemma frame_eq_ok {tag : Tag} {type : ItemType} {content bytes : Bytes} :
    frame tag type content = .ok bytes ↔
      Header.Fits ⟨tag, type.byte, content.length⟩ ∧
        bytes = Header.bytes ⟨tag, type.byte, content.length⟩ ++ content ++
          (if type = .structured then [] else Bytes.zeros (paddingLength content.length)) := by
  unfold frame
  split
  · next wide =>
    have big : ¬ Header.Fits ⟨tag, type.byte, content.length⟩ := fun fits => by
      have tag := fits.tag
      simp only at tag
      omega
    simp [big]
  · next narrow =>
    split
    · next long =>
      have big : ¬ Header.Fits ⟨tag, type.byte, content.length⟩ := fun fits => by
        have length := fits.length
        simp only at length
        omega
      simp [big]
    · next short =>
      have fits : Header.Fits ⟨tag, type.byte, content.length⟩ :=
        ⟨Nat.lt_succ_of_le (Nat.le_of_not_lt narrow), Nat.lt_succ_of_le (Nat.le_of_not_lt short)⟩
      simp [fits, Header.bytes, eq_comm]

/-- A single value is written as its layout. -/
lemma scalar_eq_ok {type : ScalarType} {tag : Tag} {value : type.Content} {bytes : Bytes} :
    scalar type tag value = .ok bytes ↔
      (Layout.scalar tag type (type.encode value)).Fits ∧
        bytes = (Layout.scalar tag type (type.encode value)).bytes := by
  have padded : ItemType.scalar type ≠ .structured := by simp
  rw [scalar, frame_eq_ok, Layout.fits_scalar, if_neg padded]
  rfl

/-- A structure is written as a header and its items, if these are. -/
lemma structured_eq_ok {tag : Tag} {items : List Encoded} {bytes : Bytes} :
    structured tag items = .ok bytes ↔
      ∃ content, concat items = .ok content ∧
        Header.Fits ⟨tag, ItemType.structured.byte, content.length⟩ ∧
        bytes = Header.bytes ⟨tag, ItemType.structured.byte, content.length⟩ ++ content := by
  simp only [structured, bind_eq_ok, frame_eq_ok, if_true, List.append_nil]

end Encoded

/-- An item is written under the tag that its text names. -/
lemma Item.encode_eq_ok {item : Item} {bytes : Bytes} :
    item.encode = .ok bytes ↔
      ∃ tag, Tag.ofText item.tag = .ok tag ∧ item.value.encode tag = .ok bytes := by
  simp only [encode, Encoded.bind_eq_ok, Encoded.mapError_eq_ok]

namespace Layout

/-- What the bytes that are written for an item are: a layout that fits, of the item as it is read
back, with values no longer than those of the item. -/
structure Writes (layout : Layout) (item : Item) : Prop where
  fits : layout.Fits
  denotes : item.InRange → layout.Denotes item.normal
  within : ∀ limit, item.Within limit → layout.Within limit

/-- Layouts of items that follow each other. -/
lemma exists_of_concat {items : List Item} {content : Bytes}
    (one : ∀ item ∈ items, ∀ bytes, item.encode = .ok bytes →
      ∃ layout : Layout, layout.bytes = bytes ∧ layout.Writes item)
    (written : Encoded.concat (items.map Item.encode) = .ok content) :
    ∃ layouts, bytesOfAll layouts = content ∧ (∀ layout ∈ layouts, layout.Fits) ∧
      ((∀ item ∈ items, item.InRange) → DenotesAll layouts (items.map Item.normal)) ∧
      ∀ limit, (∀ item ∈ items, item.Within limit) → ∀ layout ∈ layouts, layout.Within limit := by
  induction items generalizing content with
  | nil =>
    obtain rfl := Except.ok.inj written
    exact ⟨[], rfl, List.forall_mem_nil _, fun _ => rfl, fun _ _ => List.forall_mem_nil _⟩
  | cons item rest ih =>
    obtain ⟨head, tail, first, others, rfl⟩ := Encoded.concat_cons_eq_ok.1 written
    obtain ⟨one, more⟩ := List.forall_mem_cons.1 one
    obtain ⟨layout, rfl, writes⟩ := one head first
    obtain ⟨layouts, rfl, fits, denotes, within⟩ := ih more others
    refine ⟨layout :: layouts, rfl, List.forall_mem_cons.2 ⟨writes.fits, fits⟩, ?_, ?_⟩
    · intro range
      obtain ⟨range, ranges⟩ := List.forall_mem_cons.1 range
      exact ⟨_, _, rfl, writes.denotes range, denotes ranges⟩
    · intro limit short
      obtain ⟨short, shorts⟩ := List.forall_mem_cons.1 short
      exact List.forall_mem_cons.2 ⟨writes.within limit short, within limit shorts⟩

end Layout

/-- What is written for a value under a tag is a layout. -/
lemma Value.exists_layout_of_encode {value : Value} : ∀ {text : String} {tag : Tag} {bytes : Bytes},
    Tag.ofText text = .ok tag → value.encode tag = .ok bytes →
      ∃ layout : Layout, layout.bytes = bytes ∧ layout.Writes ⟨text, value⟩ := by
  induction value with
  | scalar type content =>
    intro text tag bytes named written
    obtain ⟨fits, rfl⟩ := Encoded.scalar_eq_ok.1 written
    refine ⟨_, rfl, fits, ?_, ?_⟩
    · intro range
      refine ⟨type.normal content, ?_, ScalarType.denotes_encode (Item.inRange_scalar.1 range)⟩
      rw [Item.normal, Tag.canonical, named, Value.normal]
    · intro limit short
      exact Layout.within_scalar.2 (Item.within_scalar.1 short)
  | structured items ih =>
    intro text tag bytes named written
    rw [encode, Item.encodeEach_eq] at written
    obtain ⟨content, items_written, fits, rfl⟩ := Encoded.structured_eq_ok.1 written
    have one : ∀ item ∈ items, ∀ bytes, item.encode = .ok bytes →
        ∃ layout : Layout, layout.bytes = bytes ∧ layout.Writes item := by
      rintro ⟨text, value⟩ mem bytes written
      obtain ⟨tag, named, written⟩ := Item.encode_eq_ok.1 written
      exact ih _ mem named written
    obtain ⟨layouts, rfl, all_fit, denotes, within⟩ := Layout.exists_of_concat one items_written
    refine ⟨.structured tag layouts, rfl, Layout.fits_structured.2 ⟨fits, all_fit⟩, ?_, ?_⟩
    · intro range
      refine ⟨_, ?_, denotes (Item.inRange_structured.1 range)⟩
      rw [Item.normal, Tag.canonical, named, Value.normal, Item.normalEach_eq]
    · intro limit short
      exact Layout.within_structured.2 (within limit (Item.within_structured.1 short))

/-- What is written for an item is a layout. -/
theorem Item.exists_layout_of_encode {item : Item} {bytes : Bytes}
    (written : item.encode = .ok bytes) :
    ∃ layout : Layout, layout.bytes = bytes ∧ layout.Writes item := by
  obtain ⟨text, value⟩ := item
  obtain ⟨tag, named, written⟩ := Item.encode_eq_ok.1 written
  exact Value.exists_layout_of_encode named written

namespace Layout

/-- Items that are each written as their layout are so together. -/
lemma DenotesAll.concat_eq {layouts : List Layout} {items : List Item}
    (one : ∀ layout ∈ layouts, ∀ {item : Item}, layout.Denotes item →
      item.encode = .ok layout.bytes)
    (denoted : DenotesAll layouts items) :
    Encoded.concat (items.map Item.encode) = .ok (bytesOfAll layouts) := by
  induction layouts generalizing items with
  | nil =>
    obtain rfl := denoted
    rfl
  | cons layout rest ih =>
    obtain ⟨item, more, rfl, head, tail⟩ := denoted
    obtain ⟨one, others⟩ := List.forall_mem_cons.1 one
    rw [List.map_cons, Encoded.concat_cons_eq_ok]
    exact ⟨_, _, one head, ih others tail, rfl⟩

/-- An item is written as the layout that denotes it, if that is as short as can be. -/
theorem Denotes.encode_eq {layout : Layout} : ∀ {item : Item}, layout.Fits → layout.IsShortest →
    layout.Denotes item → item.encode = .ok layout.bytes := by
  induction layout with
  | scalar tag type content =>
    rintro _ fits shortest ⟨value, rfl, denoted⟩
    obtain rfl := denoted.encode_eq (isShortest_scalar.1 shortest)
    exact Item.encode_eq_ok.2 ⟨tag, Tag.ofText_text tag, Encoded.scalar_eq_ok.2 ⟨fits, rfl⟩⟩
  | structured tag layouts ih =>
    rintro _ fits shortest ⟨items, rfl, denoted⟩
    obtain ⟨fit, all_fit⟩ := fits_structured.1 fits
    have shortest := isShortest_structured.1 shortest
    have written := denoted.concat_eq fun layout mem item head =>
      ih layout mem (all_fit layout mem) (shortest layout mem) head
    refine Item.encode_eq_ok.2 ⟨tag, Tag.ofText_text tag, ?_⟩
    rw [Value.encode, Item.encodeEach_eq, Encoded.structured_eq_ok]
    exact ⟨_, written, fit, rfl⟩

end Layout

/-- The length of what is written for items, if it is right for each of them. -/
lemma Item.length_of_concat {items : List Item} {content : Bytes}
    (one : ∀ item ∈ items, ∀ {tag : Tag} {bytes : Bytes}, item.value.encode tag = .ok bytes →
      bytes.length = 8 + item.value.contentLength + paddingLength item.value.contentLength)
    (written : Encoded.concat (items.map Item.encode) = .ok content) :
    content.length = Item.lengthOfAll items := by
  induction items generalizing content with
  | nil =>
    obtain rfl := Except.ok.inj written
    rfl
  | cons item rest ih =>
    obtain ⟨head, tail, first, others, rfl⟩ := Encoded.concat_cons_eq_ok.1 written
    obtain ⟨one, more⟩ := List.forall_mem_cons.1 one
    obtain ⟨tag, -, first⟩ := Item.encode_eq_ok.1 first
    rw [List.length_append, one first, ih more others, Item.lengthOfAll_cons]

/-- The length of what is written for a value. -/
lemma Value.length_of_encode {value : Value} : ∀ {tag : Tag} {bytes : Bytes},
    value.encode tag = .ok bytes →
      bytes.length = 8 + value.contentLength + paddingLength value.contentLength := by
  induction value with
  | scalar type content =>
    intro tag bytes written
    obtain ⟨-, rfl⟩ := Encoded.scalar_eq_ok.1 written
    simp only [Layout.length_bytes, Layout.body, List.length_append, Bytes.length_zeros,
      contentLength]
    omega
  | structured items ih =>
    intro tag bytes written
    rw [encode, Item.encodeEach_eq] at written
    obtain ⟨content, together, -, rfl⟩ := Encoded.structured_eq_ok.1 written
    have length := Item.length_of_concat ih together
    have whole : paddingLength (Item.lengthOfAll items) = 0 := by
      have groups := Item.lengthOfAll_mod items
      unfold paddingLength
      omega
    rw [List.length_append, Header.length_bytes, contentLength, whole, length, Nat.add_zero]

/-- Items are written together exactly if each of them is. -/
lemma Encoded.exists_concat_iff {items : List Encoded} :
    (∃ content, concat items = .ok content) ↔ ∀ item ∈ items, ∃ bytes, item = .ok bytes := by
  induction items with
  | nil => simp [concat]
  | cons first rest ih =>
    rw [List.forall_mem_cons, ← ih]
    simp only [concat_cons_eq_ok]
    grind

/-- A value is written under a tag exactly if the tag, the length, and all items in it fit. -/
lemma Value.exists_encode_iff (value : Value) : ∀ {text : String} {tag : Tag},
    Tag.ofText text = .ok tag →
      ((∃ bytes, value.encode tag = .ok bytes) ↔ Item.Encodable ⟨text, value⟩) := by
  induction value with
  | scalar type content =>
    intro text tag named
    rw [Item.Encodable, Item.forall_mem_all_scalar]
    simp only [named, encode, Encoded.scalar_eq_ok, exists_and_left, exists_eq, and_true,
      Layout.fits_scalar, Except.ok.injEq, exists_eq_left', contentLength]
    exact ⟨fun fits => ⟨fits.tag, fits.length⟩, fun fits => ⟨fits.1, fits.2⟩⟩
  | structured items ih =>
    intro text tag named
    -- the length of the structure is known from its items, so each item is looked at on its own
    have each : (∀ item ∈ items, ∃ bytes, item.encode = .ok bytes) ↔
        ∀ item ∈ items, item.Encodable := by
      refine forall₂_congr fun item mem => ?_
      obtain ⟨text, value⟩ := item
      cases named : Tag.ofText text with
      | ok tag => simpa [Item.encode_eq_ok, named] using ih _ mem named
      | error fault => simp [Item.encode_eq_ok, Item.Encodable, Item.all, named]
    rw [Item.Encodable, Item.forall_mem_all_structured]
    simp only [named, Except.ok.injEq, exists_eq_left', contentLength]
    constructor
    · rintro ⟨bytes, written⟩
      rw [encode, Item.encodeEach_eq] at written
      obtain ⟨content, written, fits, -⟩ := Encoded.structured_eq_ok.1 written
      have length := Item.length_of_concat (fun item _ _ _ => Value.length_of_encode) written
      have one := Encoded.exists_concat_iff.1 ⟨content, written⟩
      rw [List.forall_mem_map] at one
      exact ⟨⟨fits.tag, length ▸ fits.length⟩, each.1 one⟩
    · rintro ⟨⟨wide, long⟩, one⟩
      obtain ⟨content, written⟩ :=
        Encoded.exists_concat_iff.2 (List.forall_mem_map.2 (each.2 one))
      have length := Item.length_of_concat (fun item _ _ _ => Value.length_of_encode) written
      refine ⟨_, Encoded.structured_eq_ok.2 ⟨content, ?_, ⟨wide, length ▸ long⟩, rfl⟩⟩
      rwa [Item.encodeEach_eq]

/-- An item is written exactly if every tag text in it names a tag of three bytes, and every length
fits four bytes. -/
theorem Item.exists_encode_iff {item : Item} :
    (∃ bytes, item.encode = .ok bytes) ↔ item.Encodable := by
  obtain ⟨text, value⟩ := item
  cases named : Tag.ofText text with
  | ok tag => simpa [encode_eq_ok, named] using Value.exists_encode_iff value named
  | error fault => simp [encode_eq_ok, Encodable, all, named]

end Kmip
