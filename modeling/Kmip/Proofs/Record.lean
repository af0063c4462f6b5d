import Kmip.Proofs.Reading

/-!
# Which bytes are read as a record

Without unknown tags, bytes are read as a record exactly if they are a layout of its item
(`Record.decode_eq_ok`). With what is known of items, a record that is written is read back in its
normal form (`Record.decode_of_encode`), bytes that are read as a record, without superfluous groups
in big integers, are what is written for it (`Record.encode_of_decode_strict`), and all of them are
read as an item too, which is written as the record is (`Record.decode_item_of_decode`).
-/

namespace Kmip

open Read Layout

namespace Bytes

/-- Every big integer among the items that the bytes hold is as short as its value allows. -/
def HoldsShortest (bytes : Bytes) : Prop :=
  ∀ layout : Layout, layout.Fits → layout.bytes = bytes → layout.IsShortest

/-- The items that bytes hold are those of the one layout that spells them. -/
lemma holdsShortest_bytes_iff {layout : Layout} (fits : layout.Fits) :
    HoldsShortest layout.bytes ↔ layout.IsShortest := by
  constructor
  · intro shortest
    exact shortest layout fits rfl
  · intro shortest other fit same
    rwa [eq_of_bytes_eq fit fits same]

end Bytes

namespace Record

variable {record : Record} {config : Config} {bytes : Bytes} {value : record.Val}

/-- A record is written like its item, if its value can be written at all. -/
lemma encode_eq_ok :
    record.encode value = .ok bytes ↔
      record.shape.Valid value ∧ (record.item value).encode = .ok bytes := by
  rw [encode, item, Item.encode_text]
  exact record.shape.encode_eq_ok record.tag value bytes

/-- What is read back of a record is the normal form of its item. -/
lemma item_normal : record.item (record.normal value) = (record.item value).normal := by
  rw [item, item, Item.normal, Tag.canonical_text, ← record.shape.tree_normal value]
  rfl

/-- The round trip of records: what is written for a record is read back as the record in its normal
form, if its date-times can be read, its values are short, and its structures do not nest deeply. -/
theorem decode_of_encode (mem : record ∈ Records.all) (written : record.encode value = .ok bytes)
    (range : (record.item value).InRange) (within : (record.item value).Within (16 * 1024 * 1024))
    (depth : (record.item value).value.nesting ≤ 64) :
    record.decode .strict bytes = .ok (record.normal value) := by
  obtain ⟨valid, written⟩ := encode_eq_ok.1 written
  obtain ⟨layout, spelled, writes⟩ := Item.exists_layout_of_encode written
  -- the bytes are a layout of the normal form, which nests as the item does
  have denoted := writes.denotes range
  have nesting := denoted.nesting_eq
  rw [Item.normal, Value.nesting_normal] at nesting
  refine (decode_eq_ok mem rfl).2 ⟨layout, spelled, writes.fits, writes.within _ within,
    nesting ▸ depth, ?_, (record.shape.valid_normal value).2 valid⟩
  rwa [item_normal]

/-- A number for a tag is read back as the name of the tag, and an instant as its whole second. -/
theorem decode_of_encode_keyInformation :
    Records.keyInformation.decode .strict
        [0x42, 0, 0x36, 1, 0, 0, 0, 0x28, 0x42, 0, 0x94, 7, 0, 0, 0, 1, 0x6B, 0, 0, 0, 0, 0, 0, 0,
          0x42, 0, 0x2B, 1, 0, 0, 0, 0x10, 0x42, 0, 0x0F, 9, 0, 0, 0, 8,
          0xFF, 0xFF, 0xFF, 0xFF, 0xFF, 0xFF, 0xFF, 0xFF] =
      .ok ("k", some (.structured [⟨"BatchItem", .scalar .dateTime (.ofSeconds (-1))⟩]), ()) := by
  let sent : Records.keyInformation.Val :=
    ("k", some (.structured [⟨"0x42000f", .scalar .dateTime ⟨-1, 500000000, 3600⟩⟩]), ())
  have mem : Records.keyInformation ∈ Records.all :=
    List.mem_of_getElem? (by rfl : Records.all[9]? = _)
  have item : Records.keyInformation.item sent =
      ⟨Tag.encryptionKeyInformation.text, .structured
        [⟨Tag.uniqueIdentifier.text, .scalar .textString "k"⟩,
          ⟨Tag.cryptographicParameters.text, .structured
            [⟨"0x42000f", .scalar .dateTime ⟨-1, 500000000, 3600⟩⟩]⟩]⟩ := rfl
  have range : (Records.keyInformation.item sent).InRange := by
    simp [item, ScalarType.InRange, DateTime.earliest, DateTime.latest]
  have text : Utf8.encode "k" = [0x6B] := by decide +kernel
  have within : (Records.keyInformation.item sent).Within (16 * 1024 * 1024) := by
    simp [item, ScalarType.encode, text]
  have tag : Tag.canonical "0x42000f" = "BatchItem" := by decide +kernel
  have normal : Records.keyInformation.normal sent =
      ("k", some (.structured [⟨Tag.canonical "0x42000f", .scalar .dateTime (.ofSeconds (-1))⟩]),
        ()) := rfl
  rw [tag] at normal
  refine Eq.trans (@decode_of_encode _ _ sent mem ?_ range within (by decide)) (congrArg _ normal)
  decide +kernel

/-- The encoding of records is canonical: bytes that are read as a record, without unknown tags and
without superfluous groups in big integers, are what is written for it, and no others of the kind
are read as the same record. -/
theorem encode_of_decode_strict (mem : record ∈ Records.all) (reject : config.unknownTags = .reject)
    (read : record.decode config bytes = .ok value) (shortest : bytes.HoldsShortest) :
    record.encode value = .ok bytes ∧
      ∀ (config' : Config) (other : Bytes), config'.unknownTags = .reject → other.HoldsShortest →
        record.decode config' other = .ok value → other = bytes := by
  have written : ∀ {config : Config} {bytes : Bytes}, config.unknownTags = .reject →
      bytes.HoldsShortest → record.decode config bytes = .ok value →
        record.encode value = .ok bytes := by
    intro config bytes reject shortest read
    obtain ⟨layout, rfl, fits, -, -, denoted, valid⟩ := (decode_eq_ok mem reject).1 read
    exact encode_eq_ok.2 ⟨valid, denoted.encode_eq fits (shortest layout fits rfl)⟩
  -- two encodings of one record are both what is written for it
  refine ⟨written reject shortest read, fun config' other reject' shortest' read' => ?_⟩
  exact Except.ok.inj ((written reject' shortest' read').symm.trans (written reject shortest read))

/-- A key with a number of eight bytes as its parameters is read from one encoding only. -/
theorem encode_of_decode_keyInformation :
    let bytes : Bytes :=
      [0x42, 0, 0x36, 1, 0, 0, 0, 0x20, 0x42, 0, 0x94, 7, 0, 0, 0, 1, 0x6B, 0, 0, 0, 0, 0, 0, 0,
        0x42, 0, 0x2B, 4, 0, 0, 0, 8, 0, 0, 0, 0, 0, 0, 0, 0x80]
    let value : Records.keyInformation.Val := ("k", some (.scalar .bigInteger 128), ())
    Records.keyInformation.decode .strict bytes = .ok value ∧
      Records.keyInformation.encode value = .ok bytes ∧
      ∀ (config : Config) (other : Bytes), config.unknownTags = .reject → other.HoldsShortest →
        Records.keyInformation.decode config other = .ok value → other = bytes := by
  intro bytes value
  let layout : Layout := .structured .encryptionKeyInformation
    [.scalar .uniqueIdentifier .textString [0x6B],
      .scalar .cryptographicParameters .bigInteger [0, 0, 0, 0, 0, 0, 0, 0x80]]
  have mem : Records.keyInformation ∈ Records.all :=
    List.mem_of_getElem? (by rfl : Records.all[9]? = _)
  have spelled : layout.bytes = bytes := by decide +kernel
  have fits : layout.Fits := by
    simp only [layout, fits_structured, fits_scalar, List.forall_mem_cons]
    refine ⟨⟨?_, ?_⟩, ⟨?_, ?_⟩, ⟨?_, ?_⟩, List.forall_mem_nil _⟩ <;> decide
  have denoted : layout.Denotes (Records.keyInformation.item value) := by
    have text : ([0x6B] : Bytes) = Utf8.encode "k" := by decide +kernel
    refine ⟨_, rfl, _, _, rfl, ⟨_, rfl, text⟩, _, _, rfl, ⟨_, rfl, rfl, ?_, ?_, ?_⟩, rfl⟩ <;> decide
  have shortest : bytes.HoldsShortest := by
    rw [← spelled, Bytes.holdsShortest_bytes_iff fits]
    simp only [layout, isShortest_structured, isShortest_scalar, List.forall_mem_cons]
    refine ⟨trivial, fun number _ => ⟨List.cons_ne_nil _ _, fun other some whole _ => ?_⟩,
      List.forall_mem_nil _⟩
    have positive := List.length_pos_iff.2 some
    simp only [List.length_cons, List.length_nil]
    omega
  have read : Records.keyInformation.decode .strict bytes = .ok value := by
    refine (decode_eq_ok mem rfl).2 ⟨layout, spelled, fits, ?_, by decide, denoted, ?_⟩
    · simp [layout, Config.strict]
    · simp [Shape.Valid, Fields.Valid, Leaf.Valid]
  exact ⟨read, encode_of_decode_strict mem rfl read shortest⟩

/-- A record that can be written is written as its item is, or fails to be with the same fault. -/
lemma encode_of_valid (valid : record.shape.Valid value) :
    record.encode value = (record.item value).encode := by
  rw [encode, item, Item.encode_text]
  exact record.shape.encode_of_valid record.tag valid

/-- Reading records and reading items agree: what is read as a record, without unknown tags, is read
as an item under the tag of the record, and both are written in the same way. -/
theorem decode_item_of_decode (mem : record ∈ Records.all) (reject : config.unknownTags = .reject)
    (read : record.decode config bytes = .ok value) :
    ∃ item, Item.decode config bytes = .ok item ∧ item.tag = record.tag.text ∧
      record.encode value = item.encode := by
  obtain ⟨layout, spelled, fits, within, depth, denoted, valid⟩ := (decode_eq_ok mem reject).1 read
  exact ⟨record.item value, Item.decode_eq_ok.2 ⟨layout, spelled, fits, within, depth, denoted⟩, rfl,
    encode_of_valid valid⟩

/-- A key with a number of more bytes than it needs is read as an item too. -/
theorem decode_item_keyInformation :
    let bytes : Bytes :=
      [0x42, 0, 0x36, 1, 0, 0, 0, 0x28, 0x42, 0, 0x94, 7, 0, 0, 0, 1, 0x6B, 0, 0, 0, 0, 0, 0, 0,
        0x42, 0, 0x2B, 4, 0, 0, 0, 16, 0, 0, 0, 0, 0, 0, 0, 0, 0, 0, 0, 0, 0, 0, 0, 0x80]
    let value : Records.keyInformation.Val := ("k", some (.scalar .bigInteger 128), ())
    Records.keyInformation.decode .strict bytes = .ok value ∧
      ∃ item, Item.decode .strict bytes = .ok item ∧
        item.tag = Tag.encryptionKeyInformation.text ∧
        Records.keyInformation.encode value = item.encode := by
  intro bytes value
  let layout : Layout := .structured .encryptionKeyInformation
    [.scalar .uniqueIdentifier .textString [0x6B],
      .scalar .cryptographicParameters .bigInteger
        [0, 0, 0, 0, 0, 0, 0, 0, 0, 0, 0, 0, 0, 0, 0, 0x80]]
  have mem : Records.keyInformation ∈ Records.all :=
    List.mem_of_getElem? (by rfl : Records.all[9]? = _)
  have spelled : layout.bytes = bytes := by decide +kernel
  have fits : layout.Fits := by
    simp only [layout, fits_structured, fits_scalar, List.forall_mem_cons]
    refine ⟨⟨?_, ?_⟩, ⟨?_, ?_⟩, ⟨?_, ?_⟩, List.forall_mem_nil _⟩ <;> decide
  have denoted : layout.Denotes (Records.keyInformation.item value) := by
    have text : ([0x6B] : Bytes) = Utf8.encode "k" := by decide +kernel
    refine ⟨_, rfl, _, _, rfl, ⟨_, rfl, text⟩, _, _, rfl, ⟨_, rfl, rfl, ?_, ?_, ?_⟩, rfl⟩ <;> decide
  have read : Records.keyInformation.decode .strict bytes = .ok value := by
    refine (decode_eq_ok mem rfl).2 ⟨layout, spelled, fits, ?_, by decide, denoted, ?_⟩
    · simp [layout, Config.strict]
    · simp [Shape.Valid, Fields.Valid, Leaf.Valid]
  exact ⟨read, decode_item_of_decode mem rfl read⟩

end Record

end Kmip
