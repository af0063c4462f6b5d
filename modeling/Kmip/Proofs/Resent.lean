import Kmip.Proofs.Record

/-!
# Records that are sent on

Whatever is read as a record can be written again, and is then read as the same record
(`Record.resend_of_decode`), even where foreign items were passed over. What is written are the bytes
of `Layout.shortened`: the layout that was read, without foreign items, and with every big integer as
short as can be. It takes at most twice as many bytes, because a big integer without any bytes gets
eight of them.
-/

namespace Kmip

namespace ScalarType

/-- The shortest bytes that denote what a content does. -/
def shortened : ScalarType → Bytes → Bytes
  | bigInteger, content => BigInteger.encode (BigInteger.decode content)
  | _, content => content

variable {type : ScalarType} {content : Bytes} {value : type.Content}

lemma Denotes.shortened (denoted : type.Denotes content value) :
    type.Denotes (type.shortened content) value := by
  cases type with
  | bigInteger =>
    obtain rfl := BigInteger.decode_eq_iff.2 denoted.2
    exact ⟨BigInteger.length_encode_mod _, BigInteger.twosComplement_encode _⟩
  | _ => exact denoted

lemma isShortest_shortened (type : ScalarType) (content : Bytes) :
    type.IsShortest (type.shortened content) := by
  cases type with
  | bigInteger =>
    intro value denoted
    obtain rfl := denoted.unique (BigInteger.twosComplement_encode _)
    exact BigInteger.isShortest_encode _
  | _ => trivial

/-- Only a content without any bytes gets longer. -/
lemma Denotes.length_shortened_le (denoted : type.Denotes content value) :
    (type.shortened content).length ≤ max 8 content.length := by
  cases type with
  | bigInteger =>
    cases content with
    | nil => decide
    | cons first rest =>
      obtain rfl := BigInteger.decode_eq_iff.2 denoted.2
      exact (BigInteger.length_encode_le (List.cons_ne_nil _ _) denoted.1 denoted.2).trans
        (le_max_right _ _)
  | _ => exact le_max_right _ _

end ScalarType

namespace Layout

mutual

/-- The layout with every big integer as short as can be. -/
def shortened : Layout → Layout
  | scalar tag type content => scalar tag type (type.shortened content)
  | structured tag items => structured tag (shortenedAll items)

/-- The layouts of items with every big integer as short as can be. -/
def shortenedAll : List Layout → List Layout
  | [] => []
  | first :: rest => first.shortened :: shortenedAll rest

end

lemma shortenedAll_eq (items : List Layout) : shortenedAll items = items.map shortened := by
  induction items with
  | nil => rfl
  | cons first rest ih => rw [shortenedAll, ih, List.map_cons]

lemma isShortest_shortened (layout : Layout) : layout.shortened.IsShortest := by
  induction layout with
  | scalar tag type content => exact isShortest_scalar.2 (type.isShortest_shortened content)
  | structured tag items ih =>
    rw [shortened, isShortest_structured, shortenedAll_eq, List.forall_mem_map]
    exact ih

@[simp] lemma nesting_shortened (layout : Layout) : layout.shortened.nesting = layout.nesting := by
  induction layout with
  | scalar tag type content => rfl
  | structured tag items ih =>
    rw [shortened, shortenedAll_eq, nesting, nesting]
    congr 1
    induction items with
    | nil => rfl
    | cons first rest more =>
      obtain ⟨head, tail⟩ := List.forall_mem_cons.1 ih
      rw [List.map_cons, nestingOfAll, nestingOfAll, head, more tail]

/-- What is known of a layout that denotes an item: the shortened one denotes it too, takes at most
twice as many bytes, and keeps to limits of eight bytes or more. -/
structure Shortens (layout : Layout) (item : Item) : Prop where
  denotes : layout.shortened.Denotes item
  length : layout.shortened.bytes.length ≤ 2 * layout.bytes.length
  within : ∀ limit, 8 ≤ limit → layout.Within limit → layout.shortened.Within limit

/-- The same for the items of a structure. -/
lemma DenotesAll.shortened {layouts : List Layout} {items : List Item}
    (one : ∀ layout ∈ layouts, ∀ {item : Item}, layout.Denotes item → layout.Shortens item)
    (denoted : DenotesAll layouts items) :
    DenotesAll (layouts.map shortened) items ∧
      (bytesOfAll (layouts.map shortened)).length ≤ 2 * (bytesOfAll layouts).length ∧
      ∀ limit, 8 ≤ limit → (∀ layout ∈ layouts, layout.Within limit) →
        ∀ layout ∈ layouts, layout.shortened.Within limit := by
  induction layouts generalizing items with
  | nil => exact ⟨denoted, le_rfl, fun _ _ _ => List.forall_mem_nil _⟩
  | cons first rest ih =>
    obtain ⟨item, more, rfl, head, tail⟩ := denoted
    obtain ⟨one, others⟩ := List.forall_mem_cons.1 one
    obtain ⟨denotes, length, within⟩ := one head
    obtain ⟨denote, lengths, withins⟩ := ih others tail
    refine ⟨⟨item, more, rfl, denotes, denote⟩, ?_, fun limit wide short => ?_⟩
    · rw [List.map_cons, bytesOfAll, bytesOfAll, List.length_append, List.length_append]
      omega
    · obtain ⟨here, there⟩ := List.forall_mem_cons.1 short
      exact List.forall_mem_cons.2 ⟨within limit wide here, withins limit wide there⟩

/-- A layout that denotes an item is shortened to one that does so too. -/
lemma Denotes.shortens {layout : Layout} : ∀ {item : Item}, layout.Denotes item →
    layout.Shortens item := by
  induction layout with
  | scalar tag type content =>
    rintro _ ⟨value, rfl, denoted⟩
    have length := denoted.length_shortened_le
    refine ⟨⟨value, rfl, denoted.shortened⟩, ?_, fun limit wide short => ?_⟩
    · -- with their padding, both contents take whole groups
      have padded := add_paddingLength_mod content.length
      have small := paddingLength_lt content.length
      have small' := paddingLength_lt (type.shortened content).length
      have padded' := add_paddingLength_mod (type.shortened content).length
      simp only [Layout.shortened, length_bytes, body, List.length_append, Bytes.length_zeros]
      omega
    · rw [Layout.shortened, within_scalar]
      exact length.trans (max_le wide (within_scalar.1 short))
  | structured tag layouts ih =>
    rintro _ ⟨items, rfl, denoted⟩
    obtain ⟨denotes, length, within⟩ := denoted.shortened ih
    refine ⟨?_, ?_, fun limit wide short => ?_⟩
    · rw [Layout.shortened, shortenedAll_eq]
      exact ⟨items, rfl, denotes⟩
    · simp only [Layout.shortened, shortenedAll_eq, length_bytes, body]
      omega
    · rw [Layout.shortened, within_structured, shortenedAll_eq, List.forall_mem_map]
      exact within limit wide (within_structured.1 short)

/-- An item takes no more bytes than all items with it. -/
lemma length_bytes_le_of_mem {layout : Layout} {items : List Layout} (mem : layout ∈ items) :
    layout.bytes.length ≤ (bytesOfAll items).length := by
  induction items with
  | nil => cases mem
  | cons first rest ih =>
    rw [bytesOfAll, List.length_append]
    cases mem with
    | head => omega
    | tail _ mem =>
      have length := ih mem
      omega

/-- A layout whose tags fit stays so when it is shortened, if its bytes are not too many. -/
lemma Fits.shortened {layout : Layout} (fits : layout.Fits)
    (small : layout.shortened.bytes.length < 2 ^ 32) : layout.shortened.Fits := by
  induction layout with
  | scalar tag type content =>
    simp only [Layout.shortened, length_bytes, body, List.length_append] at small
    refine fits_scalar.2 ⟨fits.header.tag, ?_⟩
    simp only [Layout.header]
    omega
  | structured tag items ih =>
    obtain ⟨header, each⟩ := fits_structured.1 fits
    simp only [Layout.shortened, length_bytes, body] at small
    refine fits_structured.2 ⟨⟨header.tag, ?_⟩, ?_⟩
    · simp only [Layout.header]
      omega
    · rw [shortenedAll_eq] at small ⊢
      rw [List.forall_mem_map]
      intro item mem
      have length := length_bytes_le_of_mem (List.mem_map_of_mem (f := Layout.shortened) mem)
      exact ih item mem (each item mem) (by omega)

end Layout

namespace Record

variable {record : Record} {config : Config} {bytes : Bytes} {value : record.Val}

/-- Whatever is read can be sent on: a record that is read from fewer than 2 ^ 31 bytes has nothing
missing, and every value in it the form that is selected for it; it can be written, and what is
written is read as the same record, within the same limits, and where unknown tags are refused. -/
theorem resend_of_decode (mem : record ∈ Records.all) (wide : 8 ≤ config.maxValueLength)
    (small : bytes.length < 2 ^ 31) (read : record.decode config bytes = .ok value) :
    record.shape.Valid value ∧ ∃ again, record.encode value = .ok again ∧
      record.decode { config with unknownTags := .reject } again = .ok value := by
  obtain ⟨item, rfl, spelled, -⟩ := (decode_eq_ok_of_mixed mem).1 read
  obtain ⟨denoted, valid⟩ := record.shape.denotes_of_spells record.tag spelled.spells
  -- what is sent on is the layout without foreign items, as short as can be
  obtain ⟨denotes, length, within⟩ := denoted.shortens
  have fewer := item.length_bytes_kept_le
  have fits : item.kept.shortened.Fits := spelled.fits.kept.shortened (by omega)
  have depth : item.kept.shortened.nesting ≤ config.maxDepth :=
    item.kept.nesting_shortened ▸ spelled.depth
  refine ⟨valid, item.kept.shortened.bytes, ?_, ?_⟩
  · exact encode_eq_ok.2 ⟨valid, denotes.encode_eq fits item.kept.isShortest_shortened⟩
  · exact (decode_eq_ok mem rfl).2
      ⟨_, rfl, fits, within _ wide spelled.within.1, depth, denotes, valid⟩

/-- A key with a foreign item in it, and with a big integer without any bytes, is sent on without the
former and with eight bytes for the latter. -/
theorem resend_of_decode_foreign :
    let bytes : Bytes :=
      [0x42, 0, 0x36, 1, 0, 0, 0, 0x28, 0x42, 0, 0x94, 7, 0, 0, 0, 1, 0x6B, 0, 0, 0, 0, 0, 0, 0,
        0x54, 0, 1, 6, 0, 0, 0, 8, 9, 9, 9, 9, 9, 9, 9, 9, 0x42, 0, 0x2B, 4, 0, 0, 0, 0]
    let value : Records.keyInformation.Val := ("k", some (.scalar .bigInteger 0), ())
    Records.keyInformation.decode ⟨.skip, 8, 1⟩ bytes = .ok value ∧
      Records.keyInformation.shape.Valid value ∧
        ∃ again, Records.keyInformation.encode value = .ok again ∧
          Records.keyInformation.decode ⟨.reject, 8, 1⟩ again = .ok value := by
  intro bytes value
  have mem : Records.keyInformation ∈ Records.all :=
    List.mem_of_getElem? (by rfl : Records.all[9]? = _)
  let item : Mixed :=
    .record .encryptionKeyInformation [.uniqueIdentifier, .cryptographicParameters]
      [.own (.plain (.scalar .uniqueIdentifier .textString [0x6B])),
        .foreign ⟨⟨0x540001⟩, 6, 8⟩ [9, 9, 9, 9, 9, 9, 9, 9],
        .own (.plain (.scalar .cryptographicParameters .bigInteger []))]
  have spells : Records.keyInformation.shape.Spells Records.keyInformation.tag value item := by
    have text : ([0x6B] : Bytes) = Utf8.encode "k" := by decide +kernel
    refine ⟨_, rfl, ?_, [_], [_], rfl, .cons ⟨_, rfl, ⟨_, rfl, text⟩, trivial⟩ .nil,
      [_], [], rfl, .cons ⟨_, rfl, ⟨_, rfl, rfl, ?_, ?_, ?_⟩, trivial⟩ .nil, rfl⟩
    · simp only [Part.foreignTo_own, Part.foreignTo_foreign, Part.foreignTo_nil, and_true]
      decide
    all_goals decide
  have fits : item.Fits := by
    simp only [item, Mixed.Fits, Part.FitAll, Layout.fits_scalar]
    refine ⟨⟨?_, ?_⟩, ⟨?_, ?_⟩, ⟨⟨?_, ?_⟩, ?_⟩, ⟨?_, ?_⟩, trivial⟩ <;> decide
  have within : item.Within 8 := by
    constructor
    · simp [item, Mixed.kept, Part.keptOfAll]
    · simp [item, Mixed.foreigns, Part.foreignsOfAll]
  have read : Records.keyInformation.decode ⟨.skip, 8, 1⟩ bytes = .ok value :=
    (decode_eq_ok_of_mixed mem).2 ⟨item, by decide +kernel, ⟨spells, fits, within, by decide⟩,
      fun reject => absurd reject (by decide)⟩
  exact ⟨read, resend_of_decode mem (by decide) (by decide) read⟩

end Record

end Kmip
