import Kmip.Proofs.Decoding
import Kmip.Proofs.Taking
import Kmip.Records

/-!
# Where an item ends

An item can be read as a tree, as a value of a type, as a record, or be passed over. Passing over it
goes by its header alone, and the others by what they find in it; they leave the reader at the same
place (`Reader.skip_of_read`). What is read inside of a structure only moves the reader further
(`Reader.Further`), and the structure is left where its header says.
-/

namespace Kmip

namespace Header

@[simp] lemma span_scalar (tag : Tag) (type : ScalarType) (length : Nat) :
    span ⟨tag, (ItemType.scalar type).byte, length⟩ = length + paddingLength length := by
  cases type <;> rfl

@[simp] lemma span_structured (tag : Tag) (length : Nat) :
    span ⟨tag, ItemType.structured.byte, length⟩ = length := rfl

end Header

namespace Reader

variable {reader middle final : Reader}

/-- The reader has gone on by bytes that were there. Another header may have been looked at. -/
def Further (reader final : Reader) : Prop :=
  ∃ count ≤ reader.source.unread.length, ∃ pending, final = { reader.advance count with pending }

lemma Further.refl (reader : Reader) : reader.Further reader :=
  ⟨0, Nat.zero_le _, reader.pending, by rw [advance_zero]⟩

lemma Further.trans (first : reader.Further middle) (second : middle.Further final) :
    reader.Further final := by
  obtain ⟨one, enough, _, rfl⟩ := first
  obtain ⟨two, more, pending, rfl⟩ := second
  have more : two ≤ (reader.source.unread.drop one).length := (unread_advance one) ▸ more
  rw [List.length_drop] at more
  refine ⟨one + two, by omega, pending, ?_⟩
  rw [← advance_advance]
  rfl

lemma Further.opened_eq (further : reader.Further final) : final.opened = reader.opened := by
  obtain ⟨_, _, _, rfl⟩ := further
  rfl

/-- Bytes that are there can be taken. -/
lemma further_advance {count : Nat} (enough : count ≤ reader.source.unread.length) :
    reader.Further (reader.advance count) :=
  ⟨count, enough, reader.pending, rfl⟩

/-- The header that has been looked at can be taken. -/
lemma further_pending (pending : Option Header) : reader.Further { reader with pending } :=
  ⟨0, Nat.zero_le _, pending, by rw [advance_zero]⟩

end Reader

namespace Read

open Reader

variable {α β : Type} {reader final : Reader}

/-- A look at a header goes on by its bytes, or by none. -/
lemma further_header? {found : Option Header} (inside : found.isSome ∨ reader.opened ≠ [])
    (looked : header? reader = .ok found final) : reader.Further final := by
  obtain rfl | ⟨header, -, shows, -, rfl⟩ | ⟨rfl, -, top, -⟩ := header?_eq_ok looked
  · exact .refl _
  · have enough := shows.unread.length_le
    rw [Header.length_bytes] at enough
    exact (further_advance enough).trans (further_pending _)
  · exact absurd top (inside.resolve_left Bool.false_ne_true)

/-- A header that is taken is pending no longer. -/
lemma further_header {header : Header} (took : Read.header reader = .ok header final) :
    reader.Further final ∧ final.pending = none := by
  obtain ⟨found, seen, looked, rest⟩ := bind_eq_ok.1 took
  cases found with
  | none => exact (throw_eq_ok.1 rest).elim
  | some other =>
    obtain ⟨_, dropped, drop, kept⟩ := bind_eq_ok.1 rest
    obtain ⟨-, rfl⟩ := EStateM.Result.ok.inj drop
    obtain ⟨-, rfl⟩ := pure_eq_ok.1 kept
    exact ⟨(further_header? (.inl rfl) looked).trans (further_pending none), rfl⟩

/-- The expected header is the next one, if it has this tag and this type. -/
lemma expect_iff_header {tag : Tag} {type : ItemType} {length : Nat} :
    expect tag type reader = .ok length final ↔
      Read.header reader = .ok ⟨tag, type.byte, length⟩ final := by
  simp only [expect, Read.header, bind_eq_ok]
  refine exists_congr fun found => exists_congr fun seen => and_congr_right fun _ => ?_
  cases found with
  | none => simp only [throw_eq_ok]
  | some header =>
    simp only [guard_eq_ok, not_not, bind_eq_ok, pure_eq_ok]
    constructor
    · rintro ⟨rfl, byte, _, _, dropped, rfl, rfl⟩
      exact ⟨_, _, dropped, by rw [← byte], rfl⟩
    · rintro ⟨_, _, dropped, rfl, rfl⟩
      exact ⟨rfl, rfl, _, _, dropped, rfl, rfl⟩

/-- Where the step succeeds inside of a structure, it has only gone further. -/
structure Inside (step : Read α) : Prop where
  further : ∀ {reader final : Reader} {value : α}, reader.opened ≠ [] →
    step reader = .ok value final → reader.Further final

/-- Where the step succeeds, it has taken one item whole. -/
structure Spans (step : Read α) : Prop where
  skip : ∀ {reader final : Reader} {value : α}, step reader = .ok value final →
    Read.skip reader = .ok () final

/-- To pass over an item is to go further. -/
lemma further_skip {result : Unit} (read : skip reader = .ok result final) :
    reader.Further final := by
  obtain ⟨header, taken, took, passed⟩ := bind_eq_ok.1 read
  obtain ⟨enough, rfl⟩ := pass_eq_ok.1 passed
  exact (further_header took).1.trans (further_advance enough)

lemma Spans.inside {step : Read α} (spans : Spans step) : Inside step where
  further _ read := further_skip (spans.skip read)

/-- What has been read of an item can be turned into something else. -/
lemma Spans.bind_lift {step : Read α} (spans : Spans step) (next : α → Except Fault β) :
    Spans (step >>= fun value => lift (next value)) where
  skip read := by
    obtain ⟨value, _, first, lifted⟩ := bind_eq_ok.1 read
    obtain ⟨-, rfl⟩ := lift_eq_ok.1 lifted
    exact spans.skip first

lemma inside_pure (value : α) : Inside (pure value) where
  further _ read := by
    obtain ⟨-, rfl⟩ := pure_eq_ok.1 read
    exact .refl _

lemma inside_throw (fault : Fault) : Inside (throw fault : Read α) where
  further _ read := (throw_eq_ok.1 read).elim

lemma inside_get : Inside (get : Read Reader) where
  further _ read := by
    obtain ⟨-, rfl⟩ := EStateM.Result.ok.inj read
    exact .refl _

lemma Inside.bind {step : Read α} {next : α → Read β} (inside : Inside step)
    (behind : ∀ value, Inside (next value)) : Inside (step >>= next) where
  further inner read := by
    obtain ⟨value, middle, first, rest⟩ := bind_eq_ok.1 read
    have further := inside.further inner first
    exact further.trans ((behind value).further (further.opened_eq ▸ inner) rest)

lemma inside_headersLeft : Inside headersLeft :=
  inside_get.bind fun _ => inside_pure _

lemma inside_header? : Inside header? where
  further inner looked := further_header? (.inr inner) looked

lemma inside_tag? : Inside tag? :=
  inside_header?.bind fun _ => inside_pure _

lemma inside_skip : Inside skip where
  further _ read := further_skip read

/-- A structure that is left where it ends has taken its length. -/
lemma leave_of_further {tag : Tag} {length : Nat} {inner : Reader} {result : Unit}
    (pending : reader.pending = none) (further : (reader.entering tag length).Further inner)
    (left : structureEnd inner = .ok result final) : pass length reader = .ok () final := by
  obtain ⟨count, enough, _, rfl⟩ := further
  obtain ⟨_, _, opened, rfl, stop, rfl⟩ := structureEnd_eq_ok.1 left
  obtain ⟨rfl, rfl⟩ := List.cons.inj opened
  obtain rfl : count = length := Nat.add_left_cancel stop
  exact pass_eq_ok.2 ⟨enough, by simp [advance, entering, pending]⟩

/-- A value is read behind the header of its type: a single one from its content, and a structure by
entering it, reading its items and leaving it. -/
lemma value_eq_ok {children : Read (List Item)} {header : Header} {result : Value} :
    value children header reader = .ok result final ↔
      (∃ type value, header.type = (ItemType.scalar type).byte ∧
        content type header.tag header.length reader = .ok value final ∧
          result = .scalar type value) ∨
      ∃ entered inner items, header.type = ItemType.structured.byte ∧
        enter header.tag header.length reader = .ok () entered ∧
          children entered = .ok items inner ∧ structureEnd inner = .ok () final ∧
            result = .structured items := by
  obtain ⟨tag, byte, length⟩ := header
  constructor
  · intro read
    cases found : ItemType.ofByte? byte with
    | none =>
      simp only [value, found] at read
      exact (throw_eq_ok.1 read).elim
    | some type =>
      obtain rfl := ItemType.byte_of_ofByte? found
      cases type with
      | scalar type =>
        simp only [value_scalar, bind_eq_ok, pure_eq_ok] at read
        obtain ⟨value, _, read, rfl, rfl⟩ := read
        exact .inl ⟨type, value, rfl, read, rfl⟩
      | structured =>
        simp only [value_structured, bind_eq_ok, pure_eq_ok] at read
        obtain ⟨_, entered, began, items, inner, read, _, _, left, rfl, rfl⟩ := read
        exact .inr ⟨entered, inner, items, rfl, began, read, left, rfl⟩
  · rintro (⟨type, value, rfl, read, rfl⟩ | ⟨entered, inner, items, rfl, began, read, left, rfl⟩)
    · rw [value_scalar]
      exact bind_eq_ok.2 ⟨value, final, read, pure_eq_ok.2 ⟨rfl, rfl⟩⟩
    · rw [value_structured, bind_of_ok began, bind_of_ok read, bind_of_ok left]
      rfl

/-- A value has the length that its header declares, and the padding of its type. -/
lemma pass_of_value {children : Read (List Item)} {header : Header} {result : Value}
    (inside : Inside children) (pending : reader.pending = none)
    (read : value children header reader = .ok result final) :
    pass header.span reader = .ok () final := by
  obtain ⟨tag, byte, length⟩ := header
  obtain ⟨type, value, rfl, read, -⟩ | ⟨entered, inner, items, rfl, began, read, left, -⟩ :=
    value_eq_ok.1 read
  · obtain ⟨content, rfl, unread, -, rfl⟩ := content_eq_ok.1 read
    have enough := unread.length_le
    rw [List.length_append, Bytes.length_zeros] at enough
    rw [Header.span_scalar]
    exact pass_eq_ok.2 ⟨enough, rfl⟩
  · obtain ⟨-, -, rfl⟩ := enter_eq_ok.1 began
    exact leave_of_further pending (inside.further (List.cons_ne_nil _ _) read) left

/-- A header and the value behind it are one item. -/
lemma skip_of_value {children : Read (List Item)} {header : Header} {taken : Reader}
    {result : Value} (inside : Inside children) (took : Read.header reader = .ok header taken)
    (read : value children header taken = .ok result final) : skip reader = .ok () final :=
  bind_eq_ok.2 ⟨header, taken, took, pass_of_value inside (further_header took).2 read⟩

lemma inside_itemsWithin (fuel : Nat) : Inside (itemsWithin fuel) := by
  induction fuel with
  | zero =>
    refine inside_header?.bind fun found => ?_
    split
    · exact inside_pure _
    · exact inside_throw _
  | succ fuel ih =>
    refine inside_header?.bind fun found => ?_
    split
    · -- one item is taken whole, and the others follow it
      refine ⟨fun {reader final _} inner read => ?_⟩
      obtain ⟨header, taken, took, rest⟩ := bind_eq_ok.1 read
      obtain ⟨value, middle, first, others⟩ := bind_eq_ok.1 rest
      have further := further_skip (skip_of_value ih took first)
      have more := ih.bind fun rest => inside_pure (⟨header.tag.text, value⟩ :: rest)
      exact further.trans (more.further (further.opened_eq ▸ inner) others)
    · exact inside_pure _

lemma spans_item : Spans item where
  skip read := by
    obtain ⟨_, _, tagged, kept⟩ := bind_eq_ok.1 read
    obtain ⟨-, rfl⟩ := pure_eq_ok.1 kept
    rw [taggedValue, headersLeft_bind] at tagged
    obtain ⟨header, taken, took, rest⟩ := bind_eq_ok.1 tagged
    obtain ⟨value, _, first, kept⟩ := bind_eq_ok.1 rest
    obtain ⟨-, rfl⟩ := pure_eq_ok.1 kept
    exact skip_of_value (inside_itemsWithin _) took first

/-- The value under a tag is the one behind the next header, if that has the tag. -/
lemma valueAs_iff_header {tag : Tag} {result : Value} :
    valueAs tag reader = .ok result final ↔ ∃ header taken, Read.header reader = .ok header taken ∧
      header.tag = tag ∧
        value (itemsWithin (reader.remaining / 8)) header taken = .ok result final := by
  rw [valueAs, headersLeft_bind]
  simp only [bind_eq_ok, guard_eq_ok, not_not]

lemma spans_valueAs (tag : Tag) : Spans (valueAs tag) where
  skip read := by
    obtain ⟨header, taken, took, -, behind⟩ := valueAs_iff_header.1 read
    exact skip_of_value (inside_itemsWithin _) took behind

/-- A single value is read behind the header of its type. -/
lemma value_eq_scalar {children : Read (List Item)} {header : Header} {type : ScalarType}
    {result : type.Content} :
    value children header reader = .ok (.scalar type result) final ↔
      header.type = (ItemType.scalar type).byte ∧
        content type header.tag header.length reader = .ok result final := by
  rw [value_eq_ok]
  constructor
  · rintro (⟨other, value, byte, read, same⟩ | ⟨_, _, _, _, _, _, _, same⟩)
    · cases same
      exact ⟨byte, read⟩
    · cases same
  · rintro ⟨byte, read⟩
    exact .inl ⟨type, result, byte, read, rfl⟩

/-- A value of a type is read under a tag as it is where any type is allowed. -/
lemma sized_iff_valueAs {type : ScalarType} {tag : Tag} {result : type.Content} :
    (∃ size, sized type tag reader = .ok (result, size) final) ↔
      valueAs tag reader = .ok (.scalar type result) final := by
  simp only [sized, bind_eq_ok, expect_iff_header, pure_eq_ok, valueAs_iff_header, value_eq_scalar]
  constructor
  · rintro ⟨_, length, taken, took, value, _, read, same, rfl⟩
    cases same
    exact ⟨_, taken, took, rfl, rfl, read⟩
  · rintro ⟨⟨_, _, length⟩, taken, took, rfl, rfl, read⟩
    exact ⟨_, length, taken, took, result, _, read, rfl, rfl⟩

lemma spans_scalar (type : ScalarType) (tag : Tag) : Spans (scalar type tag) where
  skip read := by
    obtain ⟨⟨value, size⟩, _, first, kept⟩ := bind_eq_ok.1 read
    obtain ⟨-, rfl⟩ := pure_eq_ok.1 kept
    exact (spans_valueAs tag).skip (sized_iff_valueAs.1 ⟨size, first⟩)

lemma inside_skipUnknownWithin (record : String) (known : List Tag) (fuel : Nat) :
    Inside (skipUnknownWithin record known fuel) := by
  induction fuel with
  | zero => exact inside_pure _
  | succ fuel ih =>
    refine inside_tag?.bind fun found => ?_
    split
    · split
      · exact inside_pure _
      · refine inside_get.bind fun reader => ?_
        split
        · exact inside_throw _
        · exact inside_skip.bind fun _ => ih
    · exact inside_pure _

lemma inside_skipUnknown (record : String) (known : List Tag) :
    Inside (skipUnknown record known) :=
  inside_headersLeft.bind fun _ => inside_skipUnknownWithin record known _

lemma inside_noFurtherField (record : String) (known : List Tag) :
    Inside (noFurtherField record known) := by
  refine (inside_skipUnknown record known).bind fun _ => inside_tag?.bind fun found => ?_
  split
  · exact inside_throw _
  · exact inside_pure _

lemma inside_repeatedWithin {item : Read α} {between : Read Unit} (tag : Tag)
    (each : Inside item) (gap : Inside between) (fuel : Nat) :
    Inside (repeatedWithin tag item between fuel) := by
  induction fuel with
  | zero => exact inside_pure _
  | succ fuel ih =>
    refine inside_tag?.bind fun found => ?_
    split
    · exact inside_pure _
    · exact each.bind fun _ => gap.bind fun _ => ih.bind fun _ => inside_pure _

/-- A record takes one item whole if what stands in it only goes further. -/
lemma spans_structured {step : Read α} (tag : Tag) (record : String) (known : List Tag)
    (inside : Inside step) : Spans (do
      structureStart tag
      let value ← step
      noFurtherField record known
      structureEnd
      pure value) where
  skip read := by
    obtain ⟨_, entered, began, read⟩ := bind_eq_ok.1 read
    obtain ⟨value, middle, first, read⟩ := bind_eq_ok.1 read
    obtain ⟨_, inner, second, read⟩ := bind_eq_ok.1 read
    obtain ⟨_, _, left, kept⟩ := bind_eq_ok.1 read
    obtain ⟨-, rfl⟩ := pure_eq_ok.1 kept
    obtain ⟨length, taken, expected, entering⟩ := bind_eq_ok.1 began
    obtain ⟨-, -, rfl⟩ := enter_eq_ok.1 entering
    have took := expect_iff_header.1 expected
    have opened : (taken.entering tag length).opened ≠ [] := List.cons_ne_nil _ _
    have whole := inside.bind fun _ => inside_noFurtherField record known
    have further := whole.further opened (bind_eq_ok.2 ⟨value, middle, first, second⟩)
    exact bind_eq_ok.2 ⟨_, taken, took, leave_of_further (further_header took).2 further left⟩

/-- Every reader of an item takes it whole. -/
lemma closed_spans : Closed (fun _ step => Spans step) (fun _ step => Inside step) where
  scalar := spans_scalar
  valueAs := spans_valueAs
  bind_lift next _ item := item.bind_lift next
  lift_bind found _ _ each := ⟨fun read => by
    obtain ⟨value, _, lifted, rest⟩ := bind_eq_ok.1 read
    obtain ⟨-, rfl⟩ := lift_eq_ok.1 lifted
    exact (each value).skip rest⟩
  structured := spans_structured
  pure := inside_pure
  throw fault _ := inside_throw fault
  bind row rows := row.bind rows
  skipUnknown := inside_skipUnknown
  ifTag tag item absent := inside_tag?.bind fun found => by
    split
    · exact item.inside
    · exact absent
  repeated tag record known item := inside_headersLeft.bind fun _ =>
    inside_repeatedWithin tag item.inside (inside_skipUnknown record known) _

end Read

namespace Reader

/-- From any reader, a header pending or not and in any structures, an item that is read as a tree is
passed over to the same reader. A value of a type is read under a tag exactly where it is read under
that tag without asking for the type. A record, whatever it is and in whatever way foreign items in it
are dealt with, is passed over to where it is read. -/
theorem skip_of_read (reader : Reader) :
    (∀ item final, Read.item reader = .ok item final → Read.skip reader = .ok () final) ∧
    (∀ type tag value final, (∃ size, Read.sized type tag reader = .ok (value, size) final) ↔
      Read.valueAs tag reader = .ok (.scalar type value) final) ∧
    ∀ (shape : Shape) (tag : Tag) (start value : shape.Val) (final : Reader),
      shape.read tag start reader = .ok value final → Read.skip reader = .ok () final :=
  ⟨fun _ _ read => Read.spans_item.skip read, fun _ _ _ _ => Read.sized_iff_valueAs,
    fun shape tag start _ _ read => (Read.closed_spans.shape tag shape start).skip read⟩

/-- A version whose header has been looked at, and in which a foreign item stands, is read as a tree
and as a record. Either way the reader is behind it afterwards, as it is when the version is passed
over. -/
theorem skip_of_read_protocolVersion :
    let reader : Reader :=
      { config := .lenient
        source := .ofBytes [0x42, 0, 0x6A, 2, 0, 0, 0, 4, 0, 0, 0, 1, 0, 0, 0, 0,
          0x54, 0, 1, 1, 0, 0, 0, 0,
          0x42, 0, 0x6B, 2, 0, 0, 0, 4, 0, 0, 0, 4, 0, 0, 0, 0]
        offset := 16
        pending := some ⟨.protocolVersion, 1, 40⟩
        opened := [⟨.requestHeader, 8, 56⟩] }
    let final : Reader := ⟨.lenient, ⟨[], .closed⟩, 56, none, [⟨.requestHeader, 8, 56⟩]⟩
    let shape := Records.protocolVersion.shape
    (∃ item, Read.item reader = .ok item final ∧ Read.skip reader = .ok () final) ∧
      shape.read .protocolVersion shape.blank reader = .ok (1, 4, ()) final ∧
        Read.skip reader = .ok () final := by
  intro reader final shape
  obtain ⟨tree, -, record⟩ := skip_of_read reader
  have version : shape.read .protocolVersion shape.blank reader = .ok (1, 4, ()) final :=
    Read.eq_ok_iff.2 ⟨by decide +kernel, by decide +kernel⟩
  have whole : (Read.item >>= fun _ => pure ()) reader = .ok () final :=
    Read.eq_ok_iff.2 ⟨by decide +kernel, by decide +kernel⟩
  obtain ⟨item, _, read, kept⟩ := Read.bind_eq_ok.1 whole
  obtain ⟨-, rfl⟩ := Read.pure_eq_ok.1 kept
  exact ⟨⟨item, read, tree item _ read⟩, version, record shape _ _ _ _ version⟩

end Reader

end Kmip
