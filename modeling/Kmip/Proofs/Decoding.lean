import Kmip.Proofs.Ahead
import Kmip.Proofs.Encoding

/-!
# Which bytes are read as an item

A reader reads an item exactly where a layout of that item lies ahead (`Read.taggedValue_eq_ok`). So
bytes as a whole are read as an item exactly if they are a layout of it that keeps to the limits
(`Item.decode_eq_ok_iff`), and what is written for an item is read back as its normal form
(`Item.encode_decode`).
-/

namespace Kmip

namespace Read

open Reader Layout

variable {reader final : Reader} {children : Read (List Item)}

/-- Where items are read, layouts of them lie ahead. -/
def ItemsSound (children : Read (List Item)) : Prop :=
  ∀ {reader final : Reader} {items : List Item}, reader.Settled → reader.opened ≠ [] →
    children reader = .ok items final →
      ∃ layouts, reader.AheadAll layouts ∧ DenotesAll layouts items ∧
        final = reader.advance (bytesOfAll layouts).length

/-- Where a structure holds layouts of so many bytes, the items that these denote are read. -/
def ItemsComplete (children : Read (List Item)) (size : Nat) : Prop :=
  ∀ {reader : Reader} {layouts : List Layout} {items : List Item}, reader.Settled →
    reader.Holds layouts → DenotesAll layouts items → (bytesOfAll layouts).length ≤ size →
      children reader = .ok items (reader.advance (bytesOfAll layouts).length)

/-- Behind the header of a single value, its content is read. -/
lemma value_scalar (tag : Tag) (type : ScalarType) (length : Nat) :
    value children ⟨tag, (ItemType.scalar type).byte, length⟩ = (do
      let value ← content type tag length
      pure (.scalar type value)) := by
  simp only [value, ItemType.ofByte?_byte]

/-- Behind the header of a structure, its items are read up to its end. -/
lemma value_structured (tag : Tag) (length : Nat) :
    value children ⟨tag, ItemType.structured.byte, length⟩ = (do
      enter tag length
      let items ← children
      structureEnd
      pure (.structured items)) := by
  simp only [value, ItemType.ofByte?_byte]

/-- A value is read behind a header only where a layout of it lies ahead. -/
lemma value_sound (settled : reader.Settled) {header : Header} (shows : reader.Shows header)
    (sound : ItemsSound children) {result : Value}
    (read : value children header (reader.advance 8) = .ok result final) :
    ∃ layout : Layout, layout.header = header ∧ reader.Ahead layout ∧
      layout.Denotes ⟨header.tag.text, result⟩ ∧
      final = reader.advance layout.bytes.length := by
  obtain ⟨tag, byte, length⟩ := header
  cases found : ItemType.ofByte? byte with
  | none =>
    simp only [value, found] at read
    exact (throw_eq_ok.1 read).elim
  | some type =>
    obtain rfl := ItemType.byte_of_ofByte? found
    cases type with
    | scalar type =>
      simp only [value_scalar, bind_eq_ok, content_eq_ok, pure_eq_ok] at read
      obtain ⟨value, _, ⟨content, rfl, unread, denoted, rfl⟩, rfl, rfl⟩ := read
      refine ⟨.scalar tag type content, rfl, (ahead_scalar_iff settled).2 ⟨shows, unread⟩,
        ⟨value, rfl, denoted⟩, ?_⟩
      simp [length_bytes, body]
    | structured =>
      simp only [value_structured, bind_eq_ok, enter_eq_ok, pure_eq_ok] at read
      obtain ⟨_, _, ⟨shallow, room, rfl⟩, items, _, read, _, _, left, rfl, rfl⟩ := read
      obtain ⟨layouts, inner, denoted, rfl⟩ :=
        sound ((settled.advance 8).entering shallow tag length) (List.cons_ne_nil _ _) read
      -- the reader only leaves at the declared end, so the items fill what the header declares
      obtain ⟨rfl, rfl⟩ := (structureEnd_entering settled).1 left
      have ahead := (ahead_structured_iff settled).2 ⟨shows, shallow, room, inner⟩
      refine ⟨.structured tag layouts, rfl, ahead, ⟨items, rfl, denoted⟩, ?_⟩
      rw [length_bytes, body]

/-- A value is read behind its header where a layout of it lies ahead. -/
lemma value_complete (settled : reader.Settled) {size : Nat}
    (complete : ItemsComplete children size) {layout : Layout} {text : String} {result : Value}
    (ahead : reader.Ahead layout)
    (denoted : layout.Denotes ⟨text, result⟩) (small : layout.body.length ≤ size) :
    value children layout.header (reader.advance 8) =
      .ok result (reader.advance layout.bytes.length) := by
  cases layout with
  | scalar tag type content =>
    obtain ⟨result, same, denoted⟩ := denoted
    obtain ⟨-, rfl⟩ := Item.mk.inj same
    obtain ⟨-, unread⟩ := (ahead_scalar_iff settled).1 ahead
    change value children ⟨tag, (ItemType.scalar type).byte, content.length⟩ _ = _
    simp only [value_scalar, bind_eq_ok, content_eq_ok, pure_eq_ok]
    refine ⟨result, _, ⟨content, rfl, unread, denoted, rfl⟩, rfl, ?_⟩
    simp [length_bytes, body]
  | structured tag layouts =>
    obtain ⟨items, same, denoted⟩ := denoted
    obtain ⟨-, rfl⟩ := Item.mk.inj same
    obtain ⟨-, shallow, room, inner⟩ := (ahead_structured_iff settled).1 ahead
    have entered := (settled.advance 8).entering shallow tag (bytesOfAll layouts).length
    have read := complete entered ⟨inner, _, _, rfl, rfl⟩ denoted small
    change value children ⟨tag, ItemType.structured.byte, (bytesOfAll layouts).length⟩ _ = _
    simp only [value_structured, bind_eq_ok, enter_eq_ok, pure_eq_ok]
    refine ⟨(), _, ⟨shallow, room, rfl⟩, items, _, read, (), _,
      (structureEnd_entering settled).2 ⟨rfl, rfl⟩, rfl, ?_⟩
    rw [length_bytes, body]

/-- At the end of a structure no items are read. -/
lemma itemsWithin_of_atStop (settled : reader.Settled) (inner : reader.opened ≠ [])
    (stop : reader.atStop = true) (fuel : Nat) : itemsWithin fuel reader = .ok [] reader := by
  have looked := (header?_eq_none settled.pending inner).2 ⟨stop, rfl⟩
  cases fuel with
  | zero => exact bind_of_ok looked
  | succ fuel => exact bind_of_ok looked

/-- Where a header is shown, its item is read, and then the others. -/
lemma itemsWithin_of_shows (settled : reader.Settled) {header : Header}
    (shows : reader.Shows header) (fuel : Nat) :
    itemsWithin (fuel + 1) reader = (do
      let value ← value (itemsWithin fuel) header
      let rest ← itemsWithin fuel
      pure (⟨header.tag.text, value⟩ :: rest) : Read (List Item)) (reader.advance 8) := by
  have looked := (header?_eq_some settled.pending).2 ⟨shows, rfl⟩
  exact (bind_of_ok looked).trans (bind_of_ok (header_looking settled.pending shows))

/-- Items are read only where layouts of them lie ahead. -/
lemma itemsWithin_sound (fuel : Nat) : ItemsSound (itemsWithin fuel) := by
  -- structures among the items, and the items behind the first one, are read with less fuel
  induction fuel with
  | zero =>
    intro reader final items settled inner read
    obtain ⟨found, middle, looked, rest⟩ := bind_eq_ok.1 read
    cases found with
    | none =>
      obtain ⟨-, rfl⟩ := (header?_eq_none settled.pending inner).1 looked
      obtain ⟨rfl, rfl⟩ := pure_eq_ok.1 rest
      exact ⟨[], trivial, rfl, advance_zero.symm⟩
    | some header => exact (throw_eq_ok.1 rest).elim
  | succ fuel ih =>
    intro reader final items settled inner read
    obtain ⟨found, middle, looked, -⟩ := bind_eq_ok.1 read
    cases found with
    | none =>
      obtain ⟨stop, -⟩ := (header?_eq_none settled.pending inner).1 looked
      rw [itemsWithin_of_atStop settled inner stop] at read
      obtain ⟨rfl, rfl⟩ := EStateM.Result.ok.inj read
      exact ⟨[], trivial, rfl, advance_zero.symm⟩
    | some header =>
      obtain ⟨shows, -⟩ := (header?_eq_some settled.pending).1 looked
      rw [itemsWithin_of_shows settled shows] at read
      simp only [bind_eq_ok, pure_eq_ok] at read
      obtain ⟨value, _, first, items, _, more, rfl, rfl⟩ := read
      obtain ⟨layout, rfl, ahead, denoted, rfl⟩ := value_sound settled shows ih first
      obtain ⟨layouts, others, denote, rfl⟩ := ih (settled.advance _) inner more
      refine ⟨layout :: layouts, ⟨ahead, others⟩, ⟨_, _, rfl, denoted, denote⟩, ?_⟩
      rw [advance_advance, bytesOfAll, List.length_append]

/-- Items are read where a structure holds layouts of them, if these take no more than the headers
that can still come. -/
lemma itemsWithin_complete (fuel : Nat) : ItemsComplete (itemsWithin fuel) (8 * fuel) := by
  induction fuel with
  | zero =>
    intro reader layouts items settled holds denoted small
    cases layouts with
    | nil =>
      obtain rfl := denoted
      rw [bytesOfAll, List.length_nil, advance_zero]
      exact itemsWithin_of_atStop settled holds.opened_ne_nil holds.atStop 0
    | cons layout rest =>
      rw [bytesOfAll, List.length_append, length_bytes] at small
      omega
  | succ fuel ih =>
    intro reader layouts items settled holds denoted small
    cases layouts with
    | nil =>
      obtain rfl := denoted
      rw [bytesOfAll, List.length_nil, advance_zero]
      exact itemsWithin_of_atStop settled holds.opened_ne_nil holds.atStop (fuel + 1)
    | cons layout rest =>
      obtain ⟨⟨text, value⟩, more, rfl, head, tail⟩ := denoted
      -- the header of the first item has the eight bytes that pay for one unit of fuel
      rw [bytesOfAll, List.length_append, length_bytes] at small
      have first := value_complete settled ih holds.head head (by omega)
      have others := ih (settled.advance _) holds.tail tail (by omega)
      rw [itemsWithin_of_shows settled holds.head.shows]
      simp only [bind_eq_ok, pure_eq_ok]
      refine ⟨_, _, first, _, _, others, ?_, ?_⟩
      · rw [tag_header, ← head.tag_eq]
      · rw [advance_advance, bytesOfAll, List.length_append]

/-- As many headers can still come as the bytes left have room for. -/
lemma headersLeft_bind {α : Type} {next : Nat → Read α} :
    (headersLeft >>= next) reader = next (reader.remaining / 8) reader := rfl

/-- The content of an item that comes next takes no more than the headers that can still come. -/
lemma length_body_le (settled : reader.Settled) {layout : Layout} (ahead : reader.Ahead layout) :
    layout.body.length ≤ 8 * (reader.remaining / 8) := by
  have unread := ahead.unread.length_le
  have length := layout.length_bytes
  have whole := layout.length_bytes_mod
  simp only [remaining, settled.pending, Option.isSome_none, Bool.false_eq_true, if_false,
    Nat.add_zero]
  omega

/-- A value is read under its tag exactly where a layout of it lies ahead. -/
theorem taggedValue_eq_ok (settled : reader.Settled) {tag : Tag} {result : Value} :
    taggedValue reader = .ok (tag, result) final ↔
      ∃ layout : Layout, layout.tag = tag ∧ reader.Ahead layout ∧
        layout.Denotes ⟨tag.text, result⟩ ∧ final = reader.advance layout.bytes.length := by
  rw [taggedValue, headersLeft_bind]
  simp only [bind_eq_ok, header_eq_ok settled.pending, pure_eq_ok, Prod.mk.injEq]
  constructor
  · rintro ⟨header, _, ⟨shows, rfl⟩, value, _, read, ⟨rfl, rfl⟩, rfl⟩
    obtain ⟨layout, rfl, ahead, denoted, rfl⟩ :=
      value_sound settled shows (itemsWithin_sound _) read
    exact ⟨layout, (tag_header layout).symm, ahead, denoted, rfl⟩
  · rintro ⟨layout, rfl, ahead, denoted, rfl⟩
    have read := value_complete settled (itemsWithin_complete _) ahead denoted
      (length_body_le settled ahead)
    exact ⟨layout.header, _, ⟨ahead.shows, rfl⟩, result, _, read, ⟨tag_header layout, rfl⟩, rfl⟩

/-- A value is read under an expected tag exactly where a layout of it lies ahead. -/
theorem valueAs_eq_ok (settled : reader.Settled) {tag : Tag} {result : Value} :
    valueAs tag reader = .ok result final ↔
      ∃ layout : Layout, layout.tag = tag ∧ reader.Ahead layout ∧
        layout.Denotes ⟨tag.text, result⟩ ∧ final = reader.advance layout.bytes.length := by
  rw [valueAs, headersLeft_bind]
  simp only [bind_eq_ok, header_eq_ok settled.pending, guard_eq_ok, not_not]
  constructor
  · rintro ⟨header, _, ⟨shows, rfl⟩, rfl, read⟩
    obtain ⟨layout, rfl, ahead, denoted, rfl⟩ :=
      value_sound settled shows (itemsWithin_sound _) read
    exact ⟨layout, (tag_header layout).symm, ahead, denoted, rfl⟩
  · rintro ⟨layout, rfl, ahead, denoted, rfl⟩
    have read := value_complete settled (itemsWithin_complete _) ahead denoted
      (length_body_le settled ahead)
    exact ⟨layout.header, _, ⟨ahead.shows, rfl⟩, tag_header layout, read⟩

end Read

namespace Reader

variable {config : Config} {bytes : Bytes}

/-- A reader at the start of its source is settled. -/
lemma settled_start (source : Source) : (start source config).Settled :=
  ⟨rfl, Nat.zero_le _⟩

/-- What lies ahead at the start is in front of the bytes, and keeps to the limits. -/
lemma ahead_start_iff {layout : Layout} :
    (start (.ofBytes bytes) config).Ahead layout ↔
      layout.bytes <+: bytes ∧ layout.Fits ∧ layout.Within config.maxValueLength ∧
        layout.nesting ≤ config.maxDepth := by
  constructor
  · rintro ⟨-, unread, fits, within, depth, -⟩
    simp only [start, Source.unread_ofBytes, Reader.depth, List.length_nil, Nat.zero_add]
      at unread within depth
    exact ⟨unread, fits, within, depth⟩
  · rintro ⟨unread, fits, within, depth⟩
    refine ⟨rfl, ?_, fits, within, ?_, nofun⟩
    · simpa [start] using unread
    · simpa [start, Reader.depth] using depth

end Reader

namespace Read

section

open Reader

variable {α : Type} {step : Read α} {config : Config} {bytes : Bytes} {result : α}

/-- What comes of a step that is to take all bytes. -/
def runAll (step : Read α) (config : Config) (bytes : Bytes) : Except Fault α :=
  let whole : Read α := do
    let value ← step
    finish
    pure value
  match whole (.start (.ofBytes bytes) config) with
  | .ok value _ => .ok value
  | .error fault _ => .error fault

/-- A step that takes no bytes or more, as its own fault. -/
lemma runAll_of_error {fault : Fault} {final : Reader}
    (failed : step (.start (.ofBytes bytes) config) = .error fault final) :
    runAll step config bytes = .error fault := by
  rw [runAll, bind_of_error failed]

/-- Bytes behind those that a step takes are refused. -/
lemma runAll_of_ok {count : Nat}
    (done : step (.start (.ofBytes bytes) config) =
      .ok result ((start (.ofBytes bytes) config).advance count)) :
    runAll step config bytes =
      if count < bytes.length then .error (.trailingBytes (bytes.length - count))
      else .ok result := by
  have remaining : ((start (.ofBytes bytes) config).advance count).remaining =
      bytes.length - count := by
    simp [Reader.remaining, start]
  rw [runAll, bind_of_ok done]
  by_cases more : count < bytes.length
  · have finished : finish ((start (.ofBytes bytes) config).advance count) =
        .error (.trailingBytes (bytes.length - count))
          { (start (.ofBytes bytes) config).advance count with
            source := (Source.ofBytes bytes).drained } := by
      rw [← remaining]
      exact if_pos (by omega)
    rw [bind_of_error finished, if_pos more]
  · have finished : finish ((start (.ofBytes bytes) config).advance count) = .ok () _ :=
      finish_eq_ok.2 ⟨rfl, by omega, rfl⟩
    rw [bind_of_ok finished, if_neg more]
    rfl

/-- A step that takes all bytes leaves none. -/
lemma runAll_eq_ok :
    runAll step config bytes = .ok result ↔
      ∃ final, step (.start (.ofBytes bytes) config) = .ok result final ∧
        final.source.ending = .closed ∧ final.remaining = 0 := by
  simp only [runAll]
  constructor
  · intro done
    split at done
    · next value last read =>
      obtain rfl := Except.ok.inj done
      obtain ⟨_, final, first, rest⟩ := bind_eq_ok.1 read
      obtain ⟨_, _, finished, kept⟩ := bind_eq_ok.1 rest
      obtain ⟨rfl, rfl⟩ := pure_eq_ok.1 kept
      obtain ⟨closed, none, -⟩ := finish_eq_ok.1 finished
      exact ⟨final, first, closed, none⟩
    · cases done
  · rintro ⟨final, read, closed, none⟩
    have finished : finish final = .ok () _ := finish_eq_ok.2 ⟨closed, none, rfl⟩
    rw [bind_of_ok read, bind_of_ok finished]
    rfl

/-- A step that leaves a reader behind a layout takes all bytes exactly if the layout is all of
them. -/
lemma runAll_eq_ok_of_layout {Holds : Layout → Prop}
    (spec : ∀ final, step (.start (.ofBytes bytes) config) = .ok result final ↔
      ∃ layout : Layout, (start (.ofBytes bytes) config).Ahead layout ∧ Holds layout ∧
        final = (start (.ofBytes bytes) config).advance layout.bytes.length) :
    runAll step config bytes = .ok result ↔
      ∃ layout : Layout, layout.bytes = bytes ∧ layout.Fits ∧
        layout.Within config.maxValueLength ∧ layout.nesting ≤ config.maxDepth ∧ Holds layout := by
  constructor
  · intro done
    obtain ⟨final, read, -, none⟩ := runAll_eq_ok.1 done
    obtain ⟨layout, ahead, held, rfl⟩ := (spec _).1 read
    obtain ⟨unread, fits, within, depth⟩ := ahead_start_iff.1 ahead
    have all : bytes.length ≤ layout.bytes.length := by
      simpa [Reader.remaining, start, Nat.sub_eq_zero_iff_le] using none
    exact ⟨layout, unread.eq_of_length_le all, fits, within, depth, held⟩
  · rintro ⟨layout, rfl, fits, within, depth, held⟩
    have ahead := ahead_start_iff.2 ⟨List.prefix_rfl, fits, within, depth⟩
    rw [runAll_of_ok ((spec _).2 ⟨layout, ahead, held, rfl⟩), if_neg (lt_irrefl _)]

end

/-- An item is read exactly where a layout of it lies ahead. -/
lemma item_eq_ok {reader final : Reader} (settled : reader.Settled) {result : Item} :
    item reader = .ok result final ↔
      ∃ layout : Layout, reader.Ahead layout ∧ layout.Denotes result ∧
        final = reader.advance layout.bytes.length := by
  simp only [item, bind_eq_ok, pure_eq_ok]
  constructor
  · rintro ⟨⟨tag, value⟩, _, read, rfl, rfl⟩
    obtain ⟨layout, -, ahead, denoted, rfl⟩ := (taggedValue_eq_ok settled).1 read
    exact ⟨layout, ahead, denoted, rfl⟩
  · rintro ⟨layout, ahead, denoted, rfl⟩
    obtain ⟨text, value⟩ := result
    obtain rfl : text = layout.tag.text := denoted.tag_eq
    exact ⟨(layout.tag, value), _, (taggedValue_eq_ok settled).2 ⟨layout, rfl, ahead, denoted, rfl⟩,
      rfl, rfl⟩

end Read

namespace Item

/-- An item is decoded by reading it from all bytes. -/
lemma decode_eq_runAll (config : Config) (bytes : Bytes) :
    decode config bytes = Read.runAll Read.item config bytes := by
  simp only [decode, Read.runAll]
  split
  · next read => rw [read]
  · next read => rw [read]

/-- Bytes are read as an item if they are a layout of it that keeps to the limits, and only then. -/
lemma decode_eq_ok {config : Config} {bytes : Bytes} {item : Item} :
    decode config bytes = .ok item ↔
      ∃ layout : Layout, layout.bytes = bytes ∧ layout.Fits ∧
        layout.Within config.maxValueLength ∧ layout.nesting ≤ config.maxDepth ∧
        layout.Denotes item := by
  have spec : ∀ final, Read.item (.start (.ofBytes bytes) config) = .ok item final ↔ _ :=
    fun final => Read.item_eq_ok (Reader.settled_start _)
  rw [decode_eq_runAll]
  exact Read.runAll_eq_ok_of_layout spec

/-- The grammar of items: bytes are read as an item exactly if they as a whole are a layout of it,
the structures of the item nest no deeper than the settings allow, and no item other than a
structure declares more bytes than they allow. -/
theorem decode_eq_ok_iff (config : Config) (bytes : Bytes) (item : Item) :
    decode config bytes = .ok item ↔
      ∃ layout : Layout, layout.Fits ∧ layout.bytes = bytes ∧ layout.Denotes item ∧
        item.value.nesting ≤ config.maxDepth ∧ layout.Within config.maxValueLength := by
  rw [decode_eq_ok]
  constructor
  · rintro ⟨layout, spelled, fits, within, depth, denoted⟩
    exact ⟨layout, fits, spelled, denoted, denoted.nesting_eq ▸ depth, within⟩
  · rintro ⟨layout, fits, spelled, denoted, depth, within⟩
    exact ⟨layout, spelled, fits, within, denoted.nesting_eq ▸ depth, denoted⟩

/-- The round trip of items: an item has an encoding exactly if every tag text in it names a tag of
three bytes and every length fits four bytes; the encoding is read back as the item in its normal
form, under all settings that admit it, and is that of the normal form too. -/
theorem encode_decode (item : Item) :
    ((∃ bytes, item.encode = .ok bytes) ↔ item.Encodable) ∧
      ∀ bytes, item.encode = .ok bytes →
        (∀ config : Config, item.value.nesting ≤ config.maxDepth →
          item.Within config.maxValueLength → item.InRange →
            decode config bytes = .ok item.normal) ∧
        item.normal.encode = .ok bytes := by
  refine ⟨exists_encode_iff, fun bytes written => ⟨fun config depth within range => ?_, ?_⟩⟩
  · obtain ⟨layout, rfl, writes⟩ := exists_layout_of_encode written
    -- the bytes are a layout of the normal form, which nests as the item does
    have denoted := writes.denotes range
    have nesting := denoted.nesting_eq
    rw [normal, Value.nesting_normal] at nesting
    exact decode_eq_ok.2
      ⟨layout, rfl, writes.fits, writes.within _ within, nesting ▸ depth, denoted⟩
  · rw [encode_normal, written]

/-- An alias and a number for a tag are read back as its name, and an instant as its whole second.
-/
theorem encode_decode_batchItem :
    let sent : Item :=
      ⟨"RequestBatchItem", .structured [⟨"0x42000f", .scalar .dateTime ⟨-1, 500000000, 3600⟩⟩]⟩
    let bytes : Bytes :=
      [0x42, 0, 0x0F, 1, 0, 0, 0, 0x10, 0x42, 0, 0x0F, 9, 0, 0, 0, 8,
        0xFF, 0xFF, 0xFF, 0xFF, 0xFF, 0xFF, 0xFF, 0xFF]
    let normal : Item :=
      ⟨"BatchItem", .structured [⟨"BatchItem", .scalar .dateTime (.ofSeconds (-1))⟩]⟩
    sent.encode = .ok bytes ∧ decode .strict bytes = .ok normal ∧ normal.encode = .ok bytes := by
  intro sent bytes normal
  have written : sent.encode = .ok bytes := by decide +kernel
  have name : Tag.canonical "RequestBatchItem" = "BatchItem" := by decide +kernel
  have number : Tag.canonical "0x42000f" = "BatchItem" := by decide +kernel
  have same : sent.normal = ⟨Tag.canonical "RequestBatchItem", .structured
      [⟨Tag.canonical "0x42000f", .scalar .dateTime (.ofSeconds (-1))⟩]⟩ := rfl
  rw [name, number] at same
  have within : sent.Within Config.strict.maxValueLength := by
    simp [sent, ScalarType.encode, Config.strict]
  have range : sent.InRange := by
    simp [sent, ScalarType.InRange, DateTime.earliest, DateTime.latest]
  obtain ⟨back, again⟩ := (encode_decode sent).2 bytes written
  rw [same] at back again
  exact ⟨written, back .strict (by decide) within range, again⟩

end Item

end Kmip
