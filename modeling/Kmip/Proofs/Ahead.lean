import Kmip.Proofs.Step

/-!
# What lies ahead of a reader

`Reader.Ahead` says that an item comes next and can be read: its bytes are there, and it keeps to
the limits of the reader and to the structure around it. For a structure that means that it can be
entered, with its items ahead one after the other (`Reader.ahead_structured_iff`), which is how the
ends that structures declare and the offsets of the reader come together.
-/

namespace Kmip

namespace Layout

/-- An item is among those in it. -/
lemma mem_all_self (layout : Layout) : layout ∈ layout.all := by
  cases layout <;> simp [all]

/-- The header of an item within a limit keeps to it. -/
lemma Within.header {limit : Nat} {layout : Layout} (within : layout.Within limit) :
    layout.header.isStructure = false → layout.header.length ≤ limit :=
  within layout layout.mem_all_self

end Layout

namespace Reader

open Layout

variable {reader : Reader}

/-- The item comes next, and can be read. -/
structure Ahead (reader : Reader) (layout : Layout) : Prop where
  inside : reader.atStop = false
  unread : layout.bytes <+: reader.source.unread
  fits : layout.Fits
  within : layout.Within reader.config.maxValueLength
  depth : reader.depth + layout.nesting ≤ reader.config.maxDepth
  room : layout.header.isStructure = true → ∀ parent ∈ reader.opened.head?,
    reader.offset + layout.bytes.length ≤ parent.stop

/-- The items come next, one after the other, and can be read. -/
def AheadAll : Reader → List Layout → Prop
  | _, [] => True
  | reader, first :: rest => reader.Ahead first ∧ (reader.advance first.bytes.length).AheadAll rest

/-- The innermost structure holds exactly these items from here on. -/
structure Holds (reader : Reader) (items : List Layout) : Prop where
  ahead : reader.AheadAll items
  stop : ∃ innermost outer, reader.opened = innermost :: outer ∧
    reader.offset + (bytesOfAll items).length = innermost.stop

/-- The header of an item that comes next is shown. -/
lemma Ahead.shows {layout : Layout} (ahead : reader.Ahead layout) :
    reader.Shows layout.header where
  inside := ahead.inside
  unread := (append_prefix_iff.1 (bytes_eq layout ▸ ahead.unread)).1
  fits := ahead.fits.header
  within := ahead.within.header

/-- A single value comes next if its header is shown, and its content follows. -/
lemma ahead_scalar_iff (settled : reader.Settled) {tag : Tag} {type : ScalarType}
    {content : Bytes} :
    reader.Ahead (.scalar tag type content) ↔
      reader.Shows ⟨tag, (ItemType.scalar type).byte, content.length⟩ ∧
        content ++ Bytes.zeros (paddingLength content.length) <+:
          (reader.advance 8).source.unread := by
  have spelled : (scalar tag type content).bytes <+: reader.source.unread ↔
      (scalar tag type content).header.bytes <+: reader.source.unread ∧
        (scalar tag type content).body <+: (reader.advance 8).source.unread := by
    rw [bytes_eq, append_prefix_iff, Header.length_bytes, unread_advance]
  constructor
  · intro ahead
    exact ⟨ahead.shows, (spelled.1 ahead.unread).2⟩
  · rintro ⟨shows, unread⟩
    refine ⟨shows.inside, spelled.2 ⟨shows.unread, unread⟩, fits_scalar.2 shows.fits, ?_,
      settled.depth, ?_⟩
    · exact within_scalar.2 (shows.within (isStructure_scalar tag type content))
    · simp

/-- Items come next in a structure if their bytes do, and they keep to the limits. -/
lemma aheadAll_iff (settled : reader.Settled) (items : List Layout) {innermost : OpenStructure}
    {outer : List OpenStructure} (opened : reader.opened = innermost :: outer)
    (room : reader.offset + (bytesOfAll items).length ≤ innermost.stop) :
    reader.AheadAll items ↔
      bytesOfAll items <+: reader.source.unread ∧ (∀ item ∈ items, item.Fits) ∧
        (∀ item ∈ items, item.Within reader.config.maxValueLength) ∧
        reader.depth + nestingOfAll items ≤ reader.config.maxDepth := by
  induction items generalizing reader with
  | nil => simpa [AheadAll, bytesOfAll, nestingOfAll] using settled.depth
  | cons first rest ih =>
    -- what the first item leaves of the room in the structure is enough for the others
    have length := first.length_bytes
    rw [bytesOfAll, List.length_append] at room
    have more := ih (settled.advance first.bytes.length) opened
      (by rw [offset_advance]; omega)
    simp only [AheadAll, more, bytesOfAll, nestingOfAll, List.forall_mem_cons, append_prefix_iff,
      unread_advance, config_advance, depth_advance]
    constructor
    · rintro ⟨ahead, unread, fits, within, depth⟩
      have shallow := ahead.depth
      exact ⟨⟨ahead.unread, unread⟩, ⟨ahead.fits, fits⟩, ⟨ahead.within, within⟩, by omega⟩
    · rintro ⟨⟨unread, others⟩, ⟨fit, fits⟩, ⟨short, within⟩, depth⟩
      have inside : reader.atStop = false := by
        simp only [atStop, opened, decide_eq_false_iff_not]
        omega
      refine ⟨⟨inside, unread, fit, short, by omega, ?_⟩, others, fits, within, by omega⟩
      rintro - parent mem
      obtain rfl : innermost = parent := by simpa [opened] using mem
      omega

/-- A structure comes next if its header is shown, it can be entered, and its items come next in it.
-/
lemma ahead_structured_iff (settled : reader.Settled) {tag : Tag} {items : List Layout} :
    reader.Ahead (.structured tag items) ↔
      reader.Shows ⟨tag, ItemType.structured.byte, (bytesOfAll items).length⟩ ∧
        reader.depth < reader.config.maxDepth ∧
        (∀ parent ∈ reader.opened.head?,
          reader.offset + 8 + (bytesOfAll items).length ≤ parent.stop) ∧
        ((reader.advance 8).entering tag (bytesOfAll items).length).AheadAll items := by
  have spelled : (structured tag items).bytes <+: reader.source.unread ↔
      (structured tag items).header.bytes <+: reader.source.unread ∧
        bytesOfAll items <+: (reader.advance 8).source.unread := by
    rw [bytes_eq, append_prefix_iff, Header.length_bytes, unread_advance]
    rfl
  have inner (shallow : reader.depth < reader.config.maxDepth) :=
    aheadAll_iff ((settled.advance 8).entering shallow tag (bytesOfAll items).length) items rfl
      le_rfl
  have length := (structured tag items).length_bytes
  rw [body] at length
  simp only [unread_entering, config_entering, depth_entering, config_advance, depth_advance]
    at inner
  constructor
  · intro ahead
    have depth := ahead.depth
    rw [nesting] at depth
    obtain ⟨-, fits⟩ := fits_structured.1 ahead.fits
    refine ⟨ahead.shows, by omega, ?_, ?_⟩
    · intro parent mem
      have room := ahead.room rfl parent mem
      omega
    · rw [inner (by omega)]
      exact ⟨(spelled.1 ahead.unread).2, fits, within_structured.1 ahead.within, by omega⟩
  · rintro ⟨shows, shallow, room, ahead⟩
    obtain ⟨unread, fits, within, depth⟩ := (inner shallow).1 ahead
    refine ⟨shows.inside, spelled.2 ⟨shows.unread, unread⟩, fits_structured.2 ⟨shows.fits, fits⟩,
      within_structured.2 within, ?_, ?_⟩
    · rw [nesting]
      omega
    · intro _ parent mem
      have room := room parent mem
      omega

/-- A structure is left where as many bytes have been taken in it as its header declares. -/
lemma structureEnd_entering (settled : reader.Settled) {tag : Tag} {length count : Nat}
    {result : Unit} {final : Reader} :
    Read.structureEnd (((reader.advance 8).entering tag length).advance count) =
        .ok result final ↔ count = length ∧ final = reader.advance (8 + length) := by
  rw [Read.structureEnd_eq_ok, ← advance_advance, ← leave_advance_entering tag length length]
  constructor
  · rintro ⟨_, _, opened, -, stop, rfl⟩
    obtain ⟨rfl, rfl⟩ := List.cons.inj opened
    simp only [offset_advance, offset_entering, Nat.add_left_cancel_iff] at stop
    exact ⟨stop, by rw [stop]⟩
  · rintro ⟨rfl, rfl⟩
    exact ⟨_, _, rfl, settled.pending, rfl, rfl⟩

/-- A structure that holds nothing more has been read to its end. -/
lemma Holds.atStop (holds : reader.Holds []) : reader.atStop = true := by
  obtain ⟨innermost, outer, opened, stop⟩ := holds.stop
  simp only [bytesOfAll, List.length_nil, Nat.add_zero] at stop
  simp [Reader.atStop, opened, stop]

/-- The first item of a structure comes next. -/
lemma Holds.head {first : Layout} {rest : List Layout} (holds : reader.Holds (first :: rest)) :
    reader.Ahead first :=
  holds.ahead.1

/-- Behind its first item, a structure holds the others. -/
lemma Holds.tail {first : Layout} {rest : List Layout} (holds : reader.Holds (first :: rest)) :
    (reader.advance first.bytes.length).Holds rest := by
  obtain ⟨innermost, outer, opened, stop⟩ := holds.stop
  refine ⟨holds.ahead.2, innermost, outer, opened, ?_⟩
  rw [bytesOfAll, List.length_append] at stop
  rw [offset_advance]
  omega

/-- A reader in a structure that holds items is in a structure. -/
lemma Holds.opened_ne_nil {items : List Layout} (holds : reader.Holds items) :
    reader.opened ≠ [] := by
  obtain ⟨innermost, outer, opened, -⟩ := holds.stop
  simp [opened]

end Reader

end Kmip
