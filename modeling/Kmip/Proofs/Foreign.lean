import Kmip.Proofs.Reading

/-!
# Foreign items change nothing or stop everything

`Mixed.Extends` says that an item comes from another one by adding foreign items anywhere among the
items of its records. Where foreign items are passed over, the record that is read stays the same;
where they are refused, a single one is enough for a fault (`Record.decode_of_extends`).
-/

namespace Kmip

open Read Reader Layout

/-- The item is another one with foreign items added, anywhere among the items of its records. Their
tags are none of those that the record around them declares, and what follows their headers is as
long as these declare; every length fits its header, and those of foreign items keep to the limit. -/
structure Mixed.Extends (config : Config) (original item : Mixed) : Prop where
  stripped : item.stripped = original
  strange : item.Strange
  fits : item.Fits
  within : ∀ header ∈ item.foreigns, header.isStructure = false →
    header.length ≤ config.maxValueLength

namespace Record

variable {record : Record} {config : Config} {bytes : Bytes} {value : record.Val}
  {original item : Mixed}

/-- The item shows which structures in the bytes are read as records: it spells the record, with
nothing foreign in it. -/
structure Marks (record : Record) (bytes : Bytes) (value : record.Val) (item : Mixed) : Prop where
  spelled : item.bytes = bytes
  foreigns : item.foreigns = []
  spells : record.shape.Spells record.tag value item

/-- Where bytes are read as a record, and unknown tags refused, an item shows the records. -/
lemma exists_marks (mem : record ∈ Records.all)
    (read : record.decode { config with unknownTags := .reject } bytes = .ok value) :
    ∃ original, record.Marks bytes value original := by
  obtain ⟨item, spelled, ⟨spells, -, -, -⟩, admits⟩ := (decode_eq_ok_of_mixed mem).1 read
  exact ⟨item, spelled, admits rfl, spells⟩

/-- What extends bytes of a record spells it too, and keeps to the limits as these do. -/
lemma Marks.spelled_of_extends {unknownTags : UnknownTags} (mem : record ∈ Records.all)
    (read : record.decode { config with unknownTags := .reject } bytes = .ok value)
    (marks : record.Marks bytes value original) (extended : original.Extends config item) :
    record.Spelled { config with unknownTags } value item := by
  obtain ⟨rfl, strange, fits, foreign⟩ := extended
  obtain ⟨layout, spelled, fit, within, depth, -, -⟩ := (decode_eq_ok mem rfl).1 read
  have pure : item.stripped.IsPure item.kept := ⟨marks.foreigns, item.kept_stripped⟩
  -- the bytes have one layout, so that what keeps to the limits is the item without foreign ones
  obtain rfl : layout = item.kept :=
    eq_of_bytes_eq fit fits.kept (spelled.trans (marks.spelled.symm.trans pure.bytes_eq.1))
  exact ⟨record.shape.spells_of_stripped strange marks.spells, fits, ⟨within, foreign⟩, depth⟩

/-- Foreign items change nothing or stop everything: let bytes be read as a record where unknown
tags are refused. With foreign items put anywhere between the items of its records, they are read as
the same record where unknown tags are passed over; where these are refused, the tag of one of them
is, as soon as there is one. -/
theorem decode_of_extends (mem : record ∈ Records.all)
    (read : record.decode { config with unknownTags := .reject } bytes = .ok value) :
    (∃ original, record.Marks bytes value original) ∧
      ∀ original item : Mixed, record.Marks bytes value original → original.Extends config item →
        record.decode { config with unknownTags := .skip } item.bytes = .ok value ∧
          (item.foreigns ≠ [] → ∃ name, ∃ header ∈ item.foreigns,
            record.decode { config with unknownTags := .reject } item.bytes =
              .error (.unknownTag name header.tag)) := by
  refine ⟨exists_marks mem read, fun original item marks extended => ⟨?_, fun some => ?_⟩⟩
  · exact (decode_eq_ok_of_mixed mem).2
      ⟨item, rfl, marks.spelled_of_extends mem read extended, nofun⟩
  · have unread : item.bytes <+: (Source.ofBytes item.bytes).unread := by
      rw [Source.unread_ofBytes]
    rcases read_start mem (marks.spelled_of_extends mem read extended) unread
      with ⟨admits, -⟩ | ⟨-, name, header, foreign, final, refused⟩
    · exact absurd (admits rfl) some
    · refine ⟨name, header, foreign, ?_⟩
      rw [decode_eq_runAll]
      exact runAll_of_error refused

/-- The version 1.4, with a text between its numbers and a structure behind them. -/
def markedVersion : Mixed :=
  .record .protocolVersion [.protocolVersionMajor, .protocolVersionMinor]
    [.own (.plain (.scalar .protocolVersionMajor .integer [0, 0, 0, 1])),
      .foreign ⟨⟨0x540001⟩, 7, 3⟩ [0x61, 0x62, 0x63, 0, 0, 0, 0, 0],
      .own (.plain (.scalar .protocolVersionMinor .integer [0, 0, 0, 4])),
      .foreign ⟨⟨0x540002⟩, 1, 16⟩ [0x54, 0, 3, 6, 0, 0, 0, 8, 0, 0, 0, 0, 0, 0, 0, 1]]

lemma marks_markedVersion :
    Records.protocolVersion.Marks
      [0x42, 0, 0x69, 1, 0, 0, 0, 0x20, 0x42, 0, 0x6A, 2, 0, 0, 0, 4, 0, 0, 0, 1, 0, 0, 0, 0,
        0x42, 0, 0x6B, 2, 0, 0, 0, 4, 0, 0, 0, 4, 0, 0, 0, 0] (1, 4, ()) markedVersion.stripped where
  spelled := by decide +kernel
  foreigns := rfl
  spells := by
    refine ⟨_, rfl, by simp [Part.strippedAll],
      [_], [_], rfl, .cons ⟨_, rfl, ⟨1, rfl, rfl, ?_, ?_, ?_⟩, trivial⟩ .nil,
      [_], [], rfl, .cons ⟨_, rfl, ⟨4, rfl, rfl, ?_, ?_, ?_⟩, trivial⟩ .nil, rfl⟩
    all_goals decide

lemma extends_markedVersion :
    markedVersion.stripped.Extends .strict markedVersion where
  stripped := rfl
  strange := by
    simp only [markedVersion, Mixed.Strange, Part.AllStrange, true_and, and_true]
    decide
  fits := by
    simp only [markedVersion, Mixed.Fits, Part.FitAll, fits_scalar]
    refine ⟨⟨?_, ?_⟩, ⟨?_, ?_⟩, ⟨⟨?_, ?_⟩, ?_⟩, ⟨?_, ?_⟩, ⟨⟨?_, ?_⟩, ?_⟩, trivial⟩ <;> decide
  within := by simp [markedVersion, Mixed.foreigns, Part.foreignsOfAll, Config.strict]

lemma decode_markedVersion :
    Records.protocolVersion.decode .lenient markedVersion.bytes = .ok (1, 4, ()) := by
  have mem : Records.protocolVersion ∈ Records.all :=
    List.mem_of_getElem? (by rfl : Records.all[0]? = _)
  have spells := Records.protocolVersion.shape.spells_of_stripped extends_markedVersion.strange
    marks_markedVersion.spells
  refine (decode_eq_ok_of_mixed mem).2 ⟨markedVersion, rfl,
    ⟨spells, extends_markedVersion.fits, ⟨?_, ?_⟩, by decide⟩, nofun⟩
  · simp [markedVersion, Mixed.kept, Part.keptOfAll, Config.lenient]
  · simp [markedVersion, Mixed.foreigns, Part.foreignsOfAll, Config.lenient]

/-- A text between the two numbers of a version, and a structure behind them, change nothing or stop
everything. -/
theorem decode_of_extends_protocolVersion :
    let bytes : Bytes :=
      [0x42, 0, 0x69, 1, 0, 0, 0, 0x20, 0x42, 0, 0x6A, 2, 0, 0, 0, 4, 0, 0, 0, 1, 0, 0, 0, 0,
        0x42, 0, 0x6B, 2, 0, 0, 0, 4, 0, 0, 0, 4, 0, 0, 0, 0]
    let more : Bytes :=
      [0x42, 0, 0x69, 1, 0, 0, 0, 0x48, 0x42, 0, 0x6A, 2, 0, 0, 0, 4, 0, 0, 0, 1, 0, 0, 0, 0,
        0x54, 0, 1, 7, 0, 0, 0, 3, 0x61, 0x62, 0x63, 0, 0, 0, 0, 0,
        0x42, 0, 0x6B, 2, 0, 0, 0, 4, 0, 0, 0, 4, 0, 0, 0, 0,
        0x54, 0, 2, 1, 0, 0, 0, 0x10, 0x54, 0, 3, 6, 0, 0, 0, 8, 0, 0, 0, 0, 0, 0, 0, 1]
    Records.protocolVersion.decode .strict bytes = .ok (1, 4, ()) ∧
      Records.protocolVersion.decode .lenient more = .ok (1, 4, ()) ∧
        ∃ name tag, Records.protocolVersion.decode .strict more =
          .error (.unknownTag name tag) := by
  intro bytes more
  have mem : Records.protocolVersion ∈ Records.all :=
    List.mem_of_getElem? (by rfl : Records.all[0]? = _)
  have read : Records.protocolVersion.decode .strict bytes = .ok (1, 4, ()) := by
    obtain ⟨denoted, valid⟩ := Records.protocolVersion.shape.denotes_of_spells .protocolVersion
      marks_markedVersion.spells
    rw [Mixed.kept_stripped] at denoted
    refine (decode_eq_ok mem rfl).2 ⟨markedVersion.kept, by decide +kernel,
      extends_markedVersion.fits.kept, ?_, by decide, denoted, valid⟩
    simp [markedVersion, Mixed.kept, Part.keptOfAll, Config.strict]
  obtain ⟨skipped, refused⟩ := (@decode_of_extends _ .strict _ _ mem read).2 _ _
    marks_markedVersion extends_markedVersion
  have spelled : markedVersion.bytes = more := by decide +kernel
  rw [spelled] at skipped refused
  obtain ⟨name, header, -, refused⟩ := refused (List.cons_ne_nil _ _)
  exact ⟨read, skipped, name, header.tag, refused⟩

end Record

end Kmip
