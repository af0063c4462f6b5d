import Kmip.Proofs.Fields

/-!
# Reading records from a source

A record is read exactly where an item that spells it comes next (`Record.reads`). At the start of a
source this decides what comes of reading it, from bytes that are all of the record's
(`Record.decode_eq_ok_of_mixed`) as well as from those that it shares with what follows
(`Record.read_start`).
-/

namespace Kmip

open Read Reader

namespace Reader

variable {config : Config} {source : Source}

/-- What comes next at the start is in front of the bytes, and keeps to the limits. -/
lemma finds_start_iff {item : Mixed} :
    (start source config).Finds item ↔
      item.bytes <+: source.unread ∧ item.Fits ∧ item.Within config.maxValueLength ∧
        item.kept.nesting ≤ config.maxDepth := by
  constructor
  · rintro ⟨-, unread, fits, within, depth, -⟩
    simp only [start, Reader.depth, List.length_nil, Nat.zero_add] at unread within depth
    exact ⟨unread, fits, within, depth⟩
  · rintro ⟨unread, fits, within, depth⟩
    refine ⟨rfl, unread, fits, within, ?_, by simp [start]⟩
    simpa [start, Reader.depth] using depth

end Reader

namespace Record

variable {record : Record} {config : Config} {bytes : Bytes} {value : record.Val} {item : Mixed}

/-- The item spells the record, and keeps to the limits of the settings. -/
structure Spelled (record : Record) (config : Config) (value : record.Val) (item : Mixed) :
    Prop where
  spells : record.shape.Spells record.tag value item
  fits : item.Fits
  within : item.Within config.maxValueLength
  depth : item.kept.nesting ≤ config.maxDepth

/-- A record is read exactly where an item that spells it comes next. -/
lemma reads (mem : record ∈ Records.all) :
    Reads record.tag record.read fun item value => record.shape.Spells record.tag value item :=
  record.shape.isExact_of_isRegular (Records.isRegular mem) record.tag

/-- An item that spells a record, in front of what a source gives, is read as the record, or one of
the foreign items in it is refused. -/
lemma read_start {source : Source} (mem : record ∈ Records.all)
    (spelled : record.Spelled config value item) (unread : item.bytes <+: source.unread) :
    (start source config).Admits item.foreigns ∧ record.read (.start source config) =
        .ok value ((start source config).advance item.bytes.length) ∨
      (start source config).Refuses item.foreigns (record.read (.start source config)) :=
  (reads mem).complete (settled_start source)
    (finds_start_iff.2 ⟨unread, spelled.fits, spelled.within, spelled.depth⟩) spelled.spells .refl

/-- A record is decoded by reading it from all bytes. -/
lemma decode_eq_runAll (record : Record) (config : Config) (bytes : Bytes) :
    record.decode config bytes = runAll record.read config bytes := by
  simp only [decode, runAll]
  split
  · next read => rw [read]
  · next read => rw [read]

/-- Bytes are read as a record if they are those of an item that spells it, in which there is
nothing foreign unless the settings let that pass, and only then. -/
lemma decode_eq_ok_of_mixed (mem : record ∈ Records.all) :
    record.decode config bytes = .ok value ↔
      ∃ item : Mixed, item.bytes = bytes ∧ record.Spelled config value item ∧
        (config.unknownTags = .reject → item.foreigns = []) := by
  rw [decode_eq_runAll]
  constructor
  · intro done
    obtain ⟨final, read, -, none⟩ := runAll_eq_ok.1 done
    obtain ⟨item, finds, admits, spells, rfl⟩ := (reads mem).sound (settled_start _) .refl read
    obtain ⟨unread, fits, within, depth⟩ := finds_start_iff.1 finds
    rw [Source.unread_ofBytes] at unread
    have all : bytes.length ≤ item.bytes.length := by
      simpa [Reader.remaining, start, Nat.sub_eq_zero_iff_le] using none
    exact ⟨item, unread.eq_of_length_le all, ⟨spells, fits, within, depth⟩, admits⟩
  · rintro ⟨item, rfl, spelled, admits⟩
    have unread : item.bytes <+: (Source.ofBytes item.bytes).unread := by
      rw [Source.unread_ofBytes]
    rcases read_start mem spelled unread with ⟨-, read⟩ | refused
    · rw [runAll_of_ok read, if_neg (lt_irrefl _)]
    · have none := admits refused.1
      exact (not_refuses_nil (none ▸ refused)).elim

/-- Where nothing unknown may stand, bytes are read as a record if they are a layout of its item that
keeps to the limits, and only then. -/
lemma decode_eq_ok (mem : record ∈ Records.all) (reject : config.unknownTags = .reject) :
    record.decode config bytes = .ok value ↔
      ∃ layout : Layout, layout.bytes = bytes ∧ layout.Fits ∧
        layout.Within config.maxValueLength ∧ layout.nesting ≤ config.maxDepth ∧
        layout.Denotes (record.item value) ∧ record.shape.Valid value := by
  rw [decode_eq_ok_of_mixed mem]
  constructor
  · rintro ⟨item, rfl, ⟨spells, fits, within, depth⟩, admits⟩
    have pure : item.IsPure item.kept := ⟨admits reject, rfl⟩
    obtain ⟨denoted, valid⟩ := record.shape.denotes_of_spells record.tag spells
    exact ⟨item.kept, pure.bytes_eq.1.symm, fits.kept, within.1, depth, denoted, valid⟩
  · rintro ⟨layout, rfl, fits, within, depth, denoted, valid⟩
    obtain ⟨item, spells, pure⟩ := record.shape.exists_spells record.tag denoted valid
    obtain ⟨spelled, fit⟩ := pure.bytes_eq
    obtain ⟨none, rfl⟩ := pure
    refine ⟨item, spelled, ⟨spells, fit.2 fits, ⟨within, ?_⟩, depth⟩, fun _ => none⟩
    rw [none]
    exact List.forall_mem_nil _

end Record

end Kmip
