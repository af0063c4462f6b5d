import Kmip.Proofs.Reading

/-!
# Settings that allow more

What is read under some settings is read in the same way under settings that allow more
(`Config.Relaxes`): the same record from the same bytes, so that a source is left with the same ones
(`Record.decode_of_relaxes`). The settings enter only where they bound the item that spells a record,
and where they forbid foreign items in it.
-/

namespace Kmip

/-- The second settings allow whatever the first ones do: structures as deep, values as long, and
unknown tags at least as well. -/
structure Config.Relaxes (config relaxed : Config) : Prop where
  depth : config.maxDepth ≤ relaxed.maxDepth
  length : config.maxValueLength ≤ relaxed.maxValueLength
  tags : relaxed.unknownTags = config.unknownTags ∨
    config.unknownTags = .reject ∧ relaxed.unknownTags = .skip

/-- Settings that refuse unknown tags come from settings that do so. -/
lemma Config.Relaxes.reject {config relaxed : Config} (relaxes : config.Relaxes relaxed)
    (reject : relaxed.unknownTags = .reject) : config.unknownTags = .reject := by
  rcases relaxes.tags with same | ⟨strict, -⟩
  · rw [← same, reject]
  · exact strict

/-- Longer values may be longer than shorter ones. -/
lemma Mixed.Within.mono {limit more : Nat} {item : Mixed} (within : item.Within limit)
    (le : limit ≤ more) : item.Within more := by
  constructor
  · intro inner mem single
    exact (within.1 inner mem single).trans le
  · intro header mem single
    exact (within.2 header mem single).trans le

namespace Record

variable {record : Record} {config relaxed : Config} {bytes : Bytes} {value : record.Val}
  {item : Mixed}

/-- An item that keeps to some limits keeps to wider ones. -/
lemma Spelled.relax (spelled : record.Spelled config value item)
    (relaxes : config.Relaxes relaxed) : record.Spelled relaxed value item where
  spells := spelled.spells
  fits := spelled.fits
  within := spelled.within.mono relaxes.length
  depth := spelled.depth.trans relaxes.depth

/-- From a source, a record is read off the item that spells it in front of what the source gives,
and the source is left with what stands behind that. -/
lemma readFrom_eq_ok (mem : record ∈ Records.all) {source left : Source} :
    record.readFrom config source = (.ok value, left) ↔
      ∃ item : Mixed, item.bytes <+: source.unread ∧ record.Spelled config value item ∧
        (config.unknownTags = .reject → item.foreigns = []) ∧
        left = (source.pull item.bytes.length).2 := by
  constructor
  · intro done
    rw [readFrom] at done
    split at done
    · next read =>
      obtain ⟨same, rfl⟩ := Prod.mk.inj done
      obtain rfl := Except.ok.inj same
      obtain ⟨item, finds, admits, spells, rfl⟩ :=
        (reads mem).sound (Reader.settled_start _) .refl read
      obtain ⟨unread, fits, within, depth⟩ := Reader.finds_start_iff.1 finds
      exact ⟨item, unread, ⟨spells, fits, within, depth⟩, admits, rfl⟩
    · cases (Prod.mk.inj done).1
  · rintro ⟨item, unread, spelled, admits, rfl⟩
    rcases read_start mem spelled unread with ⟨-, read⟩ | refused
    · rw [readFrom, read]
      rfl
    · have none := admits refused.1
      exact (Reader.not_refuses_nil (none ▸ refused)).elim

/-- Settings that allow more change nothing where reading succeeds: bytes that are read as a record
are read as the same record, and from any source that starts with them this record is read under
both settings, each time leaving exactly what stands behind the bytes. -/
theorem decode_of_relaxes (mem : record ∈ Records.all) (relaxes : config.Relaxes relaxed)
    (read : record.decode config bytes = .ok value) :
    record.decode relaxed bytes = .ok value ∧
      ∀ source : Source, bytes <+: source.unread →
        record.readFrom config source = (.ok value, (source.pull bytes.length).2) ∧
          record.readFrom relaxed source = (.ok value, (source.pull bytes.length).2) := by
  obtain ⟨item, rfl, spelled, admits⟩ := (decode_eq_ok_of_mixed mem).1 read
  have admitted : relaxed.unknownTags = .reject → item.foreigns = [] :=
    fun reject => admits (relaxes.reject reject)
  have wider := spelled.relax relaxes
  refine ⟨(decode_eq_ok_of_mixed mem).2 ⟨item, rfl, wider, admitted⟩, fun source unread => ?_⟩
  exact ⟨(readFrom_eq_ok mem).2 ⟨item, unread, spelled, admits, rfl⟩,
    (readFrom_eq_ok mem).2 ⟨item, unread, wider, admitted, rfl⟩⟩

/-- A version at the very limits of the settings is read under the lenient ones too, from a source
that hands it over in two runs, with another byte behind it. -/
theorem decode_of_relaxes_protocolVersion :
    let bytes : Bytes :=
      [0x42, 0, 0x69, 1, 0, 0, 0, 0x20, 0x42, 0, 0x6A, 2, 0, 0, 0, 4, 0, 0, 0, 1, 0, 0, 0, 0,
        0x42, 0, 0x6B, 2, 0, 0, 0, 4, 0, 0, 0, 4, 0, 0, 0, 0]
    let source : Source :=
      ⟨[.run (bytes.take 13) (by decide), .run (bytes.drop 13 ++ [7]) (by decide)], .closed⟩
    Records.protocolVersion.decode ⟨.reject, 4, 1⟩ bytes = .ok (1, 4, ()) ∧
      Records.protocolVersion.decode .lenient bytes = .ok (1, 4, ()) ∧
        Records.protocolVersion.readFrom ⟨.reject, 4, 1⟩ source =
            (.ok (1, 4, ()), (source.pull bytes.length).2) ∧
          Records.protocolVersion.readFrom .lenient source =
            (.ok (1, 4, ()), (source.pull bytes.length).2) ∧
          (source.pull bytes.length).2.unread = [7] := by
  intro bytes source
  have mem : Records.protocolVersion ∈ Records.all :=
    List.mem_of_getElem? (by rfl : Records.all[0]? = _)
  have relaxes : Config.Relaxes ⟨.reject, 4, 1⟩ .lenient :=
    ⟨by decide, by decide, .inr ⟨rfl, rfl⟩⟩
  have read : (Records.protocolVersion.decode ⟨.reject, 4, 1⟩ bytes :
      Except Fault (Int32 × Int32 × Unit)) = .ok (1, 4, ()) := by decide +kernel
  have unread : source.unread = bytes ++ [7] := by decide
  obtain ⟨again, both⟩ := decode_of_relaxes mem relaxes read
  obtain ⟨strict, lenient⟩ := both source (unread ▸ List.prefix_append _ _)
  refine ⟨read, again, strict, lenient, ?_⟩
  rw [Source.unread_pull, unread, List.drop_left]

end Record

end Kmip
