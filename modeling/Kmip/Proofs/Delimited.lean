import Kmip.Proofs.Foreign
import Kmip.Proofs.Truncation

/-!
# Bytes that show where they end

Bytes that are decoded as a whole are not decoded when any of them are missing at the end, and not
when others follow (`Delimits`); this is so of items and of all records (`delimits_of_decode`).
-/

namespace Kmip

open Reader

/-- The bytes show where they end: without some of them the end of the input comes too early, and
bytes behind them are left over. -/
structure Delimits {α : Type} (decode : Bytes → Except Fault α) (bytes : Bytes) : Prop where
  cut : ∀ part, part <+: bytes → part ≠ bytes → decode part = .error .endOfInput
  extended : ∀ rest, rest ≠ [] → decode (bytes ++ rest) = .error (.trailingBytes rest.length)

namespace Reader

/-- A source with the first bytes of another one, as readers at the start see them. -/
lemma short_start {source whole : Source} {missing : Bytes} (config : Config)
    (unread : whole.unread = source.unread ++ missing) :
    Short source.ending missing (start source config) (start whole config) :=
  ⟨source, rfl, unread, rfl⟩

end Reader

namespace Read

variable {α : Type} {step : Read α} {config : Config} {bytes : Bytes} {value : α}

/-- Where a step succeeds on all bytes, it runs into the end of every source with fewer of them. -/
lemma error_of_cut {source : Source} (truncates : Truncates step)
    (done : runAll step config bytes = .ok value) (first : source.unread <+: bytes)
    (fewer : source.unread ≠ bytes) :
    ∃ last, step (start source config) = .error source.ending.fault last := by
  obtain ⟨final, read, -, none⟩ := runAll_eq_ok.1 done
  obtain ⟨missing, whole⟩ := first
  have unread : (Source.ofBytes bytes).unread = source.unread ++ missing := by
    rw [Source.unread_ofBytes, whole]
  have lost : missing ≠ [] := by
    rintro rfl
    exact fewer (by rw [← whole, List.append_nil])
  have meets := truncates lost (short_start config unread)
  generalize step (start source config) = part at meets ⊢
  rw [read] at meets
  cases meets with
  | ok short =>
    -- all bytes have been taken, so that none of them can be missing
    have left := short.length_le
    rw [Reader.remaining] at none
    exact absurd (List.length_eq_zero_iff.1 (by omega)) lost
  | ended ended =>
    cases ended with
    | beyond => exact ⟨_, rfl⟩

/-- Bytes that a step takes as a whole show where they end, if it takes the same ones in front of
others. -/
lemma delimits_runAll (truncates : Truncates step)
    (done : runAll step config bytes = .ok value)
    (front : ∀ rest, step (start (.ofBytes (bytes ++ rest)) config) =
      .ok value ((start (.ofBytes (bytes ++ rest)) config).advance bytes.length)) :
    Delimits (runAll step config) bytes where
  cut part first fewer := by
    rw [← Source.unread_ofBytes part] at first fewer
    obtain ⟨last, failed⟩ := error_of_cut truncates done first fewer
    exact runAll_of_error failed
  extended rest some := by
    have more : bytes.length < (bytes ++ rest).length := by
      rw [List.length_append]
      exact Nat.lt_add_of_pos_right (List.length_pos_iff.2 some)
    rw [runAll_of_ok (front rest), if_pos more, List.length_append, Nat.add_sub_cancel_left]

end Read

/-- Bytes of an item show where they end. -/
lemma Item.delimits {config : Config} {bytes : Bytes} {item : Item}
    (read : decode config bytes = .ok item) : Delimits (decode config) bytes := by
  have same : decode config = Read.runAll Read.item config :=
    funext fun bytes => decode_eq_runAll config bytes
  rw [same] at read ⊢
  refine Read.delimits_runAll Read.truncates_item read fun rest => ?_
  obtain ⟨layout, rfl, fits, within, depth, denoted⟩ :=
    decode_eq_ok.1 ((decode_eq_runAll config bytes).trans read)
  exact (Read.item_eq_ok (settled_start _)).2 ⟨layout,
    ahead_start_iff.2 ⟨List.prefix_append _ _, fits, within, depth⟩, denoted, rfl⟩

namespace Record

variable {record : Record} {config : Config} {bytes : Bytes} {value : record.Val}

/-- Bytes of a record are read in front of whatever else a source gives. -/
lemma read_of_decode {source : Source} (mem : record ∈ Records.all)
    (read : record.decode config bytes = .ok value) (first : bytes <+: source.unread) :
    record.read (.start source config) =
      .ok value ((start source config).advance bytes.length) := by
  obtain ⟨item, rfl, spelled, admits⟩ := (decode_eq_ok_of_mixed mem).1 read
  rcases read_start mem spelled first with ⟨-, read⟩ | refused
  · exact read
  · have none := admits refused.1
    exact (not_refuses_nil (none ▸ refused)).elim

/-- Bytes of a record show where they end. -/
lemma delimits (mem : record ∈ Records.all) (read : record.decode config bytes = .ok value) :
    Delimits (record.decode config) bytes := by
  have same : record.decode config = Read.runAll record.read config :=
    funext fun bytes => decode_eq_runAll record config bytes
  have front (rest : Bytes) : bytes <+: (Source.ofBytes (bytes ++ rest)).unread := by
    rw [Source.unread_ofBytes]
    exact List.prefix_append _ _
  have whole := read
  rw [same] at whole ⊢
  exact Read.delimits_runAll record.truncates_read whole fun rest =>
    read_of_decode mem read (front rest)

end Record

/-- Whatever is decoded shows where it ends, as an item and as every record, under all settings: any
proper part of its bytes from the front on, none at all included, ends too early, and any bytes
behind them are left over. -/
theorem delimits_of_decode (config : Config) (bytes : Bytes) :
    (∀ item, Item.decode config bytes = .ok item → Delimits (Item.decode config) bytes) ∧
      ∀ record ∈ Records.all, ∀ value : record.Val, record.decode config bytes = .ok value →
        Delimits (record.decode config) bytes :=
  ⟨fun _ read => Item.delimits read, fun _ mem _ read => Record.delimits mem read⟩

/-- A number and a version with foreign items in it show where they end. -/
theorem delimits_of_decode_version :
    Delimits (Item.decode .strict) [0x42, 0, 0x6A, 2, 0, 0, 0, 4, 0, 0, 0, 1, 0, 0, 0, 0] ∧
      Delimits (Records.protocolVersion.decode .lenient) Record.markedVersion.bytes := by
  have mem : Records.protocolVersion ∈ Records.all :=
    List.mem_of_getElem? (by rfl : Records.all[0]? = _)
  have number : Item.decode .strict [0x42, 0, 0x6A, 2, 0, 0, 0, 4, 0, 0, 0, 1, 0, 0, 0, 0] =
      .ok ⟨Tag.protocolVersionMajor.text, .scalar .integer 1⟩ := by
    refine Item.decode_eq_ok.2 ⟨.scalar .protocolVersionMajor .integer [0, 0, 0, 1],
      by decide +kernel, Layout.fits_scalar.2 ⟨by decide, by decide⟩, ?_, by decide,
      1, rfl, rfl, ?_, ?_, ?_⟩
    · simp [Config.strict]
    all_goals decide
  exact ⟨(delimits_of_decode _ _).1 _ number,
    (delimits_of_decode _ _).2 _ mem _ Record.decode_markedVersion⟩

end Kmip
