import Kmip.Proofs.Delimited

/-!
# Records that follow each other

Several records from one source, one after the other (`Record.readEach`). However the source hands
its bytes over, each record takes its own bytes and no others; where the source breaks, the record
that needs more bytes than it has given is the first one that fails (`Record.readEach_messages`). It
need not fail with a report of the source: one that breaks as if its bytes had ended is taken for one
that has ended (`Record.readEach_unexpectedEnd`).
-/

namespace Kmip

open Read Reader

namespace Record

/-- Reads records from a source, one after the other, and gives the source with what follows. -/
def readEach (config : Config) :
    List Record → Source → List (Σ record : Record, Except Fault record.Val) × Source
  | [], source => ([], source)
  | record :: rest, source =>
    let (result, left) := record.readFrom config source
    let (results, last) := readEach config rest left
    (⟨record, result⟩ :: results, last)

/-- Bytes that are decoded as a record. -/
structure Message (config : Config) where
  record : Record
  bytes : Bytes
  value : record.Val
  mem : record ∈ Records.all
  decoded : record.decode config bytes = .ok value

namespace Message

variable {config : Config} {source : Source}

/-- What reading a message gives. -/
def result (message : Message config) : Σ record : Record, Except Fault record.Val :=
  ⟨message.record, .ok message.value⟩

/-- What reading a message gives where the source breaks in it. -/
def broken (message : Message config) (breakdown : Breakdown) :
    Σ record : Record, Except Fault record.Val :=
  ⟨message.record, .error breakdown.fault⟩

/-- The bytes of messages that follow each other. -/
def bytesOfAll (messages : List (Message config)) : Bytes :=
  messages.flatMap bytes

/-- A message is read from the front of a source, and takes its own bytes. -/
lemma readFrom_eq (message : Message config) (first : message.bytes <+: source.unread) :
    message.record.readFrom config source =
      (.ok message.value, (source.pull message.bytes.length).2) := by
  rw [readFrom, read_of_decode message.mem message.decoded first]
  rfl

/-- A message of which the source gives only a part ends with the failure of the source. -/
lemma readFrom_of_cut (message : Message config) {breakdown : Breakdown}
    (broken : source.ending = .broken breakdown) (first : source.unread <+: message.bytes)
    (fewer : source.unread ≠ message.bytes) :
    (message.record.readFrom config source).1 = .error breakdown.fault := by
  have whole := message.decoded
  rw [decode_eq_runAll] at whole
  obtain ⟨last, failed⟩ := error_of_cut message.record.truncates_read whole first fewer
  rw [readFrom, failed, broken]
  rfl

end Message

variable {config : Config} {source : Source}

/-- The first records are read, and then the others. -/
lemma readEach_append (first second : List Record) (source : Source) :
    readEach config (first ++ second) source =
      ((readEach config first source).1 ++
        (readEach config second (readEach config first source).2).1,
        (readEach config second (readEach config first source).2).2) := by
  induction first generalizing source with
  | nil => rfl
  | cons record rest ih => simp [readEach, ih]

/-- Messages in front of other bytes are read one after the other. -/
lemma readEach_of_unread (messages : List (Message config)) {rest : Bytes}
    (unread : source.unread = Message.bytesOfAll messages ++ rest) :
    (readEach config (messages.map Message.record) source).1 = messages.map Message.result ∧
      (readEach config (messages.map Message.record) source).2.unread = rest ∧
      (readEach config (messages.map Message.record) source).2.ending = source.ending := by
  induction messages generalizing source with
  | nil => exact ⟨rfl, unread, rfl⟩
  | cons message others ih =>
    rw [Message.bytesOfAll, List.flatMap_cons, List.append_assoc] at unread
    have first : message.bytes <+: source.unread := ⟨_, unread.symm⟩
    have behind : (source.pull message.bytes.length).2.unread =
        Message.bytesOfAll others ++ rest := by
      rw [Source.unread_pull, unread, List.drop_left]
      rfl
    obtain ⟨results, left, ending⟩ := ih behind
    simp only [List.map_cons, readEach, message.readFrom_eq first]
    exact ⟨congrArg _ results, left, ending⟩

/-- Messages that the source gives all of are read, and the next one, of which it gives only a part
before it breaks, is broken. -/
lemma readEach_of_cut (before : List (Message config)) (next : Message config)
    {breakdown : Breakdown} {part : Bytes} (broken : source.ending = .broken breakdown)
    (unread : source.unread = Message.bytesOfAll before ++ part) (first : part <+: next.bytes)
    (fewer : part ≠ next.bytes) :
    (readEach config ((before ++ [next]).map Message.record) source).1 =
      before.map Message.result ++ [next.broken breakdown] := by
  obtain ⟨results, rfl, ended⟩ := readEach_of_unread before unread
  have failed := next.readFrom_of_cut (ended.trans broken) first fewer
  rw [List.map_append, readEach_append, results]
  exact congrArg (fun result => before.map Message.result ++ [⟨next.record, result⟩]) failed

/-- Behind the messages before it, a source that gives fewer bytes than the next message needs gives
a part of that. -/
lemma Message.exists_part {before after : List (Message config)} {next : Message config}
    {given rest : Bytes} (first : given <+: bytesOfAll (before ++ next :: after) ++ rest)
    (enough : (bytesOfAll before).length ≤ given.length)
    (few : given.length < (bytesOfAll (before ++ [next])).length) :
    ∃ part, given = bytesOfAll before ++ part ∧ part <+: next.bytes ∧ part ≠ next.bytes := by
  have spelled : bytesOfAll (before ++ next :: after) ++ rest =
      bytesOfAll before ++ (next.bytes ++ (bytesOfAll after ++ rest)) := by
    simp [bytesOfAll]
  have whole : bytesOfAll (before ++ [next]) = bytesOfAll before ++ next.bytes := by
    simp [bytesOfAll]
  rw [spelled] at first
  obtain ⟨part, rfl⟩ := List.prefix_of_prefix_length_le (List.prefix_append _ _) first enough
  rw [List.prefix_append_right_inj] at first
  rw [whole, List.length_append, List.length_append, Nat.add_lt_add_iff_left] at few
  refine ⟨part, rfl, List.prefix_of_prefix_length_le first (List.prefix_append _ _) few.le, ?_⟩
  rintro rfl
  exact lt_irrefl _ few

/-- Records from one connection: let there be messages that are each decoded as a record. From a
source that gives their bytes and others behind them, in runs of any size and with interruptions
anywhere, reading one after the other gives these records, and leaves the source with the others.
From a source that breaks before that, the messages that it has given all bytes of are read, and the
next one ends with the failure of the source. -/
theorem readEach_messages (messages : List (Message config)) (rest : Bytes) :
    (∀ source : Source, source.unread = Message.bytesOfAll messages ++ rest →
      (readEach config (messages.map Message.record) source).1 = messages.map Message.result ∧
        (readEach config (messages.map Message.record) source).2.unread = rest) ∧
    ∀ (source : Source) (breakdown : Breakdown), source.ending = .broken breakdown →
      source.unread <+: Message.bytesOfAll messages ++ rest →
        ∀ (before : List (Message config)) (next : Message config) (after : List (Message config)),
          messages = before ++ next :: after →
            (Message.bytesOfAll before).length ≤ source.unread.length →
              source.unread.length < (Message.bytesOfAll (before ++ [next])).length →
                (readEach config ((before ++ [next]).map Message.record) source).1 =
                  before.map Message.result ++ [next.broken breakdown] := by
  refine ⟨fun source unread => ?_, fun source breakdown broken given before next after split enough
    few => ?_⟩
  · obtain ⟨results, left, -⟩ := readEach_of_unread messages unread
    exact ⟨results, left⟩
  · -- what the source gives are the messages before, and a part of the next one
    subst split
    obtain ⟨part, unread, first, fewer⟩ := Message.exists_part given enough few
    exact readEach_of_cut before next broken unread first fewer

/-- Two versions come in pieces, or break off in the second one. -/
theorem readEach_versions :
    let version : Bytes := markedVersion.bytes
    let records : List Record := [Records.protocolVersion, Records.protocolVersion]
    let read : Σ record : Record, Except Fault record.Val :=
      ⟨Records.protocolVersion, .ok (1, 4, ())⟩
    let whole : Source :=
      ⟨Delivery.ofBytes (version.take 5) ++ .interruption ::
        (Delivery.ofBytes (version.drop 5 ++ version) ++ Delivery.ofBytes [7]), .closed⟩
    let cut : Source :=
      ⟨Delivery.ofBytes version ++ Delivery.ofBytes (version.take 11), .broken ⟨.other, "reset"⟩⟩
    (readEach .lenient records whole).1 = [read, read] ∧
      (readEach .lenient records whole).2.unread = [7] ∧
        (readEach .lenient records cut).1 =
          [read, ⟨Records.protocolVersion, .error (.io "reset")⟩] := by
  intro version records read whole cut
  have mem : Records.protocolVersion ∈ Records.all :=
    List.mem_of_getElem? (by rfl : Records.all[0]? = _)
  let message : Message .lenient :=
    ⟨Records.protocolVersion, version, (1, 4, ()), mem, decode_markedVersion⟩
  have unread : whole.unread = Message.bytesOfAll [message, message] ++ [7] := by
    simp only [whole, Source.unread, List.flatMap_append, List.flatMap_cons, Delivery.bytes,
      Delivery.flatMap_bytes_ofBytes, Message.bytesOfAll, List.flatMap_nil, List.append_nil,
      List.nil_append]
    rw [← List.append_assoc, ← List.append_assoc, List.take_append_drop]
  have given : cut.unread = version ++ version.take 11 := by
    simp only [cut, Source.unread, List.flatMap_append, Delivery.flatMap_bytes_ofBytes]
  obtain ⟨all, some⟩ := readEach_messages [message, message] [7]
  obtain ⟨results, left⟩ := all whole unread
  refine ⟨results, left, some cut ⟨.other, "reset"⟩ rfl ?_ [message] message [] rfl ?_ ?_⟩
  · rw [given]
    have both : Message.bytesOfAll [message, message] ++ [7] = version ++ (version ++ [7]) := by
      simp [Message.bytesOfAll, message]
    rw [both, List.prefix_append_right_inj]
    exact (List.take_prefix _ _).trans (List.prefix_append _ _)
  · simp [given, Message.bytesOfAll, message]
  · have longer : 11 < version.length := by decide +kernel
    simp only [given, Message.bytesOfAll, message, List.flatMap_append, List.flatMap_cons,
      List.flatMap_nil, List.append_nil, List.length_append, List.length_take]
    omega

/-- A source that breaks as if its bytes had ended: the record that needs more of them ends with their
end, and no failure of the source is reported. -/
theorem readEach_unexpectedEnd :
    let version : Bytes := markedVersion.bytes
    let cut : Source := ⟨Delivery.ofBytes (version.take 11), .broken ⟨.unexpectedEnd, "reset"⟩⟩
    Records.protocolVersion.decode .lenient version = .ok (1, 4, ()) ∧
      cut.unread.length < version.length ∧
        (readEach .lenient [Records.protocolVersion] cut).1 =
          [⟨Records.protocolVersion, .error .endOfInput⟩] ∧
        ∀ report, ⟨Records.protocolVersion, .error (.io report)⟩ ∉
          (readEach .lenient [Records.protocolVersion] cut).1 := by
  intro version cut
  have results : (readEach .lenient [Records.protocolVersion] cut).1 =
      [⟨Records.protocolVersion, .error .endOfInput⟩] := by rfl
  refine ⟨decode_markedVersion, by decide +kernel, results, fun report mem => ?_⟩
  rw [results, List.mem_singleton] at mem
  cases mem

end Record

end Kmip
