import Kmip.Proofs.Calls
import Kmip.Proofs.Decoding
import Kmip.Proofs.Taking
import Kmip.Proofs.Writer

/-!
# What is written is read back call by call

A writer is told single values and structures of them, one after the other (`Script`). A reader to
which the matching calls are made in the same order gets the values that were written, and for each
of them as many bytes as it took to write it (`Script.replay_written`). Every step of the script
writes whole groups of eight bytes, and the reader goes on by as many.
-/

namespace Kmip

/-- A step of a writer. -/
inductive Script where
  /-- A value of a scalar type is written under a tag. -/
  | scalar (type : ScalarType) (tag : Tag) (value : type.Content)
  /-- A structure is written under a tag, with what these steps write. -/
  | structured (tag : Tag) (steps : List Script)

/-- A call that has been made, what it gave, and how far the reader was behind it. -/
structure Reply where
  call : Call
  answer : call.Answer
  offset : Nat

/-- Makes calls one after the other, up to the first that fails. -/
def Read.replay : List Call → Read (List Reply)
  | [] => pure []
  | call :: rest => do
    let answer ← call.run
    let reader ← get
    let more ← replay rest
    pure (⟨call, answer, reader.offset⟩ :: more)

namespace Script

/-- What holds of a structure when it holds of all steps in it holds of every script. -/
@[induction_eliminator]
theorem induction {motive : Script → Prop}
    (scalar : ∀ type tag value, motive (.scalar type tag value))
    (structured : ∀ tag steps, (∀ step ∈ steps, motive step) → motive (.structured tag steps))
    (step : Script) : motive step :=
  @Script.rec motive (fun steps => ∀ step ∈ steps, motive step) scalar structured
    (List.forall_mem_nil _) (fun _ _ first rest => List.forall_mem_cons.2 ⟨first, rest⟩) step

mutual

/-- What a step writes, or why it cannot. -/
def encode : Script → Encoded
  | scalar type tag value => .scalar type tag value
  | structured tag steps => .structured tag (encodeEach steps)

/-- What each of some steps writes. -/
def encodeEach : List Script → List Encoded
  | [] => []
  | step :: rest => step.encode :: encodeEach rest

end

mutual

/-- The layout of what a step writes. -/
def layout : Script → Layout
  | scalar type tag value => .scalar tag type (type.encode value)
  | structured tag steps => .structured tag (layoutEach steps)

/-- The layouts of what steps write. -/
def layoutEach : List Script → List Layout
  | [] => []
  | step :: rest => step.layout :: layoutEach rest

end

/-- How many bytes a step writes. -/
def size (step : Script) : Nat :=
  step.layout.bytes.length

mutual

/-- Every date-time lies within the years that can be read. -/
def InRange : Script → Prop
  | scalar type _ value => type.InRange value
  | structured _ steps => InRangeEach steps

/-- So it is in all of these steps. -/
def InRangeEach : List Script → Prop
  | [] => True
  | step :: rest => step.InRange ∧ InRangeEach rest

end

mutual

/-- The calls that read what a step writes. -/
def calls : Script → List Call
  | scalar type tag _ => [.typed type tag]
  | structured tag steps => .structureStart tag :: (callsEach steps ++ [.structureEnd])

/-- The calls that read what steps write. -/
def callsEach : List Script → List Call
  | [] => []
  | step :: rest => step.calls ++ callsEach rest

end

mutual

/-- What these calls give from an offset on: of a single value, the value as it is read back and how
many bytes it took to write it. -/
def replies : Script → (start : Nat) → List Reply
  | scalar type tag value, start =>
    let size := (scalar type tag value).size
    [⟨.typed type tag, (type.normal value, size), start + size⟩]
  | structured tag steps, start =>
    ⟨.structureStart tag, (), start + 8⟩ ::
      (repliesEach steps (start + 8) ++
        [⟨.structureEnd, (), start + (structured tag steps).size⟩])

/-- What the calls for some steps give from an offset on. -/
def repliesEach : List Script → (start : Nat) → List Reply
  | [], _ => []
  | step :: rest, start => step.replies start ++ repliesEach rest (start + step.size)

end

mutual

/-- Writes what a step says. -/
def write : Script → Write
  | scalar type tag value => Write.scalar type tag value
  | structured tag steps => Write.structured tag (writeEach steps)

/-- Writes what some steps say, one after the other. -/
def writeEach : List Script → Write
  | [] => pure ()
  | step :: rest => do
    step.write
    writeEach rest

end

/-- Steps that are each written as their encodings are written one after the other. -/
lemma writeEach_eq {steps : List Script}
    (one : ∀ step ∈ steps, step.write = Write.item step.encode) :
    writeEach steps = Write.each (encodeEach steps) := by
  induction steps with
  | nil => rfl
  | cons step rest ih =>
    obtain ⟨one, others⟩ := List.forall_mem_cons.1 one
    rw [writeEach, encodeEach, Write.each, one, ih others]

/-- A step is written as its encoding. -/
lemma write_eq (step : Script) : step.write = Write.item step.encode := by
  induction step with
  | scalar type tag value => exact Write.scalar_eq type tag value
  | structured tag steps ih => rw [write, encode, writeEach_eq ih, Write.structured_each]

/-- Steps that each have an encoding as their layout have one together. -/
lemma concat_eq_ok {steps : List Script} {content : Bytes}
    (one : ∀ step ∈ steps, ∀ {bytes : Bytes}, step.encode = .ok bytes ↔
      step.layout.Fits ∧ bytes = step.layout.bytes) :
    Encoded.concat (encodeEach steps) = .ok content ↔
      (∀ layout ∈ layoutEach steps, layout.Fits) ∧
        content = Layout.bytesOfAll (layoutEach steps) := by
  induction steps generalizing content with
  | nil =>
    simp [encodeEach, layoutEach, Encoded.concat, Layout.bytesOfAll, eq_comm]
  | cons step rest ih =>
    obtain ⟨one, others⟩ := List.forall_mem_cons.1 one
    simp only [encodeEach, layoutEach, Encoded.concat_cons_eq_ok, one, ih others,
      List.forall_mem_cons, Layout.bytesOfAll]
    constructor
    · rintro ⟨_, _, ⟨fit, rfl⟩, ⟨fits, rfl⟩, rfl⟩
      exact ⟨⟨fit, fits⟩, rfl⟩
    · rintro ⟨⟨fit, fits⟩, rfl⟩
      exact ⟨_, _, ⟨fit, rfl⟩, ⟨fits, rfl⟩, rfl⟩

/-- A step has an encoding if its layout fits, and that is how it is written. -/
lemma encode_eq_ok (step : Script) : ∀ {bytes : Bytes}, step.encode = .ok bytes ↔
    step.layout.Fits ∧ bytes = step.layout.bytes := by
  induction step with
  | scalar type tag value => exact Encoded.scalar_eq_ok
  | structured tag steps ih =>
    intro bytes
    rw [encode, Encoded.structured_eq_ok]
    simp only [concat_eq_ok ih, layout, Layout.fits_structured, Layout.bytes]
    constructor
    · rintro ⟨_, ⟨fits, rfl⟩, fit, rfl⟩
      exact ⟨⟨fit, fits⟩, rfl⟩
    · rintro ⟨⟨fit, fits⟩, rfl⟩
      exact ⟨_, ⟨fits, rfl⟩, fit, rfl⟩

end Script

namespace Write

variable {sink next : Sink}

/-- Two writes succeed if the first does, and the second behind it. -/
lemma bind_eq_ok {first second : Write} :
    (first >>= fun _ => second) sink = .ok () next ↔
      ∃ middle, first sink = .ok () middle ∧ second middle = .ok () next := by
  simp only [bind, EStateM.bind]
  cases first sink <;> simp

/-- A sink without a bound takes one encoding after the other. -/
lemma each_eq_ok {items : List Encoded} (unlimited : sink.room = none) :
    each items sink = .ok () next ↔ ∃ added, Encoded.concat items = .ok added ∧
      next = { sink with written := sink.written ++ added } := by
  induction items generalizing sink with
  | nil => simp [each, Encoded.concat, pure, EStateM.pure, eq_comm]
  | cons first rest ih =>
    have behind (head : Bytes) := @ih { sink with written := sink.written ++ head } unlimited
    simp only [List.append_assoc] at behind
    simp only [each, bind_eq_ok, item_eq_ok unlimited, Encoded.concat_cons_eq_ok]
    constructor
    · rintro ⟨_, ⟨head, rfl, rfl⟩, others⟩
      obtain ⟨tail, written, rfl⟩ := (behind head).1 others
      exact ⟨_, ⟨head, tail, rfl, written, rfl⟩, rfl⟩
    · rintro ⟨_, ⟨head, tail, rfl, written, rfl⟩, rfl⟩
      exact ⟨_, ⟨head, rfl, rfl⟩, (behind head).2 ⟨tail, written, rfl⟩⟩

end Write

namespace Reader

open Layout

variable {reader : Reader}

/-- Outside of all structures, items come next if their bytes do, and they keep to the limits. -/
lemma aheadAll_of_top {items : List Layout} (top : reader.opened = [])
    (unread : bytesOfAll items <+: reader.source.unread) (fits : ∀ item ∈ items, item.Fits)
    (within : ∀ item ∈ items, item.Within reader.config.maxValueLength)
    (depth : nestingOfAll items ≤ reader.config.maxDepth) : reader.AheadAll items := by
  induction items generalizing reader with
  | nil => trivial
  | cons first rest ih =>
    obtain ⟨unread, others⟩ := append_prefix_iff.1 unread
    obtain ⟨fit, fits⟩ := List.forall_mem_cons.1 fits
    obtain ⟨short, within⟩ := List.forall_mem_cons.1 within
    rw [nestingOfAll, Nat.max_le] at depth
    have ahead : reader.Ahead first :=
      { inside := by simp [atStop, top]
        unread, fits := fit, within := short
        depth := by simpa [Reader.depth, top] using depth.1
        room := by simp [top] }
    refine ⟨ahead, ih top ?_ fits within depth.2⟩
    rwa [unread_advance]

end Reader

namespace Read

open Reader

variable {reader middle final : Reader}

/-- A call, and then the others. -/
lemma replay_cons {call : Call} {rest : List Call} {answer : call.Answer} {replies : List Reply}
    (first : call.run reader = .ok answer middle)
    (others : replay rest middle = .ok replies final) :
    replay (call :: rest) reader = .ok (⟨call, answer, middle.offset⟩ :: replies) final := by
  rw [replay, bind_of_ok first]
  exact bind_of_ok others

/-- Calls, and then others. -/
lemma replay_append {calls more : List Call} {replies others : List Reply}
    (first : replay calls reader = .ok replies middle)
    (rest : replay more middle = .ok others final) :
    replay (calls ++ more) reader = .ok (replies ++ others) final := by
  induction calls generalizing reader replies with
  | nil =>
    obtain ⟨rfl, rfl⟩ := pure_eq_ok.1 first
    exact rest
  | cons call calls ih =>
    rw [replay] at first
    obtain ⟨answer, behind, done, others⟩ := bind_eq_ok.1 first
    obtain ⟨_, _, got, others⟩ := bind_eq_ok.1 others
    obtain ⟨rfl, rfl⟩ := EStateM.Result.ok.inj got
    obtain ⟨tail, _, later, kept⟩ := bind_eq_ok.1 others
    obtain ⟨rfl, rfl⟩ := pure_eq_ok.1 kept
    exact replay_cons done (ih later)

end Read

namespace Script

open Reader

/-- From a settled reader with the bytes of the step ahead, its calls give what they should, and take
these bytes. -/
def Replays (step : Script) : Prop :=
  ∀ {reader : Reader}, reader.Settled → reader.Ahead step.layout → step.InRange →
    Read.replay step.calls reader = .ok (step.replies reader.offset) (reader.advance step.size)

/-- Steps that are read back each are read back one after the other. -/
lemma replay_callsEach {steps : List Script} (one : ∀ step ∈ steps, step.Replays)
    {reader : Reader} (settled : reader.Settled) (ahead : reader.AheadAll (layoutEach steps))
    (range : InRangeEach steps) :
    Read.replay (callsEach steps) reader = .ok (repliesEach steps reader.offset)
      (reader.advance (Layout.bytesOfAll (layoutEach steps)).length) := by
  induction steps generalizing reader with
  | nil =>
    rw [layoutEach, Layout.bytesOfAll, List.length_nil, advance_zero]
    rfl
  | cons step rest ih =>
    obtain ⟨one, others⟩ := List.forall_mem_cons.1 one
    have first := one settled ahead.1 range.1
    have more := ih others (settled.advance step.size) ahead.2 range.2
    rw [layoutEach, Layout.bytesOfAll, List.length_append, ← advance_advance]
    exact Read.replay_append first more

/-- A single value is read back as it is read from its encoding, with its length in bytes. -/
lemma sized_of_ahead {type : ScalarType} {tag : Tag} {value : type.Content} {reader : Reader}
    (settled : reader.Settled) (ahead : reader.Ahead (scalar type tag value).layout)
    (range : type.InRange value) :
    Read.sized type tag reader = .ok (type.normal value, (scalar type tag value).size)
      (reader.advance (scalar type tag value).size) := by
  obtain ⟨shows, unread⟩ := (ahead_scalar_iff settled).1 ahead
  have size : (scalar type tag value).size =
      8 + ((type.encode value).length + paddingLength (type.encode value).length) := by
    rw [Script.size, layout, Layout.length_bytes, Layout.body, List.length_append,
      Bytes.length_zeros]
  have expected := (Read.expect_eq_ok settled.pending).2 ⟨shows, rfl⟩
  have content : Read.content type tag (type.encode value).length (reader.advance 8) =
      .ok (type.normal value) _ :=
    Read.content_eq_ok.2 ⟨type.encode value, rfl, unread, ScalarType.denotes_encode range, rfl⟩
  rw [Read.sized, Read.bind_of_ok expected, Read.bind_of_ok content, size, advance_advance,
    Nat.add_assoc]
  rfl

/-- Every step is read back. -/
lemma replays (step : Script) : step.Replays := by
  induction step with
  | scalar type tag value =>
    intro reader settled ahead range
    have read : (Call.typed type tag).run reader = _ := sized_of_ahead settled ahead range
    exact Read.replay_cons read rfl
  | structured tag steps ih =>
    intro reader settled ahead range
    obtain ⟨shows, shallow, room, inner⟩ := (ahead_structured_iff settled).1 ahead
    let length := (Layout.bytesOfAll (layoutEach steps)).length
    let entered := (reader.advance 8).entering tag length
    have size : (structured tag steps).size = 8 + length := Layout.length_bytes _
    have start : (Call.structureStart tag).run reader = .ok () entered :=
      Read.bind_eq_ok.2 ⟨length, _, (Read.expect_eq_ok settled.pending).2 ⟨shows, rfl⟩,
        Read.enter_eq_ok.2 ⟨shallow, room, rfl⟩⟩
    have content : Read.replay (callsEach steps) entered =
        .ok (repliesEach steps entered.offset) (entered.advance length) :=
      replay_callsEach ih ((settled.advance 8).entering shallow tag length) inner range
    have stop : Call.structureEnd.run (entered.advance length) =
        .ok () (reader.advance (8 + length)) :=
      (structureEnd_entering settled).2 ⟨rfl, rfl⟩
    rw [calls, replies, size]
    exact Read.replay_cons start (Read.replay_append content (Read.replay_cons stop rfl))

/-- Steps that a sink without a bound has taken are read back by their calls, if the reader allows for
their nesting and for the lengths of their values. The calls give the values in their order, a
date-time cut to its whole second, and for each value how many bytes it took to write it, which is
how far the reader goes on. Then no tag comes next, and nothing is left. Wherever a step is written,
it adds as many bytes, in whole groups of eight. -/
theorem replay_written {steps : List Script} {sink : Sink} {source : Source} {config : Config}
    (written : writeEach steps .empty = .ok () sink) (unread : source.unread = sink.written)
    (closed : source.ending = .closed)
    (shallow : Layout.nestingOfAll (layoutEach steps) ≤ config.maxDepth)
    (short : ∀ layout ∈ layoutEach steps, layout.Within config.maxValueLength)
    (range : InRangeEach steps) :
    (∃ final, Read.replay (callsEach steps ++ [.peek, .finish]) (.start source config) =
      .ok (repliesEach steps 0 ++
        [⟨.peek, none, sink.written.length⟩, ⟨.finish, (), sink.written.length⟩]) final) ∧
    ∀ (step : Script) (before behind : Sink), before.room = none →
      step.write before = .ok () behind →
        ∃ added, behind = { before with written := before.written ++ added } ∧
          added.length = step.size ∧ step.size % 8 = 0 := by
  constructor
  · rw [writeEach_eq fun step _ => step.write_eq] at written
    obtain ⟨content, together, rfl⟩ := (Write.each_eq_ok rfl).1 written
    obtain ⟨fits, rfl⟩ := (concat_eq_ok fun step _ => step.encode_eq_ok).1 together
    let whole := Layout.bytesOfAll (layoutEach steps)
    replace unread : (start source config).source.unread = whole := unread
    have ahead : (start source config).AheadAll (layoutEach steps) :=
      aheadAll_of_top rfl (unread ▸ List.prefix_rfl) fits short shallow
    have settled : (start source config).Settled := settled_start source
    have read := replay_callsEach (fun step _ => step.replays) settled ahead range
    -- all bytes have been taken, so that nothing comes next
    let behind : Reader := (start source config).advance whole.length
    let seen : Reader := { behind with source := behind.source.drained }
    have used : behind.source.unread = [] := by rw [unread_advance, unread, List.drop_length]
    have nothing : Call.peek.run behind = .ok none seen :=
      Read.bind_eq_ok.2 ⟨none, seen, (Read.header?_eq_none_top rfl rfl).2 ⟨used, closed, rfl⟩,
        Read.pure_eq_ok.2 ⟨rfl, rfl⟩⟩
    have finished : Call.finish.run seen = .ok () seen := Read.finish_eq_ok.2 ⟨closed, rfl, rfl⟩
    have offset : seen.offset = whole.length := Nat.zero_add _
    have last : Read.replay [.peek, .finish] behind =
        .ok [⟨.peek, none, seen.offset⟩, ⟨.finish, (), seen.offset⟩] seen :=
      Read.replay_cons nothing (Read.replay_cons finished rfl)
    rw [offset] at last
    exact ⟨seen, Read.replay_append read last⟩
  · intro step before behind unlimited written
    rw [write_eq] at written
    obtain ⟨added, encoded, rfl⟩ := (Write.item_eq_ok unlimited).1 written
    obtain ⟨-, rfl⟩ := step.encode_eq_ok.1 encoded
    exact ⟨_, rfl, rfl, step.layout.length_bytes_mod⟩

/-- A header with a version, an instant before 1970 with a fraction, and an empty structure is written
in front of a text. Seventy-two bytes are read back, the instant as its whole second. -/
theorem replay_written_requestHeader :
    let text : Script := .scalar .textString .uniqueIdentifier "ab"
    let steps : List Script :=
      [.structured .requestHeader
        [.structured .protocolVersion [.scalar .integer .protocolVersionMajor 1],
          .scalar .dateTime .timeStamp ⟨-1, .last, 3600⟩, .structured .authentication []], text]
    let bytes : Bytes :=
      [0x42, 0, 0x77, 1, 0, 0, 0, 48, 0x42, 0, 0x69, 1, 0, 0, 0, 16,
        0x42, 0, 0x6A, 2, 0, 0, 0, 4, 0, 0, 0, 1, 0, 0, 0, 0,
        0x42, 0, 0x92, 9, 0, 0, 0, 8, 255, 255, 255, 255, 255, 255, 255, 255,
        0x42, 0, 0x0C, 1, 0, 0, 0, 0, 0x42, 0, 0x94, 7, 0, 0, 0, 2, 97, 98, 0, 0, 0, 0, 0, 0]
    let config : Config := { maxDepth := 2, maxValueLength := 8 }
    let sink (written : Bytes) : Sink := { Sink.empty with written }
    writeEach steps .empty = .ok () (sink bytes) ∧
      (∃ final, Read.replay (callsEach steps ++ [.peek, .finish]) (.start (.ofBytes bytes) config) =
        .ok [⟨.structureStart .requestHeader, (), 8⟩, ⟨.structureStart .protocolVersion, (), 16⟩,
          ⟨.typed .integer .protocolVersionMajor, (1, 16), 32⟩, ⟨.structureEnd, (), 32⟩,
          ⟨.typed .dateTime .timeStamp, (.ofSeconds (-1), 16), 48⟩,
          ⟨.structureStart .authentication, (), 56⟩, ⟨.structureEnd, (), 56⟩,
          ⟨.structureEnd, (), 56⟩, ⟨.typed .textString .uniqueIdentifier, ("ab", 16), 72⟩,
          ⟨.peek, none, 72⟩, ⟨.finish, (), 72⟩] final) ∧
      ∃ added, text.write (sink (bytes.take 56)) = .ok () (sink (bytes.take 56 ++ added)) ∧
        added.length = 16 := by
  intro text steps bytes config sink
  have written : writeEach steps .empty = .ok () (sink bytes) := by
    rw [writeEach_eq fun step _ => step.write_eq]
    exact (Write.each_eq_ok rfl).2 ⟨bytes, by decide +kernel, rfl⟩
  have short : ∀ layout ∈ layoutEach steps, layout.Within config.maxValueLength := by
    simp only [steps, text, layoutEach, layout, List.forall_mem_cons, List.not_mem_nil,
      false_imp_iff, implies_true, and_true, Layout.within_structured, Layout.within_scalar]
    decide
  have range : InRangeEach steps :=
    ⟨⟨⟨trivial, trivial⟩, ⟨by decide, by decide⟩, trivial, trivial⟩, trivial, trivial⟩
  have unread : (Source.ofBytes bytes).unread = bytes := Source.unread_ofBytes bytes
  have shallow : Layout.nestingOfAll (layoutEach steps) ≤ config.maxDepth := by decide
  obtain ⟨⟨final, read⟩, adds⟩ := replay_written written unread rfl shallow short range
  -- the text is added to what has been written before it
  have last : text.write (sink (bytes.take 56)) = .ok () (sink bytes) := by
    rw [write_eq]
    exact (Write.item_eq_ok rfl).2 ⟨bytes.drop 56, by decide +kernel, rfl⟩
  obtain ⟨added, whole, length, -⟩ := adds _ _ _ rfl last
  exact ⟨written, ⟨final, read⟩, added, last.trans (congrArg _ whole), length⟩

end Script

end Kmip
