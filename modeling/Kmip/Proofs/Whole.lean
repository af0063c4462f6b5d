import Kmip.Attributes
import Kmip.Proofs.Writer

/-!
# A sink holds whole items

A sink that never fails is never left with a part of an item (`Write.Call.whole_of_step`). A call for
a single item that fails leaves the sink as it was, however deep in the item the fault lies; a call
for several items leaves those in front of the one that is refused.
-/

namespace Kmip

/-- A field has at most one value. -/
lemma Presence.length_values_le {α : Type} (presence : Presence) (value : presence.Val α) :
    (presence.values value).length ≤ 1 := by
  rw [values, Option.length_toList]
  split <;> omega

namespace Write

/-- What is left in a sink without a bound. -/
lemma outcome_of_unlimited {added : Bytes} {result : Except Fault Unit} {sink : Sink}
    (unlimited : sink.room = none) :
    outcome added result sink = (result, { sink with written := sink.written ++ added }) := by
  rw [outcome, unlimited]

/-- A value that has at most one encoding, and is refused, stands behind values that have been
written. -/
lemma exists_refused {α : Type} {encode : α → List Encoded} {values : List α} {fault : Fault}
    (single : ∀ value, (encode value).length ≤ 1)
    (refused : Encoded.verdict (values.flatMap encode) = .error fault) :
    ∃ (front : List α) (one : α) (back : List α) (each : List Bytes),
      values = front ++ one :: back ∧ front.flatMap encode = each.map .ok ∧
        encode one = [.error fault] ∧ Encoded.front (values.flatMap encode) = each.flatten := by
  induction values with
  | nil => cases refused
  | cons value rest ih =>
    have few := single value
    rw [List.flatMap_cons] at refused ⊢
    cases encoded : encode value with
    | nil =>
      -- nothing is written for this value
      rw [encoded] at refused
      obtain ⟨front, one, back, each, rfl, written, stop, bytes⟩ := ih refused
      refine ⟨value :: front, one, back, each, rfl, ?_, stop, bytes⟩
      rw [List.flatMap_cons, encoded, List.nil_append, written]
    | cons first others =>
      rw [encoded, List.length_cons] at few
      obtain rfl : others = [] := List.length_eq_zero_iff.1 (by omega)
      rw [encoded] at refused
      cases first with
      | error other =>
        obtain rfl : other = fault := Except.error.inj refused
        exact ⟨[], value, rest, [], rfl, rfl, encoded, rfl⟩
      | ok bytes =>
        obtain ⟨front, one, back, each, rfl, written, stop, more⟩ := ih refused
        refine ⟨value :: front, one, back, bytes :: each, rfl, ?_, stop, congrArg (bytes ++ ·) more⟩
        rw [List.flatMap_cons, encoded, written]
        rfl

namespace Call

/-- What a call that fails leaves: of a single item nothing, and of several items the encodings of
those in front of the one that is refused. -/
def Leaves (fault : Fault) (before after : Sink) : Call → Prop
  | .repeated tag presence shape values =>
    ∃ (front : List (presence.Val shape.Val)) (refused : presence.Val shape.Val)
      (back : List (presence.Val shape.Val)) (each : List Bytes),
      values = front ++ refused :: back ∧
      (front.flatMap fun value => (presence.values value).map (shape.encode tag)) =
        each.map .ok ∧
      (presence.values refused).map (shape.encode tag) = [.error fault] ∧
      after = { before with written := before.written ++ each.flatten }
  | .embedded record value =>
    ∃ (each : List Bytes) (back : List Encoded),
      record.fields.encodeEach record.name value = each.map .ok ++ .error fault :: back ∧
      after = { before with written := before.written ++ each.flatten }
  | .typed .. | .item .. | .valueAs .. | .structured .. | .field .. => after = before

/-- If there is but one item, nothing stands in front of its refusal. -/
lemma eq_of_single {parts : List Encoded} {each : List Bytes} {back : List Encoded} {fault : Fault}
    {sink : Sink} (split : parts = each.map .ok ++ .error fault :: back) (single : parts.length ≤ 1) :
    { sink with written := sink.written ++ each.flatten } = sink := by
  have length := congrArg List.length split
  rw [List.length_append, List.length_map, List.length_cons] at length
  obtain rfl : each = [] := List.length_eq_zero_iff.1 (by omega)
  rw [List.flatten_nil, List.append_nil]

variable {call : Call} {sink next : Sink} {fault : Fault}

/-- A call that fails writes what stands in front of the item that is refused. -/
lemma exists_of_error (unlimited : sink.room = none) (failed : call.step sink = .error fault next) :
    Encoded.verdict call.parts = .error fault ∧
      next = { sink with written := sink.written ++ Encoded.front call.parts } := by
  have ran := call.run_step sink
  rw [run, failed, outcome_of_unlimited unlimited] at ran
  obtain ⟨refused, left⟩ := Prod.mk.inj ran
  exact ⟨refused.symm, left⟩

/-- A call that fails leaves whole items, and none of a single item. -/
lemma leaves_of_error (unlimited : sink.room = none)
    (failed : call.step sink = .error fault next) : call.Leaves fault sink next := by
  obtain ⟨refused, rfl⟩ := exists_of_error unlimited failed
  obtain ⟨each, back, split, written⟩ := Encoded.eq_of_verdict_error refused
  cases call with
  | repeated tag presence shape values =>
    obtain ⟨front, one, back, each, rfl, written, stop, bytes⟩ := exists_refused
      (fun value => (List.length_map _).trans_le (presence.length_values_le value)) refused
    exact ⟨front, one, back, each, rfl, written, stop, by rw [parts, bytes]⟩
  | embedded record value => exact ⟨each, back, split, by rw [written]⟩
  | field tag presence shape value =>
    rw [Leaves, written]
    exact eq_of_single split ((List.length_map _).trans_le (presence.length_values_le value))
  | typed | item | valueAs | structured =>
    rw [Leaves, written]
    exact eq_of_single split (Nat.le_refl 1)

/-- A structure is written as a whole around whatever its content writes into the buffer, or not at
all. -/
lemma structured_whole (unlimited : sink.room = none) (tag : Tag) (content : Write) :
    (Write.structured tag content sink = .ok () next → ∃ bytes : Bytes,
      (do Encoded.frame tag .structured (← buffered content)) = .ok bytes ∧
        next = { sink with written := sink.written ++ bytes }) ∧
    (Write.structured tag content sink = .error fault next → next = sink) := by
  rw [structured_eq]
  exact ⟨(item_eq_ok unlimited).1, fun failed => ((item_eq_error unlimited).1 failed).2⟩

/-- On a sink that never fails, a call that succeeds adds the encodings of all its items, and a call
that fails leaves the sink as it was, if it is for a single item: a value, an item, a structure
around other calls, or a field. A call for several items leaves behind what was in the sink the
encodings of exactly those in front of the one that is refused. The content of a structure need not
be made of calls: whatever it does with its buffer, a structure is in the sink as a whole, or the
sink is as it was. -/
theorem whole_of_step (unlimited : sink.room = none) :
    (call.step sink = .ok () next → ∃ each : List Bytes, call.parts = each.map .ok ∧
      next = { sink with written := sink.written ++ each.flatten }) ∧
    (call.step sink = .error fault next → call.Leaves fault sink next) ∧
    ∀ (tag : Tag) (content : Write),
      (Write.structured tag content sink = .ok () next → ∃ bytes : Bytes,
        (do Encoded.frame tag .structured (← buffered content)) = .ok bytes ∧
          next = { sink with written := sink.written ++ bytes }) ∧
      (Write.structured tag content sink = .error fault next → next = sink) := by
  refine ⟨fun done => ?_, leaves_of_error unlimited, structured_whole unlimited⟩
  have ran := call.run_step sink
  rw [run, done, outcome_of_unlimited unlimited] at ran
  obtain ⟨whole, left⟩ := Prod.mk.inj ran
  obtain ⟨each, parts, written⟩ := Encoded.eq_of_verdict_ok whole.symm
  exact ⟨each, parts, by rw [left, written]⟩

/-- Two attributes, of which the second has a text where its name asks for a state. As fields they
leave the first attribute in the sink, and as a structure nothing at all. -/
theorem whole_of_step_attributes :
    let sink : Sink := ⟨[1], none, ⟨.other, ""⟩⟩
    let custom : AttributeValue :=
      .inr (.inr (.inr (.inr (.inr (.inr (.inr (.inr (.inr (.inr (.inr
        (.scalar .boolean true)))))))))))
    let attributes := Attributes.ofList
      [.ofValue "x-a" none custom, .ofValue "State" none (.inl "x")]
    let first : Bytes :=
      [0x42, 0, 8, 1, 0, 0, 0, 0x20, 0x42, 0, 0x0A, 7, 0, 0, 0, 3, 0x78, 0x2D, 0x61, 0, 0, 0, 0, 0,
        0x42, 0, 0x0B, 6, 0, 0, 0, 8, 0, 0, 0, 0, 0, 0, 0, 1]
    let fault := Fault.mismatched "attribute" "State"
    let several := Call.embedded Records.attributes attributes
    let single := Call.field .attributeList .required Records.attributes attributes
    let left : Sink := ⟨1 :: first, none, ⟨.other, ""⟩⟩
    several.step sink = .error fault left ∧ several.Leaves fault sink left ∧
      single.step sink = .error fault sink ∧ single.Leaves fault sink sink := by
  intro sink custom attributes first fault several single left
  have embedded : several.step sink = .error fault left := by rfl
  have field : single.step sink = .error fault sink := by rfl
  exact ⟨embedded, (whole_of_step rfl).2.1 embedded, field, (whole_of_step rfl).2.1 field⟩

end Call

end Write

end Kmip
