import Kmip.Proofs.Writer
import Kmip.Tag.Named

/-!
# Sinks without room

A sink that takes so many bytes holds the first so many of what a sink without a bound would have
been given, whatever calls are made (`Write.runEach_limited`). No encoding is refused with the fault
of a sink, so that such a fault tells that the room did not suffice. It need not be a report of the
sink: one that fails as if its bytes had ended is taken for their end (`Write.runEach_unexpectedEnd`).
-/

namespace Kmip

/-- Whether a fault can come of a sink or a source that fails. -/
def Fault.isBreakdown : Fault → Bool
  | io _ | endOfInput => true
  | _ => false

/-- What comes of a failure can. -/
lemma Breakdown.isBreakdown_fault (breakdown : Breakdown) : breakdown.fault.isBreakdown := by
  obtain same | same := breakdown.fault_eq <;> rw [same] <;> rfl

/-- What goes wrong has nothing to do with a sink or a source. -/
def Encoded.Quiet {α : Type} (result : Except Fault α) : Prop :=
  ∀ fault, result = .error fault → ¬ fault.isBreakdown

namespace Encoded

variable {α β : Type}

lemma quiet_ok (value : α) : Quiet (.ok value : Except Fault α) :=
  fun _ => nofun

lemma Quiet.bind {first : Except Fault α} {next : α → Except Fault β} (head : Quiet first)
    (tail : ∀ value, Quiet (next value)) : Quiet (first >>= next) := by
  cases first with
  | ok value => exact tail value
  | error fault =>
    intro other failed
    exact head other (congrArg Except.error (Except.error.inj failed))

/-- A refusal with a fault that does not come of a sink. -/
lemma quiet_error {fault : Fault} (plain : ¬ fault.isBreakdown) :
    Quiet (.error fault : Except Fault α) :=
  fun _ same => Except.error.inj same ▸ plain

lemma quiet_frame (tag : Tag) (type : ItemType) (content : Bytes) :
    Quiet (frame tag type content) := by
  unfold frame
  split
  · exact quiet_error Bool.false_ne_true
  · split
    · exact quiet_error Bool.false_ne_true
    · exact quiet_ok _

lemma quiet_concat {items : List Encoded} (each : ∀ item ∈ items, Quiet item) :
    Quiet (concat items) := by
  induction items with
  | nil => exact quiet_ok _
  | cons first rest ih =>
    obtain ⟨head, tail⟩ := List.forall_mem_cons.1 each
    exact head.bind fun _ => (ih tail).bind fun _ => quiet_ok _

lemma quiet_structured (tag : Tag) {items : List Encoded} (each : ∀ item ∈ items, Quiet item) :
    Quiet (structured tag items) :=
  (quiet_concat each).bind (quiet_frame tag .structured)

lemma quiet_verdict {items : List Encoded} (each : ∀ item ∈ items, Quiet item) :
    Quiet (verdict items) := by
  induction items with
  | nil => exact quiet_ok _
  | cons first rest ih =>
    obtain ⟨head, tail⟩ := List.forall_mem_cons.1 each
    cases first with
    | ok bytes => exact ih tail
    | error fault =>
      intro other failed
      exact head other (congrArg Except.error (Except.error.inj failed))

end Encoded

open Encoded

/-- A text that names no tag has nothing to do with a sink. -/
lemma Tag.quiet_ofText (text : String) : Quiet ((ofText text).mapError Fault.badTag) := by
  cases ofText text with
  | ok tag => exact quiet_ok tag
  | error fault => exact quiet_error Bool.false_ne_true

lemma Value.quiet_encode (value : Value) : ∀ tag, Quiet (value.encode tag) := by
  induction value with
  | scalar type content => exact fun tag => quiet_frame tag _ _
  | structured items ih =>
    intro tag
    rw [encode, Item.encodeEach_eq]
    refine quiet_structured tag (List.forall_mem_map.2 fun item mem => ?_)
    exact (Tag.quiet_ofText item.tag).bind (ih item mem)

lemma Item.quiet_encode (item : Item) : Quiet item.encode :=
  (Tag.quiet_ofText item.tag).bind item.value.quiet_encode

lemma Leaf.quiet_encode (leaf : Leaf) (tag : Tag) (value : leaf.Val) :
    Quiet (leaf.encode tag value) := by
  cases leaf with
  | interval =>
    refine Quiet.bind ?_ fun seconds => quiet_frame tag _ _
    unfold intervalSeconds
    split
    · exact quiet_error Bool.false_ne_true
    · split
      · exact quiet_error Bool.false_ne_true
      · exact quiet_ok _
  | anything => exact Value.quiet_encode value tag
  | integer | longInteger | bigInteger | boolean | text | bytes | dateTime | timeStamp
  | enumeration | usageMask => exact quiet_frame tag _ _

/-- A check of a variant has nothing to do with a sink. -/
lemma Selection.quiet_check (selection : Selection) (variants : Variants) (value : variants.Val) :
    Quiet (selection.check variants value) := by
  unfold check
  split
  · exact quiet_error Bool.false_ne_true
  · split
    · exact quiet_ok _
    · exact quiet_error Bool.false_ne_true

mutual

lemma Shape.quiet_encode (shape : Shape) (tag : Tag) (value : shape.Val) :
    Quiet (shape.encode tag value) := by
  cases shape with
  | leaf leaf => exact leaf.quiet_encode tag value
  | choice variants => exact variants.quiet_encode tag value
  | record name own fields => exact quiet_structured tag (fields.quiet_encodeEach name value)

lemma Fields.quiet_encodeEach (fields : Fields) (record : String) (values : fields.Val) :
    ∀ item ∈ fields.encodeEach record values, Quiet item := by
  cases fields with
  | nil => exact List.forall_mem_nil _
  | one presence tag label shape rest =>
    obtain ⟨value, values⟩ := values
    rw [Fields.encodeEach, Presence.map_toList]
    exact List.forall_mem_append.2 ⟨List.forall_mem_map.2 fun one _ => shape.quiet_encode tag one,
      rest.quiet_encodeEach record values⟩
  | many atLeastOne tag label shape rest =>
    obtain ⟨items, values⟩ := values
    refine List.forall_mem_append.2 ⟨?_, rest.quiet_encodeEach record values⟩
    split
    · exact List.forall_mem_singleton.2 (quiet_error Bool.false_ne_true)
    · exact List.forall_mem_map.2 fun item _ => shape.quiet_encode tag item
  | embedded label name tag fields rest =>
    obtain ⟨inner, values⟩ := values
    exact List.forall_mem_append.2
      ⟨fields.quiet_encodeEach name inner, rest.quiet_encodeEach record values⟩
  | keyed selector keyTag keyLabel between presence tag label variants rest =>
    obtain ⟨key, inner, value, values⟩ := values
    rw [Fields.encodeEach, Presence.map_toList]
    have chosen (one : variants.Val) :=
      ((Selection.of selector key).quiet_check variants one).bind fun _ =>
        variants.quiet_encode tag one
    simp only [List.forall_mem_append, List.forall_mem_cons, List.forall_mem_map]
    exact ⟨⟨⟨selector.leaf.quiet_encode keyTag key, between.quiet_encodeEach record inner⟩,
      fun one _ => chosen one⟩, rest.quiet_encodeEach record values⟩

lemma Variants.quiet_encode (variants : Variants) (tag : Tag) (value : variants.Val) :
    Quiet (variants.encode tag value) := by
  cases variants with
  | only label shape => exact shape.quiet_encode tag value
  | or label shape rest =>
    cases value with
    | inl value => exact shape.quiet_encode tag value
    | inr value => exact rest.quiet_encode tag value

end

namespace Write

/-- Whether a call has failed because the sink did. -/
def lacksRoom : Except Fault Unit → Bool
  | .ok _ => false
  | .error fault => fault.isBreakdown

lemma lacksRoom_of_quiet {result : Except Fault Unit} (quiet : Quiet result) :
    lacksRoom result = false := by
  cases result with
  | ok => rfl
  | error fault => exact Bool.eq_false_iff.2 (quiet fault rfl)

lemma lacksRoom_fault (breakdown : Breakdown) : lacksRoom (.error breakdown.fault) = true :=
  breakdown.isBreakdown_fault

namespace Call

/-- What calls encode does not fail as a sink does, if that is so of each. -/
lemma quiet_partsEach {calls : List Call}
    (one : ∀ call ∈ calls, ∀ part ∈ call.parts, Quiet part) : ∀ part ∈ partsEach calls, Quiet part := by
  induction calls with
  | nil => exact List.forall_mem_nil _
  | cons first rest ih =>
    obtain ⟨head, tail⟩ := List.forall_mem_cons.1 one
    exact List.forall_mem_append.2 ⟨head, ih tail⟩

/-- What is encoded for a call does not fail as a sink does. -/
lemma quiet_parts (call : Call) : ∀ part ∈ call.parts, Quiet part := by
  induction call with
  | typed type tag value => exact List.forall_mem_singleton.2 (quiet_frame tag _ _)
  | item held => exact List.forall_mem_singleton.2 held.quiet_encode
  | valueAs tag value => exact List.forall_mem_singleton.2 (value.quiet_encode tag)
  | structured tag content ih =>
    exact List.forall_mem_singleton.2 (quiet_structured tag (quiet_partsEach ih))
  | field tag presence shape value =>
    exact List.forall_mem_map.2 fun one _ => shape.quiet_encode tag one
  | repeated tag presence shape values =>
    intro part mem
    obtain ⟨value, -, mem⟩ := List.mem_flatMap.1 mem
    obtain ⟨one, -, rfl⟩ := List.mem_map.1 mem
    exact shape.quiet_encode tag one
  | embedded record value => exact record.fields.quiet_encodeEach record.name value

/-- What a call writes if there is room for it. -/
def added (call : Call) : Bytes :=
  front call.parts

/-- How a call ends if there is room for what it writes. -/
def result (call : Call) : Except Fault Unit :=
  verdict call.parts

/-- It does not end as if there were none. -/
lemma lacksRoom_result (call : Call) : lacksRoom call.result = false :=
  lacksRoom_of_quiet (quiet_verdict call.quiet_parts)

end Call

variable {calls : List Call} {sink : Sink} {room : Nat}

/-- A sink without a bound is given all that is written. -/
lemma runEach_of_unlimited (unlimited : sink.room = none) :
    runEach (calls.map Call.step) sink = (calls.map Call.result,
      { sink with written := sink.written ++ calls.flatMap Call.added }) := by
  induction calls generalizing sink with
  | nil => simp [runEach]
  | cons call rest ih =>
    have first : run call.step sink =
        (call.result, { sink with written := sink.written ++ call.added }) := by
      rw [call.run_step, outcome, unlimited]
      rfl
    have others := @ih { sink with written := sink.written ++ call.added } unlimited
    simp only [List.map_cons, runEach, first, others, List.flatMap_cons, List.append_assoc]

/-- What a call makes of a sink with a bound. -/
def Call.cut (call : Call) (room : Nat) (sink : Sink) : Sink :=
  { sink with
    written := sink.written ++ call.added.take room, room := some (room - call.added.length) }

/-- On a sink with a bound a call ends as it would without, if its bytes fit. -/
lemma run_of_limited (call : Call) (limited : sink.room = some room) :
    run call.step sink =
      (if call.added.length ≤ room then call.result else .error sink.breakdown.fault,
        call.cut room sink) := by
  rw [call.run_step, outcome, limited]
  rfl

/-- A sink with a bound holds as many of the bytes as it takes. -/
lemma written_of_limited (limited : sink.room = some room) :
    (runEach (calls.map Call.step) sink).2.written =
      sink.written ++ (calls.flatMap Call.added).take room := by
  induction calls generalizing sink room with
  | nil => simp [runEach]
  | cons call rest ih =>
    have others := @ih (call.cut room sink) _ rfl
    simp only [List.map_cons, runEach, run_of_limited call limited, others, List.flatMap_cons,
      List.take_append]
    exact List.append_assoc ..

/-- Some call fails for want of room exactly if the bytes do not fit. -/
lemma lacksRoom_iff_of_limited (limited : sink.room = some room) :
    (∃ result ∈ (runEach (calls.map Call.step) sink).1, lacksRoom result) ↔
      room < (calls.flatMap Call.added).length := by
  induction calls generalizing sink room with
  | nil => simp [runEach]
  | cons call rest ih =>
    have others := @ih (call.cut room sink) _ rfl
    simp only [List.map_cons, runEach, run_of_limited call limited, List.exists_mem_cons_iff, others,
      List.flatMap_cons, List.length_append]
    split
    · simp only [call.lacksRoom_result, Bool.false_eq_true, false_or]
      omega
    · simp only [lacksRoom_fault, true_or, true_iff]
      omega

/-- A call that fails for want of room fails as the sink does. -/
lemma eq_of_lacksRoom (limited : sink.room = some room) :
    ∀ result ∈ (runEach (calls.map Call.step) sink).1, lacksRoom result →
      result = .error sink.breakdown.fault := by
  induction calls generalizing sink room with
  | nil => exact List.forall_mem_nil _
  | cons call rest ih =>
    have others := @ih (call.cut room sink) _ rfl
    simp only [List.map_cons, runEach, run_of_limited call limited]
    refine List.forall_mem_cons.2 ⟨fun lacks => ?_, others⟩
    split at lacks
    · rw [call.lacksRoom_result] at lacks
      cases lacks
    · next beyond => rw [if_neg beyond]

/-- Up to the first call that fails for want of room, calls end as they would without a bound. -/
lemma takeWhile_of_limited (limited : sink.room = some room) :
    (runEach (calls.map Call.step) sink).1.takeWhile (fun result => !lacksRoom result) <+:
      calls.map Call.result := by
  induction calls generalizing sink room with
  | nil => exact List.nil_prefix
  | cons call rest ih =>
    have others := @ih (call.cut room sink) _ rfl
    simp only [List.map_cons, runEach, run_of_limited call limited, List.takeWhile_cons]
    split
    · split
      · exact (List.prefix_cons_inj _).2 others
      · exact List.nil_prefix
    · rw [lacksRoom_fault]
      exact List.nil_prefix

/-- Calls made one after the other, whether or not those before have failed, on a sink that takes so
many bytes in all and then fails. The sink ends up with the first so many of the bytes that a sink
without a bound is given. Some call fails for want of room exactly if these are more than it takes,
and then with the fault that comes of the failure of the sink. All calls in front of the first that
does end as they do without a bound. -/
theorem runEach_limited (calls : List Call) (room : Nat) (breakdown : Breakdown) :
    let whole := runEach (calls.map Call.step) .empty
    let cut := runEach (calls.map Call.step) (.limited room breakdown)
    cut.2.written = whole.2.written.take room ∧
      ((∃ result ∈ cut.1, lacksRoom result) ↔ room < whole.2.written.length) ∧
      (∀ result ∈ cut.1, lacksRoom result → result = .error breakdown.fault) ∧
      cut.1.takeWhile (fun result => !lacksRoom result) <+: whole.1 := by
  intro whole cut
  have all : whole = (calls.map Call.result, { Sink.empty with
      written := [] ++ calls.flatMap Call.added }) := runEach_of_unlimited rfl
  rw [all]
  exact ⟨written_of_limited rfl, lacksRoom_iff_of_limited rfl, eq_of_lacksRoom rfl,
    takeWhile_of_limited rfl⟩

/-- A sink without room that fails as if its bytes had ended: a number does not fit, and no call
reports a failure of the sink. -/
theorem runEach_unexpectedEnd :
    let calls : List Call := [.typed .integer .batchCount 1]
    let whole := runEach (calls.map Call.step) .empty
    let cut := runEach (calls.map Call.step) (.limited 0 ⟨.unexpectedEnd, "closed"⟩)
    0 < whole.2.written.length ∧ cut.1 = [.error .endOfInput] ∧
      ∀ report, .error (.io report) ∉ cut.1 := by
  intro calls whole cut
  have results : cut.1 = [.error .endOfInput] := by rfl
  refine ⟨by decide +kernel, results, fun report mem => ?_⟩
  rw [results, List.mem_singleton] at mem
  cases mem

/-- A number, a structure of a truth value, and a text, on a sink that takes twenty bytes: the header
of the structure is cut in two, and nothing comes behind it. -/
example :
    let calls : List Call :=
      [.typed .integer .batchCount 1,
        .structured .authentication [.typed .boolean .asynchronousIndicator true],
        .typed .textString .uniqueIdentifier ""]
    let whole := runEach (calls.map Call.step) .empty
    let cut := runEach (calls.map Call.step) (.limited 20 ⟨.other, "sink full"⟩)
    whole.2.written.length = 48 ∧ cut.2.written = whole.2.written.take 20 ∧
      cut.1 = [.ok (), .error (.io "sink full"), .error (.io "sink full")] := by
  decide +kernel

end Write

end Kmip
