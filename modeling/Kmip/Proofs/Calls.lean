import Kmip.Proofs.Coherent
import Kmip.Tag.Named

/-!
# Calls in any order

Whoever uses a reader may call its steps in any order, and may go on after a failure. What a reader
keeps account of is right after every such sequence of calls (`Reader.coherent_after`).
-/

namespace Kmip

/-- Makes a step, and leaves aside what it gives. -/
def Read.discard {α : Type} (step : Read α) : Read Unit := do
  let _ ← step
  pure ()

namespace Read

variable {α : Type}

lemma Careful.discard {step : Read α} (careful : Careful step) : Careful step.discard :=
  careful.bind fun _ => careful_pure _

lemma Steady.discard {least : Nat} {step : Read α} (steady : Steady least step) :
    Steady least step.discard :=
  steady.bind fun _ => steady_pure _

end Read

/-- A call of one of the steps that a reader offers. -/
inductive Call where
  /-- The value of the next item, which must have this type and this tag. -/
  | typed (type : ScalarType) (tag : Tag)
  /-- The next tag, without taking the item. -/
  | peek
  | structureStart (tag : Tag)
  | structureEnd
  | skip
  /-- The next item, whatever it is. -/
  | item
  /-- The value of the next item, which must have this tag. -/
  | valueAs (tag : Tag)
  /-- The next item as a field, or as one of many, that goes on from a value. -/
  | field (tag : Tag) (shape : Shape) (value : shape.Val)
  /-- The fields of a record, as part of the innermost structure. -/
  | embedded (record : String) (known : List Tag) (fields : Fields) (values : fields.Val)
  | finish

namespace Call

/-- The step that is called. -/
def step : (call : Call) → Read Unit
  | typed type tag => Read.discard (Read.sized type tag)
  | peek => Read.discard Read.tag?
  | structureStart tag => Read.structureStart tag
  | structureEnd => Read.structureEnd
  | skip => Read.skip
  | item => Read.discard Read.item
  | valueAs tag => Read.discard (Read.valueAs tag)
  | field tag shape value => Read.discard (shape.read tag value)
  | embedded record known fields values => Read.discard (fields.read record known values)
  | finish => Read.finish

/-- What a call gives where it succeeds. -/
def Answer : (call : Call) → Type
  | typed type _ => type.Content × Nat
  | peek => Option Tag
  | item => Item
  | valueAs _ => Value
  | field _ shape _ => shape.Val
  | embedded _ _ fields _ => fields.Val
  | structureStart _ | structureEnd | skip | finish => Unit

/-- The step that is called, with what it gives. -/
def run : (call : Call) → Read call.Answer
  | typed type tag => Read.sized type tag
  | peek => Read.tag?
  | structureStart tag => Read.structureStart tag
  | structureEnd => Read.structureEnd
  | skip => Read.skip
  | item => Read.item
  | valueAs tag => Read.valueAs tag
  | field tag shape value => shape.read tag value
  | embedded record known fields values => fields.read record known values
  | finish => Read.finish

/-- A call is made in the same way whether or not what it gives is of interest. -/
lemma discard_run (call : Call) : call.run.discard = call.step := by
  cases call with
  | structureStart | structureEnd | skip | finish => exact bind_pure_unit
  | typed | peek | item | valueAs | field | embedded => rfl

/-- The reader that a call leaves, whether it succeeds or fails. -/
def next (call : Call) (reader : Reader) : Reader :=
  match call.step reader with
  | .ok _ final => final
  | .error _ final => final

/-- Whether the call is for whole items, and not for the start or the end of a structure only. -/
def isWhole : (call : Call) → Bool
  | structureStart _ | structureEnd => false
  | _ => true

variable {reader final : Reader}

lemma careful_step (call : Call) : Read.Careful call.step := by
  cases call with
  | typed type tag => exact (Read.kept_careful.sized type tag).discard
  | peek => exact .discard Read.kept_careful.tag?
  | structureStart tag => exact Read.kept_careful.structureStart tag
  | structureEnd => exact Read.careful_structureEnd
  | skip => exact Read.kept_careful.skip
  | item => exact .discard Read.kept_careful.item
  | valueAs tag => exact (Read.kept_careful.valueAs tag).discard
  | field tag shape value => exact (Read.closed_careful.shape tag shape value).discard
  | embedded record known fields values =>
    exact (Read.closed_careful.fields record known fields values).discard
  | finish => exact Read.careful_finish

/-- What follows a call comes after what was before. -/
lemma onward_next (call : Call) (reader : Reader) : reader.Onward (call.next reader) := by
  unfold next
  split
  · next done => exact call.careful_step.ok done
  · next failed => exact call.careful_step.error failed

/-- A call for whole items that succeeds leaves the structures open that it found open. -/
lemma opened_of_step {call : Call} (whole : call.isWhole) (done : call.step reader = .ok () final) :
    final.opened = reader.opened := by
  cases call with
  | typed type tag => exact (Read.steady_sized type tag).discard.opened done
  | peek => exact Read.steady_tag?.discard.opened done
  | structureStart tag => cases whole
  | structureEnd => cases whole
  | skip => exact Read.steady_skip.opened done
  | item => exact Read.steady_item.discard.opened done
  | valueAs tag => exact (Read.steady_valueAs tag).discard.opened done
  | field tag shape value => exact (Read.closed_steady.shape tag shape value).discard.opened done
  | embedded record known fields values =>
    exact (Read.closed_steady.fields record known fields values).discard.opened done
  | finish =>
    obtain ⟨-, -, rfl⟩ := Read.finish_eq_ok.1 done
    rfl

end Call

namespace Reader

/-- The reader after calls, of which some may have failed. -/
def after (reader : Reader) (calls : List Call) : Reader :=
  calls.foldl (fun reader call => call.next reader) reader

/-- Calls leave a reader that comes after the one before them. -/
lemma onward_after (reader : Reader) (calls : List Call) : reader.Onward (reader.after calls) := by
  induction calls generalizing reader with
  | nil => exact .refl reader
  | cons call calls ih => exact (call.onward_next reader).trans (ih _)

/-- At the start nothing is open, and nothing has been given. -/
lemma coherent_start (source : Source) (config : Config) :
    (start source config).Coherent source config :=
  ⟨rfl, nofun, .nil, nofun, Nat.zero_le _, [], rfl, le_rfl⟩

/-- After any calls, failed ones included, the open structures lie within each other, have begun, and
are not too many, and the source has given all bytes that count as read. No further call goes back;
one for whole items that succeeds leaves the same structures open; one that reports the length of a
structure does so at such a place, from lengths that are not cut off. -/
theorem coherent_after (source : Source) (config : Config) (calls : List Call) :
    let reader := (start source config).after calls
    reader.Coherent source config ∧
      (∀ call : Call, reader.offset ≤ (call.next reader).offset) ∧
      (∀ (call : Call) (final : Reader), call.isWhole → call.step reader = .ok () final →
        final.opened = reader.opened) ∧
      ∀ (call : Call) (tag : Tag) (declared actual : Nat) (final : Reader),
        call.step reader = .error (.structureLength tag declared actual) final →
          ∃ middle : Reader, middle.Coherent source config ∧ reader.offset ≤ middle.offset ∧
            middle.offset ≤ final.offset ∧ middle.Reports tag declared actual := by
  intro reader
  have coherent : reader.Coherent source config :=
    (onward_after _ calls).coherent (coherent_start source config)
  refine ⟨coherent, fun call => (call.onward_next reader).offset_le,
    fun call final whole done => Call.opened_of_step whole done,
    fun call tag declared actual final failed => ?_⟩
  obtain ⟨middle, onward, left, reports⟩ := call.careful_step.reports coherent failed
  exact ⟨middle, onward.coherent coherent, onward.offset_le, left.offset_le, reports⟩

/-- A version is entered after a call that failed. Its major number can be read then, or it can be
left too early, with a report of the 32 bytes that it declares and of none that have been read. -/
theorem coherent_after_protocolVersion :
    let source := Source.ofBytes
      [0x42, 0, 0x69, 1, 0, 0, 0, 0x20, 0x42, 0, 0x6A, 2, 0, 0, 0, 4, 0, 0, 0, 1, 0, 0, 0, 0]
    let reader := (start source .strict).after [.structureEnd, .structureStart .protocolVersion]
    let entered : OpenStructure := ⟨.protocolVersion, 8, 40⟩
    reader.opened = [entered] ∧ reader.Coherent source .strict ∧
      (∃ final, (Call.typed .integer .protocolVersionMajor).step reader = .ok () final ∧
        final.offset = 24 ∧ final.opened = [entered]) ∧
      ∃ final, Call.structureEnd.step reader =
          .error (.structureLength .protocolVersion 32 0) final ∧
        ∃ middle : Reader, middle.Coherent source .strict ∧ 8 ≤ middle.offset ∧
          middle.offset ≤ final.offset ∧ middle.Reports .protocolVersion 32 0 := by
  intro source reader entered
  have begun : reader = ⟨.strict,
      ⟨[.run [0x42, 0, 0x6A, 2, 0, 0, 0, 4, 0, 0, 0, 1, 0, 0, 0, 0] (by decide)], .closed⟩, 8, none,
      [entered]⟩ := by rfl
  have read : (Call.typed .integer .protocolVersionMajor).step reader =
      .ok () ⟨.strict, ⟨[], .closed⟩, 24, none, [entered]⟩ := by
    rw [begun]
    rfl
  have left : Call.structureEnd.step reader =
      .error (.structureLength .protocolVersion 32 0) { reader with opened := [] } := by
    rw [begun]
    rfl
  obtain ⟨coherent, -, whole, reports⟩ :=
    coherent_after source .strict [.structureEnd, .structureStart .protocolVersion]
  have opened : reader.opened = [entered] := by rw [begun]
  refine ⟨opened, coherent, ⟨_, read, rfl, (whole _ _ rfl read).trans opened⟩, _, left, ?_⟩
  have offset : reader.offset = 8 := by rw [begun]
  exact offset ▸ reports _ _ _ _ _ left

end Reader

end Kmip
