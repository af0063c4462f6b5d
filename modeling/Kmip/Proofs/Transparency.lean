import Kmip.Proofs.Calls
import Kmip.Proofs.Taking

/-!
# Looking ahead leaves no trace

A call may look at the item that comes next and leave it where it is, because no more was asked for,
or because the item has another tag or another type than was asked for. Later calls then give what
they give without that call (`Reader.agrees_after_probe`). The two readers differ by the header that
one of them has looked at (`Reader.Glances`); a step that uses a header looks at it anyway, and finds
the same, and other steps leave the reader alone (`Read.Alike`). Only the end of a structure tells
how far the reader has come, and counts that header as well.
-/

namespace Kmip

/-- Whether a fault refuses an item for its tag or for its type. -/
def Fault.isRefusal : Fault → Bool
  | unexpectedTag .. | unexpectedType .. => true
  | _ => false

namespace Reader

variable {reader seen : Reader}

/-- The second reader is the first one, or the first one after a look at what comes next. -/
inductive Glances (reader : Reader) : (seen : Reader) → Prop
  | same : Glances reader reader
  /-- A header has been found. -/
  | ahead {header : Header} (pending : reader.pending = none) (shows : reader.Shows header) :
    Glances reader (reader.looking header)
  /-- The source has been found closed. -/
  | ended (pending : reader.pending = none) (top : reader.opened = [])
      (unread : reader.source.unread = []) (closed : reader.source.ending = .closed) :
    Glances reader { reader with source := reader.source.drained }

lemma Glances.opened_eq (glances : reader.Glances seen) : seen.opened = reader.opened := by
  cases glances <;> rfl

lemma Glances.ending_eq (glances : reader.Glances seen) :
    seen.source.ending = reader.source.ending := by
  cases glances <;> rfl

lemma Glances.remaining_eq (glances : reader.Glances seen) : seen.remaining = reader.remaining := by
  cases glances with
  | same => rfl
  | ahead pending shows => exact MayLook.remaining_eq (.inr ⟨_, shows, rfl⟩) pending
  | ended pending top unread closed => simp [remaining, unread]

/-- The second reader may count the header that has been looked at. -/
lemma Glances.offset_eq (glances : reader.Glances seen) :
    seen.offset = reader.offset ∨
      seen.offset = reader.offset + 8 ∧ reader.pending = none ∧ seen.pending.isSome := by
  cases glances with
  | same | ended => exact .inl rfl
  | ahead pending shows => exact .inr ⟨rfl, pending, rfl⟩

/-- What was found at the first look is found at the next one. -/
lemma Glances.header?_eq (glances : reader.Glances seen) :
    Read.header? seen = Read.header? reader := by
  cases glances with
  | same => rfl
  | ahead pending shows => exact MayLook.header?_eq (.inr ⟨_, shows, rfl⟩) pending
  | ended pending top unread closed =>
    rw [(Read.header?_eq_none_top pending top).2 ⟨unread, closed, rfl⟩]
    refine (Read.header?_eq_none_top ?_ ?_).2 ⟨rfl, closed, rfl⟩
    · exact pending
    · exact top

end Reader

namespace Read

open Reader

variable {α β : Type} {reader seen final : Reader}

/-- After a look that succeeds, a reader is as it was or has glanced at what comes next. -/
lemma glances_of_header? {found : Option Header} (looked : header? reader = .ok found seen) :
    reader.Glances seen := by
  obtain rfl | ⟨header, pending, shows, -, rfl⟩ | ⟨-, pending, top, unread, closed, rfl⟩ :=
    header?_eq_ok looked
  · exact .same
  · exact .ahead pending shows
  · exact .ended pending top unread closed

/-- The step looks at what comes next before all else, so that an earlier look makes no
difference. -/
def Looking (step : Read α) : Prop :=
  ∀ reader seen : Reader, reader.Glances seen → step seen = step reader

/-- An earlier look makes no difference to the step: it looks as well, or it leaves the reader
alone. -/
def Alike (step : Read α) : Prop :=
  ∀ reader seen : Reader, reader.Glances seen → step seen = step reader ∨
    ∃ found, step reader = lift found reader ∧ step seen = lift found seen

lemma Looking.alike {step : Read α} (looking : Looking step) : Alike step :=
  fun reader seen glances => .inl (looking reader seen glances)

lemma Looking.bind {step : Read α} (looking : Looking step) (next : α → Read β) :
    Looking (step >>= next) :=
  fun reader seen glances => bind_congr (looking reader seen glances)

/-- An earlier look does not change how many headers can still come. -/
lemma looking_headersLeft {next : Nat → Read α} (each : ∀ fuel, Looking (next fuel)) :
    Looking (headersLeft >>= next) := by
  intro reader seen glances
  calc (headersLeft >>= next) seen = next (seen.remaining / 8) seen := rfl
    _ = next (reader.remaining / 8) seen := by rw [glances.remaining_eq]
    _ = next (reader.remaining / 8) reader := each _ reader seen glances

lemma looking_header? : Looking header? :=
  fun _ _ glances => glances.header?_eq

lemma looking_tag? : Looking tag? :=
  .bind looking_header? _

lemma looking_header : Looking Read.header :=
  .bind looking_header? _

lemma looking_skip : Looking skip :=
  .bind looking_header _

lemma looking_sized (type : ScalarType) (tag : Tag) : Looking (sized type tag) :=
  .bind (.bind looking_header? _) _

lemma looking_structureStart (tag : Tag) : Looking (structureStart tag) :=
  .bind (.bind looking_header? _) _

lemma looking_item : Looking item :=
  .bind (looking_headersLeft fun _ => .bind looking_header _) _

lemma looking_valueAs (tag : Tag) : Looking (valueAs tag) :=
  looking_headersLeft fun _ => .bind looking_header _

lemma looking_skipUnknown (record : String) (known : List Tag) :
    Looking (skipUnknown record known) :=
  looking_headersLeft fun _ => .bind looking_tag? _

lemma looking_repeated (tag : Tag) (item : Read α) (between : Read Unit) :
    Looking (repeated tag item between) :=
  looking_headersLeft fun _ => .bind looking_tag? _

lemma alike_lift (found : Except Fault α) : Alike (lift found) :=
  fun _ _ _ => .inr ⟨found, rfl, rfl⟩

lemma alike_pure (value : α) : Alike (pure value) :=
  alike_lift (.ok value)

lemma alike_throw (fault : Fault) : Alike (throw fault : Read α) :=
  alike_lift (.error fault)

lemma Alike.bind {step : Read α} {next : α → Read β} (alike : Alike step)
    (behind : ∀ value, Alike (next value)) : Alike (step >>= next) := by
  intro reader seen glances
  obtain same | ⟨found, left, right⟩ := alike reader seen glances
  · exact .inl (bind_congr same)
  · cases found with
    | ok value =>
      rw [bind_of_ok left, bind_of_ok right]
      exact behind value reader seen glances
    | error fault =>
      exact .inr ⟨.error fault, bind_of_error left, bind_of_error right⟩

/-- An earlier look makes no difference to any step that reads records. -/
lemma closed_alike : Closed (fun _ step => Alike step) (fun _ step => Alike step) where
  scalar type tag := (Looking.bind (looking_sized type tag) _).alike
  valueAs tag := (looking_valueAs tag).alike
  bind_lift next _ item := item.bind fun value => alike_lift (next value)
  lift_bind found _ _ each := (alike_lift found).bind each
  structured tag _ _ _ := (Looking.bind (looking_structureStart tag) _).alike
  pure := alike_pure
  throw fault _ := alike_throw fault
  bind row rows := row.bind rows
  skipUnknown record known := (looking_skipUnknown record known).alike
  ifTag _ _ _ := (Looking.bind looking_tag? _).alike
  repeated tag _ _ _ := (looking_repeated tag _ _).alike

end Read

namespace Call

variable {reader seen : Reader}

/-- Two outcomes of a call that only differ in whether a header that has been looked at counts as
read, where the end of a structure reports its length. -/
inductive Agrees : (call : Call) → (plain probed : Except Fault call.Answer) → Prop
  | same {call : Call} (outcome : Except Fault call.Answer) : Agrees call outcome outcome
  | header (tag : Tag) (declared actual : Nat) : Agrees .structureEnd
      (.error (.structureLength tag declared actual))
      (.error (.structureLength tag declared (actual + 8)))

/-- What a call gives makes no difference to the reader that it leaves. -/
lemma left_run (call : Call) (reader : Reader) :
    Read.left (call.run reader) = call.next reader := by
  unfold next
  rw [← discard_run, Read.discard]
  cases done : call.run reader with
  | ok value final =>
    rw [Read.bind_of_ok done]
    rfl
  | error fault final =>
    rw [Read.bind_of_error done]
    rfl

lemma alike_run {call : Call} (notEnd : call ≠ .structureEnd) (going : call ≠ .finish) :
    Read.Alike call.run := by
  cases call with
  | typed type tag => exact (Read.looking_sized type tag).alike
  | peek => exact Read.looking_tag?.alike
  | structureStart tag => exact (Read.looking_structureStart tag).alike
  | structureEnd => exact absurd rfl notEnd
  | skip => exact Read.looking_skip.alike
  | item => exact Read.looking_item.alike
  | valueAs tag => exact (Read.looking_valueAs tag).alike
  | field tag shape value => exact Read.closed_alike.shape tag shape value
  | embedded record known fields values => exact Read.closed_alike.fields record known fields values
  | finish => exact absurd rfl going

end Call

namespace Reader

variable {reader seen final : Reader} {source : Source} {config : Config}

/-- A header that has been looked at in a structure still comes next when the structure is left, and
counts as part of it. -/
lemma Glances.structureEnd (glances : reader.Glances seen)
    (coherent : reader.Coherent source config) :
    Call.Agrees .structureEnd (Read.outcome (Read.structureEnd reader))
        (Read.outcome (Read.structureEnd seen)) ∧
      (Read.left (Read.structureEnd reader)).Glances (Read.left (Read.structureEnd seen)) := by
  cases opened : reader.opened with
  | nil =>
    have plain : Read.structureEnd reader = .error .noOpenStructure reader := by
      simp [Read.structureEnd, opened]
    have probed : Read.structureEnd seen = .error .noOpenStructure seen := by
      simp [Read.structureEnd, glances.opened_eq, opened]
    rw [plain, probed]
    exact ⟨.same _, glances⟩
  | cons innermost outer =>
    cases glances with
    | same => exact ⟨.same _, .same⟩
    | ended pending top unread closed => simp [top] at opened
    | @ahead header pending shows =>
      have before : reader.offset < innermost.stop := by
        simpa [atStop, opened] using shows.inside
      have started := coherent.started innermost (opened ▸ List.mem_cons_self)
      have plain : Read.structureEnd reader = .error (.structureLength innermost.tag
          (innermost.stop - innermost.start) (reader.offset - innermost.start))
            { reader with opened := outer } := by
        simp [Read.structureEnd, opened, before.ne]
      have probed : Read.structureEnd (reader.looking header) =
          .error (.structureLength innermost.tag (innermost.stop - innermost.start)
            (reader.offset - innermost.start + 8))
              { reader.looking header with opened := outer } := by
        simp [Read.structureEnd, looking, opened, Nat.sub_add_comm started]
      rw [plain, probed]
      refine ⟨.header _ _ _, .ahead pending ⟨?_, shows.unread, shows.fits, shows.within⟩⟩
      -- what lies around the structure goes on at least as far
      cases outer with
      | nil => rfl
      | cons parent rest =>
        have within := (List.isChain_cons_cons.1 (opened ▸ coherent.nested)).1.2
        exact decide_eq_false (Nat.not_le.2 (before.trans_le within))

/-- Whether the source is used up does not depend on whether a header has been looked at. -/
lemma Glances.finish (glances : reader.Glances seen) :
    Read.outcome (Read.finish seen) = Read.outcome (Read.finish reader) := by
  simp only [Read.finish, glances.ending_eq, glances.remaining_eq]
  cases reader.source.ending with
  | broken report => rfl
  | closed =>
    simp only
    split <;> rfl

/-- What a call gives is the same after a look, but for a header that counts as part of a
structure. -/
lemma Glances.agrees (glances : reader.Glances seen) (coherent : reader.Coherent source config)
    (call : Call) :
    call.Agrees (Read.outcome (call.run reader)) (Read.outcome (call.run seen)) := by
  by_cases notEnd : call = .structureEnd
  · subst notEnd
    exact (glances.structureEnd coherent).1
  by_cases going : call = .finish
  · subst going
    have same : Read.outcome (Call.finish.run seen) = Read.outcome (Call.finish.run reader) :=
      glances.finish
    rw [same]
    exact .same _
  · obtain same | ⟨found, plain, probed⟩ := Call.alike_run notEnd going reader seen glances
    · exact same ▸ .same _
    · rw [plain, probed]
      cases found <;> exact .same _

/-- Two readers that differ by a look do so after each call that goes on. -/
lemma Glances.next (glances : reader.Glances seen) (coherent : reader.Coherent source config)
    {call : Call} (going : call ≠ .finish) : (call.next reader).Glances (call.next seen) := by
  rw [← Call.left_run, ← Call.left_run]
  by_cases notEnd : call = .structureEnd
  · subst notEnd
    exact (glances.structureEnd coherent).2
  · obtain same | ⟨found, plain, probed⟩ := Call.alike_run notEnd going reader seen glances
    · exact same ▸ .same
    · rw [plain, probed]
      cases found <;> exact glances

/-- Two readers that differ by a look do so after any calls that go on. -/
lemma Glances.after (glances : reader.Glances seen) (coherent : reader.Coherent source config)
    {calls : List Call} (going : ∀ call ∈ calls, call ≠ .finish) :
    (reader.after calls).Glances (seen.after calls) := by
  induction calls generalizing reader seen with
  | nil => exact glances
  | cons call calls ih =>
    obtain ⟨first, rest⟩ := List.forall_mem_cons.1 going
    exact ih (glances.next coherent first) ((call.onward_next reader).coherent coherent) rest

end Reader

namespace Read

open Reader

variable {α β : Type} {reader seen : Reader} {fault : Fault}

/-- The step may fail, but does not refuse an item for its tag or for its type. -/
def Unrefusing (step : Read α) : Prop :=
  ∀ (reader final : Reader) (fault : Fault), step reader = .error fault final → ¬ fault.isRefusal

lemma unrefusing_lift {found : Except Fault α}
    (plain : ∀ {fault}, found = .error fault → ¬ fault.isRefusal) : Unrefusing (lift found) := by
  intro reader final fault failed
  cases found with
  | ok value => cases failed
  | error other =>
    obtain ⟨rfl, -⟩ := EStateM.Result.error.inj failed
    exact plain rfl

lemma unrefusing_pure (value : α) : Unrefusing (pure value) :=
  fun _ _ _ => nofun

lemma unrefusing_throw (plain : ¬ fault.isRefusal) : Unrefusing (throw fault : Read α) :=
  fun _ _ _ failed => (EStateM.Result.error.inj failed).1 ▸ plain

lemma Unrefusing.bind {step : Read α} {next : α → Read β} (unrefusing : Unrefusing step)
    (behind : ∀ value, Unrefusing (next value)) : Unrefusing (step >>= next) := by
  intro reader final fault failed
  obtain first | ⟨value, middle, -, rest⟩ := bind_eq_error.1 failed
  · exact unrefusing reader final fault first
  · exact behind value middle final fault rest

/-- A source that fails refuses nothing. -/
lemma breakdown_unrefusing (breakdown : Breakdown) : ¬ breakdown.fault.isRefusal := by
  obtain same | same := breakdown.fault_eq <;> rw [same] <;> exact Bool.false_ne_true

/-- A source that ends refuses nothing. -/
lemma ending_unrefusing (ending : Ending) : ¬ ending.fault.isRefusal := by
  cases ending with
  | closed => exact Bool.false_ne_true
  | broken breakdown => exact breakdown_unrefusing breakdown

lemma unrefusing_bytes (count : Nat) : Unrefusing (Read.bytes count) := by
  intro reader final fault failed
  simp only [Read.bytes] at failed
  split at failed
  · cases failed
  · obtain ⟨rfl, -⟩ := EStateM.Result.error.inj failed
    exact ending_unrefusing _

lemma unrefusing_header? : Unrefusing header? := by
  intro reader final fault failed
  unfold header? at failed
  split at failed
  · cases failed
  · split at failed
    · cases failed
    · simp only at failed
      split at failed
      · split at failed <;> cases failed
        exact Bool.false_ne_true
      · split at failed
        · cases failed
          exact breakdown_unrefusing _
        · split at failed <;> cases failed
          exact Bool.false_ne_true

lemma unrefusing_enter (tag : Tag) (length : Nat) : Unrefusing (enter tag length) := by
  intro reader final fault failed
  obtain ⟨-, rfl | ⟨_, _, -, -, rfl⟩⟩ := enter_eq_error failed <;> exact Bool.false_ne_true

lemma unrefusing_padding (tag : Tag) (length : Nat) : Unrefusing (padding tag length) := by
  refine (unrefusing_bytes _).bind fun bytes => ?_
  split
  · exact unrefusing_throw Bool.false_ne_true
  · exact unrefusing_pure _

lemma unrefusing_checkLength (type : ScalarType) (length : Nat) :
    Unrefusing (lift (type.checkLength length)) := by
  refine unrefusing_lift fun failed => ?_
  obtain ⟨_, rfl⟩ | rfl := checkLength_eq_error failed <;> exact Bool.false_ne_true

lemma unrefusing_decode (type : ScalarType) (bytes : Bytes) :
    Unrefusing (lift (type.decode bytes)) := by
  refine unrefusing_lift fun failed => ?_
  obtain rfl | ⟨_, rfl⟩ | ⟨_, rfl⟩ := decode_eq_error failed <;> exact Bool.false_ne_true

lemma unrefusing_content (type : ScalarType) (tag : Tag) (length : Nat) :
    Unrefusing (content type tag length) :=
  (unrefusing_checkLength type length).bind fun _ => (unrefusing_bytes _).bind fun bytes =>
    (unrefusing_padding _ _).bind fun _ => unrefusing_decode type bytes

/-- An item that is refused for its tag or for its type has been looked at, and stays. -/
lemma expect_refused {tag : Tag} {type : ItemType} (refused : fault.isRefusal)
    (failed : expect tag type reader = .error fault seen) : reader.Glances seen := by
  obtain first | ⟨found, middle, looked, rest⟩ := bind_eq_error.1 failed
  · exact absurd refused (unrefusing_header? reader seen fault first)
  cases found with
  | none =>
    obtain ⟨rfl, -⟩ := EStateM.Result.error.inj rest
    cases refused
  | some header =>
    simp only at rest
    split at rest
    · obtain ⟨-, rfl⟩ := EStateM.Result.error.inj rest
      exact glances_of_header? looked
    · split at rest
      · obtain ⟨-, rfl⟩ := EStateM.Result.error.inj rest
        exact glances_of_header? looked
      · cases rest

end Read

namespace Reader

/-- The second reader is left by a call of the first one that looks at what comes next and takes
nothing: one that asks for no more, or one that refuses the item for its tag or for its type. -/
inductive Probed (reader seen : Reader) : Prop
  | peek {found : Option Tag} (done : Call.peek.run reader = .ok found seen)
  | typed {type : ScalarType} {tag : Tag} {fault : Fault} (refused : fault.isRefusal)
    (failed : (Call.typed type tag).run reader = .error fault seen)
  | structureStart {tag : Tag} {fault : Fault} (refused : fault.isRefusal)
    (failed : (Call.structureStart tag).run reader = .error fault seen)

variable {reader seen : Reader}

lemma Probed.glances (probed : reader.Probed seen) : reader.Glances seen := by
  cases probed with
  | peek done =>
    obtain ⟨found, _, looked, kept⟩ := Read.bind_eq_ok.1 done
    obtain ⟨-, rfl⟩ := Read.pure_eq_ok.1 kept
    exact Read.glances_of_header? looked
  | @typed type tag fault refused failed =>
    obtain first | ⟨length, middle, -, rest⟩ := Read.bind_eq_error.1 failed
    · exact Read.expect_refused refused first
    · have value := (Read.unrefusing_content type tag length).bind fun value =>
        Read.unrefusing_pure (value, 8 + length + paddingLength length)
      exact absurd refused (value middle seen fault rest)
  | @structureStart tag fault refused failed =>
    obtain first | ⟨length, middle, -, rest⟩ := Read.bind_eq_error.1 failed
    · exact Read.expect_refused refused first
    · exact absurd refused (Read.unrefusing_enter tag length middle seen fault rest)

/-- A look at what comes next, or a read that is refused for a tag or a type, leaves no trace. Take
any reader that calls have led to. Whatever calls follow, as long as none of them finishes, the next
call gives what it gives without the look, and the same structures are open. Only how far the reader
has come may differ, by the header that is still to be taken, and with it the actual length that the
end of a structure reports. -/
theorem agrees_after_probe (source : Source) (config : Config) (before later : List Call)
    {seen : Reader} (probed : ((start source config).after before).Probed seen)
    (going : ∀ call ∈ later, call ≠ .finish) (call : Call) :
    let plain := ((start source config).after before).after later
    let probing := seen.after later
    call.Agrees (Read.outcome (call.run plain)) (Read.outcome (call.run probing)) ∧
      probing.opened = plain.opened ∧
      (probing.offset = plain.offset ∨
        probing.offset = plain.offset + 8 ∧ plain.pending = none ∧ probing.pending.isSome) := by
  intro plain probing
  have reached := (onward_after (start source config) before).coherent
    (coherent_start source config)
  have glances : plain.Glances probing := probed.glances.after reached going
  have coherent := (onward_after _ later).coherent reached
  exact ⟨glances.agrees coherent call, glances.opened_eq, glances.offset_eq⟩

/-- In a version, a long integer is asked for where the major number stands, and is refused. The
version is then left too early, with a report that counts the header of the number, and the number
can still be read. -/
theorem agrees_after_probe_protocolVersion :
    let source := Source.ofBytes
      [0x42, 0, 0x69, 1, 0, 0, 0, 0x20, 0x42, 0, 0x6A, 2, 0, 0, 0, 4, 0, 0, 0, 1, 0, 0, 0, 0]
    let reader := (start source .strict).after [.structureStart .protocolVersion]
    let seen := (Call.typed .longInteger .protocolVersionMajor).next reader
    let number : Call := .typed .integer .protocolVersionMajor
    reader.Probed seen ∧
      Read.outcome (Call.structureEnd.run reader) =
        .error (.structureLength .protocolVersion 32 0) ∧
      Read.outcome (Call.structureEnd.run seen) =
        .error (.structureLength .protocolVersion 32 8) ∧
      number.Agrees (Read.outcome (number.run (reader.after [.structureEnd])))
        (Read.outcome (number.run (seen.after [.structureEnd]))) ∧
      Read.outcome (number.run (seen.after [.structureEnd])) = .ok (1, 16) := by
  intro source reader seen number
  have begun : reader = ⟨.strict,
      ⟨[.run [0x42, 0, 0x6A, 2, 0, 0, 0, 4, 0, 0, 0, 1, 0, 0, 0, 0] (by decide)],
      .closed⟩, 8, none, [⟨.protocolVersion, 8, 40⟩]⟩ := by rfl
  have looked : seen = ⟨.strict, ⟨[.run [0, 0, 0, 1, 0, 0, 0, 0] (by decide)], .closed⟩, 16,
      some ⟨.protocolVersionMajor, 2, 4⟩, [⟨.protocolVersion, 8, 40⟩]⟩ := by rfl
  have refused : (Call.typed .longInteger .protocolVersionMajor).run reader =
      .error (.unexpectedType (.scalar .longInteger) 2) seen := by
    rw [begun, looked]
    rfl
  have probed : reader.Probed seen := .typed rfl refused
  have going : ∀ call ∈ [Call.structureEnd], call ≠ .finish := List.forall_mem_singleton.2 nofun
  obtain ⟨agrees, -⟩ := agrees_after_probe source .strict [.structureStart .protocolVersion]
    [.structureEnd] probed going number
  refine ⟨probed, ?_, ?_, agrees, ?_⟩
  · rw [begun]
    rfl
  · rw [looked]
    rfl
  · rw [looked]
    rfl

end Reader

end Kmip
