import Kmip.Proofs.Loop

/-!
# Headers that are read

`Read.Fetches` counts the headers that a step takes from its source. Every reader of records and of
items is made of steps that can be counted (`Read.closed_counted`), and no step takes more headers
than the source has groups of eight bytes (`Read.Fetches.length_le`). With the loops of which the
readers are made, this is why reading comes to an end whatever the bytes are
(`Record.reading_ends`).
-/

namespace Kmip.Read

open Reader

variable {α β : Type} {reader final : Reader}

/-- The step takes so many headers from the source of the reader. A header is taken where it has not
been looked at before, and the source has the bytes of one. -/
inductive Fetches : {α : Type} → Read α → Reader → Nat → Prop where
  | pure {α : Type} (value : α) (reader : Reader) : Fetches (pure value) reader 0
  | throw {α : Type} (fault : Fault) (reader : Reader) : Fetches (throw fault : Read α) reader 0
  | get (reader : Reader) : Fetches get reader 0
  | bytes (count : Nat) (reader : Reader) : Fetches (Read.bytes count) reader 0
  | pass (count : Nat) (reader : Reader) : Fetches (pass count) reader 0
  | dropPending (reader : Reader) : Fetches dropPending reader 0
  | enter (tag : Tag) (length : Nat) (reader : Reader) : Fetches (enter tag length) reader 0
  | structureEnd (reader : Reader) : Fetches structureEnd reader 0
  | finish (reader : Reader) : Fetches finish reader 0
  | seen {reader : Reader} (known : reader.pending.isSome ∨ reader.atStop) :
      Fetches header? reader 0
  | cut {reader : Reader} (few : reader.source.unread.length < 8) : Fetches header? reader 0
  | fetched {reader : Reader} (pending : reader.pending = none) (inside : reader.atStop = false)
      (enough : 8 ≤ reader.source.unread.length) : Fetches header? reader 1
  | bind {α β : Type} {step : Read α} {next : α → Read β} {reader middle : Reader} {value : α}
      {first second : Nat} (done : step reader = .ok value middle)
      (one : Fetches step reader first) (more : Fetches (next value) middle second) :
      Fetches (step >>= next) reader (first + second)
  | refused {α β : Type} {step : Read α} {next : α → Read β} {reader middle : Reader}
      {fault : Fault} {count : Nat} (failed : step reader = .error fault middle)
      (one : Fetches step reader count) : Fetches (step >>= next) reader count

lemma taking_finish : Taking finish := by
  intro reader
  unfold finish
  split
  · exact Nat.zero_le _
  · simp only
    split <;> exact Nat.zero_le _

/-- The headers that a step takes are taken from the source. -/
lemma Fetches.length_le {step : Read α} {count : Nat} (fetches : Fetches step reader count) :
    8 * count + unreadAfter (step reader) ≤ reader.source.unread.length := by
  induction fetches with
  | pure value reader => exact (Nat.zero_add _).trans_le (taking_pure value reader)
  | throw fault reader => exact (Nat.zero_add _).trans_le (taking_throw fault reader)
  | get reader => exact (Nat.zero_add _).trans_le (taking_get reader)
  | bytes count reader => exact (Nat.zero_add _).trans_le (taking_bytes count reader)
  | pass count reader => exact (Nat.zero_add _).trans_le (taking_pass count reader)
  | dropPending reader => exact (Nat.zero_add _).trans_le (taking_dropPending reader)
  | enter tag length reader => exact (Nat.zero_add _).trans_le (taking_enter tag length reader)
  | structureEnd reader => exact (Nat.zero_add _).trans_le (taking_structureEnd reader)
  | finish reader => exact (Nat.zero_add _).trans_le (taking_finish reader)
  | @seen reader known => exact (Nat.zero_add _).trans_le (taking_header? reader)
  | @cut reader few => exact (Nat.zero_add _).trans_le (taking_header? reader)
  | @fetched reader pending inside enough =>
    rw [unreadAfter, source_left_header? pending inside, Source.unread_pull, List.length_drop]
    omega
  | @bind α β step next reader middle value first second done one more before behind =>
    have kept : unreadAfter (.ok value middle : EStateM.Result Fault Reader α) =
        middle.source.unread.length := rfl
    rw [done, kept] at before
    rw [bind_of_ok done]
    omega
  | @refused α β step next reader middle fault count failed one before =>
    rw [failed] at before
    rw [bind_of_error failed]
    exact before

/-- The headers that the step takes can be counted, from any reader. -/
def Counted (step : Read α) : Prop :=
  ∀ reader : Reader, ∃ count, Fetches step reader count

lemma counted_pure (value : α) : Counted (pure value) :=
  fun reader => ⟨0, .pure value reader⟩

lemma counted_throw (fault : Fault) : Counted (throw fault : Read α) :=
  fun reader => ⟨0, .throw fault reader⟩

lemma counted_get : Counted (get : Read Reader) :=
  fun reader => ⟨0, .get reader⟩

lemma counted_header? : Counted header? := by
  intro reader
  by_cases few : reader.source.unread.length < 8
  · exact ⟨0, .cut few⟩
  · cases pending : reader.pending with
    | some header => exact ⟨0, .seen (.inl (by rw [pending]; rfl))⟩
    | none =>
      cases inside : reader.atStop with
      | true => exact ⟨0, .seen (.inr inside)⟩
      | false => exact ⟨1, .fetched pending inside (Nat.le_of_not_lt few)⟩

/-- A step and what follows it are counted together. -/
lemma Counted.bind {step : Read α} {next : α → Read β} (counted : Counted step)
    (behind : ∀ value, Counted (next value)) : Counted (step >>= next) := by
  intro reader
  obtain ⟨first, one⟩ := counted reader
  cases done : step reader with
  | ok value middle =>
    obtain ⟨second, more⟩ := behind value middle
    exact ⟨first + second, .bind done one more⟩
  | error fault middle => exact ⟨first, .refused done one⟩

lemma counted_bytes (count : Nat) : Counted (Read.bytes count) :=
  fun reader => ⟨0, .bytes count reader⟩

lemma counted_pass (count : Nat) : Counted (pass count) :=
  fun reader => ⟨0, .pass count reader⟩

lemma counted_dropPending : Counted dropPending :=
  fun reader => ⟨0, .dropPending reader⟩

lemma counted_enter (tag : Tag) (length : Nat) : Counted (enter tag length) :=
  fun reader => ⟨0, .enter tag length reader⟩

lemma counted_structureEnd : Counted structureEnd :=
  fun reader => ⟨0, .structureEnd reader⟩

lemma counted_finish : Counted finish :=
  fun reader => ⟨0, .finish reader⟩

/-- The headers that a step takes can be counted, whichever step of a reader it is. -/
lemma kept_counted : Kept fun _ step => Counted step where
  pure := counted_pure
  throw fault _ := counted_throw fault
  get := counted_get
  bind := .bind
  bytes := counted_bytes
  pass := counted_pass
  header? := counted_header?
  dropPending := counted_dropPending
  enter := counted_enter
  structureEnd := counted_structureEnd

/-- The headers that the readers of all records take can be counted. -/
lemma closed_counted : Closed (fun _ step => Counted step) (fun _ step => Counted step) :=
  Kept.closed kept_counted

/-- A step, and the end of the source behind it. -/
def toEnd (step : Read α) : Read α := do
  let value ← step
  finish
  pure value

/-- The headers of a step that is to take all of a source can be counted, and they are no more than
its groups of eight bytes. -/
lemma Counted.toEnd {step : Read α} (counted : Counted step) (source : Source) (config : Config) :
    (∃ count, Fetches (toEnd step) (.start source config) count) ∧
      ∀ count, Fetches (Read.toEnd step) (.start source config) count →
        count ≤ source.unread.length / 8 := by
  refine ⟨counted.bind (fun _ => counted_finish.bind fun _ => counted_pure _) _, ?_⟩
  intro count fetches
  have taken : 8 * count + _ ≤ source.unread.length := fetches.length_le
  omega

end Kmip.Read

namespace Kmip.Record

open Read

/-- Reading comes to an end, whatever the bytes are: a reader of a record, or of an item, takes no
more headers than the source has groups of eight bytes. The four loops of which it is made, for the
items of a structure, for foreign items, for what stands behind the last field and for the items of
a repeated field, take a header at least in each turn behind which another one follows. -/
theorem reading_ends (source : Source) (config : Config) (record : Record) :
    ((∃ count, Fetches (toEnd record.read) (.start source config) count) ∧
      ∀ count, Fetches (toEnd record.read) (.start source config) count →
        count ≤ source.unread.length / 8) ∧
    ((∃ count, Fetches (toEnd item) (.start source config) count) ∧
      ∀ count, Fetches (toEnd item) (.start source config) count →
        count ≤ source.unread.length / 8) ∧
    (Loops itemTurn [] List.cons items ∧ item = (do
        let header ← header
        let value ← value items header
        pure ⟨header.tag.text, value⟩) ∧
      ∀ tag, valueAs tag = (do
        let header ← header
        if header.tag ≠ tag then throw (.unexpectedTag tag header.tag)
        value items header)) ∧
    (∀ name known, Loops (skipTurn name known) () (fun _ _ => ()) (skipUnknown name known)) ∧
    (∀ name known, Loops (tailTurn name known) () (fun _ _ => ()) (noFurtherField name known)) ∧
    ∀ tag (shape : Shape) name known,
      Loops (repeatTurn tag (shape.read tag shape.blank) (skipUnknown name known)) [] List.cons
        (repeated tag (shape.read tag shape.blank) (skipUnknown name known)) := by
  refine ⟨?_, (Kept.item kept_counted).toEnd source config,
    ⟨loops_items, item_eq_items, valueAs_eq_items⟩, loops_skipUnknown, loops_noFurtherField,
    fun tag shape name known => ?_⟩
  · exact (closed_counted.shape record.tag record.shape record.blank).toEnd source config
  · exact loops_repeated tag (closed_steady.shape tag shape shape.blank)
      (steady_skipUnknown name known)

end Kmip.Record
