import Kmip.Proofs.Kept
import Kmip.Proofs.Steady

/-!
# What a step leaves in the source

Whether it succeeds or fails, a step puts nothing back: the source that it leaves has no more bytes
than the one that it began with (`Read.Taking`). This is so of every reader of records
(`Read.closed_taking`).
-/

namespace Kmip

namespace Source

@[simp] lemma unread_drained (source : Source) : source.drained.unread = [] := rfl

@[simp] lemma ending_drained (source : Source) : source.drained.ending = source.ending := rfl

/-- From a source without bytes, an attempt takes what deliveries there are. -/
lemma pull_of_unread_eq_nil {source : Source} (none : source.unread = []) (count : Nat) :
    (source.pull (count + 1)).2 = source.drained :=
  congrArg (Source.mk · source.ending) (Delivery.pull_of_bytes_eq_nil none)

end Source

namespace Read

open Reader

variable {α β : Type} {reader final : Reader}

/-- The reader that a step leaves, whatever has become of it. -/
def left : EStateM.Result Fault Reader α → Reader
  | .ok _ final => final
  | .error _ final => final

/-- What a step gives, or the fault with which it fails. -/
def outcome : EStateM.Result Fault Reader α → Except Fault α
  | .ok value _ => .ok value
  | .error fault _ => .error fault

/-- What a step gives and the reader that it leaves are all that comes of it. -/
lemma eq_ok_iff {result : EStateM.Result Fault Reader α} {value : α} :
    result = .ok value final ↔ outcome result = .ok value ∧ left result = final := by
  cases result <;> simp [outcome, left]

/-- The number of bytes that a step leaves in the source. -/
abbrev unreadAfter (result : EStateM.Result Fault Reader α) : Nat :=
  (left result).source.unread.length

/-- The step leaves no more bytes in the source than there are. -/
def Taking (step : Read α) : Prop :=
  ∀ reader : Reader, unreadAfter (step reader) ≤ reader.source.unread.length

/-- What is pulled from a source is no longer in it. -/
lemma length_unread_pull_le (source : Source) (count : Nat) :
    (source.pull count).2.unread.length ≤ source.unread.length := by
  rw [Source.unread_pull, List.length_drop]
  exact Nat.sub_le _ _

lemma taking_pure (value : α) : Taking (pure value) :=
  fun _ => le_rfl

lemma taking_throw (fault : Fault) : Taking (throw fault : Read α) :=
  fun _ => le_rfl

lemma taking_get : Taking (get : Read Reader) :=
  fun _ => le_rfl

/-- What follows a step puts nothing back of what that has taken. -/
lemma unreadAfter_bind_le {step : Read α} {next : α → Read β} (behind : ∀ value, Taking (next value))
    (reader : Reader) : unreadAfter ((step >>= next) reader) ≤ unreadAfter (step reader) := by
  cases done : step reader with
  | ok value middle =>
    rw [bind_of_ok done]
    exact behind value middle
  | error fault middle =>
    rw [bind_of_error done]
    exact le_rfl

lemma Taking.bind {step : Read α} {next : α → Read β} (taking : Taking step)
    (behind : ∀ value, Taking (next value)) : Taking (step >>= next) :=
  fun reader => (unreadAfter_bind_le behind reader).trans (taking reader)

/-- Of a step that asks for bytes, they are gone, whether or not there are enough. -/
lemma source_left_bytes (count : Nat) (reader : Reader) :
    (left (Read.bytes count reader)).source = (reader.source.pull count).2 := by
  simp only [Read.bytes]
  split <;> rfl

lemma source_left_pass (count : Nat) (reader : Reader) :
    (left (pass count reader)).source = (reader.source.pull count).2 := by
  simp only [pass]
  split
  · rfl
  · split <;> rfl

/-- A look at the next header takes its bytes, unless that has been looked at or no further one is
wanted. -/
lemma source_left_header? (pending : reader.pending = none) (inside : reader.atStop = false) :
    (left (header? reader)).source = (reader.source.pull 8).2 := by
  simp only [header?, pending, inside, Option.isSome_none, Bool.false_eq_true, if_false]
  split
  · split <;> rfl
  · split
    · rfl
    · split <;> rfl

lemma source_left_enter (tag : Tag) (length : Nat) (reader : Reader) :
    (left (enter tag length reader)).source = reader.source := by
  unfold enter
  split
  · rfl
  · simp only
    split
    · rfl
    · split <;> rfl

lemma source_left_structureEnd (reader : Reader) :
    (left (structureEnd reader)).source = reader.source := by
  unfold structureEnd
  split
  · rfl
  · simp only
    split <;> rfl

lemma header?_of_pending (pending : reader.pending.isSome) :
    header? reader = .ok reader.pending reader :=
  if_pos pending

lemma header?_of_atStop (pending : reader.pending = none) (stop : reader.atStop = true) :
    header? reader = .ok none reader := by
  simp only [header?, pending, stop, Option.isSome_none, Bool.false_eq_true, if_false, if_true]

/-- Outside of all structures no header is left exactly where a closed source has no more bytes. -/
lemma header?_eq_none_top (pending : reader.pending = none) (top : reader.opened = []) :
    header? reader = .ok none final ↔ reader.source.unread = [] ∧ reader.source.ending = .closed ∧
      final = { reader with source := reader.source.drained } := by
  have inside : reader.atStop = false := by simp [atStop, top]
  simp only [header?, pending, inside, top, Option.isSome_none, Bool.false_eq_true, if_false,
    Source.pull_fst, Source.ending_pull, and_true]
  cases unread : reader.source.unread with
  | nil =>
    cases reader.source.ending with
    | broken report => simp [Header.ofBytes?]
    | closed =>
      simp [Header.ofBytes?, Source.pull_of_unread_eq_nil unread, eq_comm]
  | cons first rest =>
    simp only [List.take_succ_cons, reduceCtorEq, if_false, false_and, iff_false]
    split
    · split <;> exact nofun
    · split <;> exact nofun

/-- A look that succeeds leaves the reader as it was, or finds a header, or finds that a closed source
has no more bytes. -/
lemma header?_eq_ok {found : Option Header} (looked : header? reader = .ok found final) :
    final = reader ∨
      (∃ header, reader.pending = none ∧ reader.Shows header ∧ found = some header ∧
        final = reader.looking header) ∨
      (found = none ∧ reader.pending = none ∧ reader.opened = [] ∧ reader.source.unread = [] ∧
        reader.source.ending = .closed ∧
          final = { reader with source := reader.source.drained }) := by
  by_cases pending : reader.pending = none
  · cases found with
    | some header =>
      obtain ⟨shows, same⟩ := (header?_eq_some pending).1 looked
      exact .inr (.inl ⟨header, pending, shows, rfl, same⟩)
    | none =>
      by_cases top : reader.opened = []
      · obtain ⟨unread, closed, same⟩ := (header?_eq_none_top pending top).1 looked
        exact .inr (.inr ⟨rfl, pending, top, unread, closed, same⟩)
      · exact .inl ((header?_eq_none pending top).1 looked).2
  · rw [header?_of_pending (Option.isSome_iff_ne_none.2 pending)] at looked
    exact .inl (EStateM.Result.ok.inj looked).2.symm

lemma taking_bytes (count : Nat) : Taking (Read.bytes count) := by
  intro reader
  rw [unreadAfter, source_left_bytes]
  exact length_unread_pull_le _ _

lemma taking_pass (count : Nat) : Taking (pass count) := by
  intro reader
  rw [unreadAfter, source_left_pass]
  exact length_unread_pull_le _ _

/-- A look at the next header takes its bytes, or nothing. -/
lemma exists_source_left_header? (reader : Reader) :
    ∃ count ≤ 8, (left (header? reader)).source = (reader.source.pull count).2 := by
  cases pending : reader.pending with
  | some header =>
    rw [header?_of_pending (by rw [pending]; rfl)]
    exact ⟨0, Nat.zero_le _, (Source.pull_zero _).symm⟩
  | none =>
    cases inside : reader.atStop with
    | true =>
      rw [header?_of_atStop pending inside]
      exact ⟨0, Nat.zero_le _, (Source.pull_zero _).symm⟩
    | false => exact ⟨8, le_rfl, source_left_header? pending inside⟩

lemma taking_header? : Taking header? := by
  intro reader
  obtain ⟨count, -, same⟩ := exists_source_left_header? reader
  rw [unreadAfter, same]
  exact length_unread_pull_le _ _

lemma taking_dropPending : Taking dropPending :=
  fun _ => le_rfl

lemma taking_enter (tag : Tag) (length : Nat) : Taking (enter tag length) := by
  intro reader
  rw [unreadAfter, source_left_enter]

lemma taking_structureEnd : Taking structureEnd := by
  intro reader
  rw [unreadAfter, source_left_structureEnd]

/-- No step that a reader offers puts anything back. -/
lemma kept_taking : Kept fun _ step => Taking step where
  pure := taking_pure
  throw fault _ := taking_throw fault
  get := taking_get
  bind := .bind
  bytes := taking_bytes
  pass := taking_pass
  header? := taking_header?
  dropPending := taking_dropPending
  enter := taking_enter
  structureEnd := taking_structureEnd

/-- Nor does any step that reads records. -/
lemma closed_taking : Closed (fun _ step => Taking step) (fun _ step => Taking step) :=
  Kept.closed kept_taking

end Read

end Kmip
