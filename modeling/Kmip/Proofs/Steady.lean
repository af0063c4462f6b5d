import Kmip.Proofs.Closure
import Kmip.Proofs.Step

/-!
# Where a step leaves the reader

A step that succeeds has left every structure that it has entered, and has taken some bytes
(`Read.Steady`). So every item takes a header at least, from any reader and whatever its bytes are;
this is what the fuel of the loops counts.
-/

namespace Kmip

namespace Read

open Reader

variable {α β : Type} {reader final : Reader}

/-- Where the step succeeds, the same structures are open as before, and so many bytes at least have
been taken. -/
structure Steady (least : Nat) (step : Read α) : Prop where
  opened : ∀ {reader final : Reader} {value : α}, step reader = .ok value final →
    final.opened = reader.opened
  remaining : ∀ {reader final : Reader} {value : α}, step reader = .ok value final →
    final.remaining + least ≤ reader.remaining

/-- A step that takes many bytes takes fewer. -/
lemma Steady.mono {least less : Nat} {step : Read α} (steady : Steady least step)
    (le : less ≤ least) : Steady less step where
  opened := steady.opened
  remaining read := by
    have taken := steady.remaining read
    omega

lemma steady_pure (value : α) : Steady 0 (pure value) where
  opened read := by
    obtain ⟨-, rfl⟩ := pure_eq_ok.1 read
    rfl
  remaining read := by
    obtain ⟨-, rfl⟩ := pure_eq_ok.1 read
    exact le_rfl

lemma steady_throw (fault : Fault) : Steady 0 (throw fault : Read α) where
  opened read := (throw_eq_ok.1 read).elim
  remaining read := (throw_eq_ok.1 read).elim

lemma steady_lift (found : Except Fault α) : Steady 0 (lift found) := by
  cases found with
  | ok value => exact steady_pure value
  | error fault => exact steady_throw fault

/-- Two steps take the bytes of both. -/
lemma Steady.bind {first second : Nat} {step : Read α} {next : α → Read β}
    (steady : Steady first step) (behind : ∀ value, Steady second (next value)) :
    Steady (first + second) (step >>= next) where
  opened read := by
    obtain ⟨value, middle, read, rest⟩ := bind_eq_ok.1 read
    exact ((behind value).opened rest).trans (steady.opened read)
  remaining read := by
    obtain ⟨value, middle, read, rest⟩ := bind_eq_ok.1 read
    have taken := steady.remaining read
    have more := (behind value).remaining rest
    omega

/-- A step behind one that need not take bytes. -/
lemma Steady.behind {least : Nat} {step : Read α} {next : α → Read β} (steady : Steady 0 step)
    (behind : ∀ value, Steady least (next value)) : Steady least (step >>= next) :=
  (steady.bind behind).mono (Nat.zero_add least).ge

lemma remaining_advance (count : Nat) :
    (reader.advance count).remaining =
      reader.source.unread.length - count + if reader.pending.isSome then 8 else 0 := by
  rw [Reader.remaining, unread_advance, List.length_drop]
  rfl

lemma steady_bytes (count : Nat) : Steady count (Read.bytes count) where
  opened read := by
    obtain ⟨-, -, rfl⟩ := bytes_eq_ok.1 read
    rfl
  remaining {reader _ _} read := by
    obtain ⟨length, unread, rfl⟩ := bytes_eq_ok.1 read
    have enough := unread.length_le
    rw [remaining_advance, Reader.remaining]
    omega

lemma steady_pass (count : Nat) : Steady count (pass count) where
  opened read := by
    obtain ⟨-, rfl⟩ := pass_eq_ok.1 read
    rfl
  remaining {reader _ _} read := by
    obtain ⟨enough, rfl⟩ := pass_eq_ok.1 read
    rw [remaining_advance, Reader.remaining]
    omega

/-- A look at the next header takes nothing. A header that it has found is pending. -/
lemma header?_ok {found : Option Header} (read : header? reader = .ok found final) :
    final.opened = reader.opened ∧ final.remaining ≤ reader.remaining ∧
      (found.isSome → final.pending.isSome) := by
  unfold header? at read
  split at read
  · next pending =>
    obtain ⟨rfl, rfl⟩ := EStateM.Result.ok.inj read
    exact ⟨rfl, le_rfl, id⟩
  · next none =>
    split at read
    · obtain ⟨rfl, rfl⟩ := EStateM.Result.ok.inj read
      exact ⟨rfl, le_rfl, nofun⟩
    · simp only [Source.pull_fst] at read
      split at read
      · next header spelled =>
        split at read
        · cases read
        · obtain ⟨rfl, rfl⟩ := EStateM.Result.ok.inj read
          have long := congrArg List.length (Header.ofBytes?_eq_some.1 spelled).1
          rw [List.length_take, Header.length_bytes] at long
          refine ⟨rfl, ?_, fun _ => rfl⟩
          simp only [remaining, Source.unread_pull, List.length_drop, Option.isSome_some, none,
            if_true, if_false, Bool.false_eq_true]
          omega
      · split at read
        · cases read
        · split at read
          · obtain ⟨rfl, rfl⟩ := EStateM.Result.ok.inj read
            refine ⟨rfl, ?_, nofun⟩
            simp only [remaining, Source.unread_pull, List.length_drop]
            omega
          · cases read

lemma steady_header? : Steady 0 header? where
  opened read := (header?_ok read).1
  remaining read := (header?_ok read).2.1

lemma steady_tag? : Steady 0 tag? :=
  steady_header?.behind fun _ => steady_pure _

/-- A header that has been looked at takes its bytes when it is dropped. -/
lemma dropPending_ok {result : Unit} (pending : reader.pending.isSome)
    (read : dropPending reader = .ok result final) :
    final.opened = reader.opened ∧ final.remaining + 8 = reader.remaining := by
  obtain rfl := (EStateM.Result.ok.inj read).2
  simp [remaining, pending]

/-- What takes a header after a look at it takes its bytes. -/
lemma steady_dropPending {next : Header → Read β} {none : Read β}
    (each : ∀ header reader final value, reader.pending.isSome →
      next header reader = .ok value final →
        final.opened = reader.opened ∧ final.remaining + 8 ≤ reader.remaining)
    (missing : ∀ reader final value, none reader ≠ .ok value final) :
    Steady 8 (do
      let some header ← header? | none
      next header) := by
  have both {reader final : Reader} {value : β}
      (read : (do
        let some header ← header? | none
        next header) reader = .ok value final) :
      final.opened = reader.opened ∧ final.remaining + 8 ≤ reader.remaining := by
    obtain ⟨found, middle, looked, rest⟩ := bind_eq_ok.1 read
    obtain ⟨opened, kept, pending⟩ := header?_ok looked
    cases found with
    | none => exact absurd rest (missing _ _ _)
    | some header =>
      obtain ⟨same, taken⟩ := each header _ _ _ (pending rfl) rest
      exact ⟨same.trans opened, by omega⟩
  exact ⟨fun read => (both read).1, fun read => (both read).2⟩

lemma steady_header : Steady 8 Read.header := by
  refine steady_dropPending (fun header reader final value pending read => ?_) fun _ _ _ => nofun
  obtain ⟨_, _, dropped, kept⟩ := bind_eq_ok.1 read
  obtain ⟨rfl, rfl⟩ := pure_eq_ok.1 kept
  obtain ⟨opened, taken⟩ := dropPending_ok pending dropped
  exact ⟨opened, taken.le⟩

lemma steady_expect (tag : Tag) (type : ItemType) : Steady 8 (expect tag type) := by
  refine steady_dropPending (fun header reader final value pending read => ?_) fun _ _ _ => nofun
  obtain ⟨-, rest⟩ := guard_eq_ok.1 read
  obtain ⟨-, rest⟩ := guard_eq_ok.1 rest
  obtain ⟨_, _, dropped, kept⟩ := bind_eq_ok.1 rest
  obtain ⟨rfl, rfl⟩ := pure_eq_ok.1 kept
  obtain ⟨opened, taken⟩ := dropPending_ok pending dropped
  exact ⟨opened, taken.le⟩

lemma steady_skip : Steady 8 skip :=
  steady_header.bind fun _ => (steady_pass _).mono (Nat.zero_le _)

lemma steady_padding (tag : Tag) (length : Nat) : Steady 0 (padding tag length) := by
  refine ((steady_bytes _).mono (Nat.zero_le _)).behind fun bytes => ?_
  split
  · exact steady_throw _
  · exact steady_pure _

lemma steady_content (type : ScalarType) (tag : Tag) (length : Nat) :
    Steady 0 (content type tag length) :=
  (steady_lift _).behind fun _ => ((steady_bytes _).mono (Nat.zero_le _)).behind fun _ =>
    (steady_padding _ _).behind fun _ => steady_lift _

lemma steady_sized (type : ScalarType) (tag : Tag) : Steady 8 (sized type tag) :=
  (steady_expect _ _).bind fun _ => (steady_content _ _ _).behind fun _ => steady_pure _

lemma steady_scalar (type : ScalarType) (tag : Tag) : Steady 8 (scalar type tag) :=
  (steady_sized type tag).bind fun _ => steady_pure _

/-- A structure that is entered, read and left is open no longer. -/
lemma opened_of_inside {entered left : Reader} {tag : Tag} {length : Nat} {start stop : Unit}
    (began : enter tag length reader = .ok start entered) (same : left.opened = entered.opened)
    (ended : structureEnd left = .ok stop final) :
    final.opened = reader.opened ∧ entered.remaining = reader.remaining ∧
      final.remaining = left.remaining := by
  obtain ⟨-, -, rfl⟩ := enter_eq_ok.1 began
  obtain ⟨_, _, opened, -, -, rfl⟩ := structureEnd_eq_ok.1 ended
  rw [opened] at same
  exact ⟨(List.cons.inj same).2, rfl, rfl⟩

/-- A structure takes what is taken in it. -/
lemma Steady.inside {least : Nat} {step : Read α} {next : α → Read β} (tag : Tag) (length : Nat)
    (steady : Steady least step) (behind : ∀ value, Steady 0 (next value)) :
    Steady least (do
      enter tag length
      let value ← step
      structureEnd
      next value) := by
  have both {reader final : Reader} {result : β} (read : (do
      enter tag length
      let value ← step
      structureEnd
      next value) reader = .ok result final) :
      final.opened = reader.opened ∧ final.remaining + least ≤ reader.remaining := by
    obtain ⟨_, entered, began, read⟩ := bind_eq_ok.1 read
    obtain ⟨value, left, inner, read⟩ := bind_eq_ok.1 read
    obtain ⟨_, behindIt, ended, rest⟩ := bind_eq_ok.1 read
    obtain ⟨opened, whole, kept⟩ := opened_of_inside began (steady.opened inner) ended
    have taken := steady.remaining inner
    have more := (behind value).remaining rest
    exact ⟨((behind value).opened rest).trans opened, by omega⟩
  exact ⟨fun read => (both read).1, fun read => (both read).2⟩

lemma steady_value {children : Read (List Item)} (steady : Steady 0 children) (header : Header) :
    Steady 0 (value children header) := by
  unfold value
  split
  · exact steady_throw _
  · exact (steady_content _ _ _).behind fun _ => steady_pure _
  · exact steady.inside _ _ fun _ => steady_pure _

lemma steady_itemsWithin (fuel : Nat) : Steady 0 (itemsWithin fuel) := by
  induction fuel with
  | zero =>
    refine steady_header?.behind fun found => ?_
    split
    · exact steady_pure _
    · exact steady_throw _
  | succ fuel ih =>
    refine steady_header?.behind fun found => ?_
    split
    · exact (steady_header.mono (Nat.zero_le _)).behind fun header =>
        (steady_value ih header).behind fun _ => ih.behind fun _ => steady_pure _
    · exact steady_pure _

lemma steady_get : Steady 0 (get : Read Reader) where
  opened read := by
    obtain ⟨-, rfl⟩ := EStateM.Result.ok.inj read
    rfl
  remaining read := by
    obtain ⟨-, rfl⟩ := EStateM.Result.ok.inj read
    exact le_rfl

lemma steady_headersLeft : Steady 0 headersLeft :=
  steady_get.behind fun _ => steady_pure _

lemma steady_item : Steady 8 item := by
  have tagged : Steady 8 taggedValue := steady_headersLeft.behind fun fuel =>
    steady_header.bind fun header =>
      (steady_value (steady_itemsWithin fuel) header).behind fun _ => steady_pure _
  exact tagged.bind fun _ => steady_pure _

lemma steady_valueAs (tag : Tag) : Steady 8 (valueAs tag) := by
  refine steady_headersLeft.behind fun fuel => steady_header.bind fun header => (?_ : Steady 0 _)
  have value := steady_value (steady_itemsWithin fuel) header
  split
  · exact (steady_throw _).behind fun _ => value
  · exact value

lemma steady_skipUnknownWithin (record : String) (known : List Tag) (fuel : Nat) :
    Steady 0 (skipUnknownWithin record known fuel) := by
  induction fuel with
  | zero => exact steady_pure _
  | succ fuel ih =>
    refine steady_tag?.behind fun found => ?_
    split
    · next tag =>
      split
      · exact steady_pure _
      · refine steady_get.behind fun reader => ?_
        split
        · exact steady_throw _
        · exact (steady_skip.mono (Nat.zero_le _)).behind fun _ => ih
    · exact steady_pure _

lemma steady_skipUnknown (record : String) (known : List Tag) :
    Steady 0 (skipUnknown record known) :=
  steady_headersLeft.behind fun _ => steady_skipUnknownWithin record known _

lemma steady_noFurtherField (record : String) (known : List Tag) :
    Steady 0 (noFurtherField record known) := by
  refine (steady_skipUnknown record known).behind fun _ => steady_tag?.behind fun found => ?_
  split
  · exact steady_throw _
  · exact steady_pure _

lemma steady_repeatedWithin {item : Read α} {between : Read Unit} (tag : Tag)
    (each : Steady 8 item) (gap : Steady 0 between) (fuel : Nat) :
    Steady 0 (repeatedWithin tag item between fuel) := by
  induction fuel with
  | zero => exact steady_pure _
  | succ fuel ih =>
    refine steady_tag?.behind fun found => ?_
    split
    · exact steady_pure _
    · exact (each.mono (Nat.zero_le _)).behind fun _ => gap.behind fun _ =>
        ih.behind fun _ => steady_pure _

/-- Every item that is read for a record takes a header at least; what is read in a record leaves the
structures open that were open before. -/
lemma closed_steady : Closed (fun _ step => Steady 8 step) (fun _ step => Steady 0 step) where
  scalar := steady_scalar
  valueAs := steady_valueAs
  bind_lift next _ item := item.bind fun value => steady_lift (next value)
  lift_bind found _ _ each := (steady_lift found).behind each
  structured {α step} tag record known row := by
    have inner (length : Nat) : Steady 0 (do
        enter tag length
        let value ← step
        noFurtherField record known
        structureEnd
        pure value) := by
      have within := row.behind fun value =>
        (steady_noFurtherField record known).behind fun _ => steady_pure value
      simpa using within.inside tag length fun value => steady_pure value
    simpa [structureStart] using (steady_expect tag .structured).bind inner
  pure := steady_pure
  throw fault _ := steady_throw fault
  bind row rows := row.behind rows
  skipUnknown := steady_skipUnknown
  ifTag tag item absent := steady_tag?.behind fun found => by
    split
    · exact item.mono (Nat.zero_le _)
    · exact absent
  repeated tag record known item := steady_headersLeft.behind fun fuel =>
    steady_repeatedWithin tag item (steady_skipUnknown record known) _

end Read

end Kmip
