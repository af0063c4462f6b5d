import Kmip.Fault

/-!
# Sources of bytes

Where a reader takes its bytes from. A source hands them over in runs of any size, may be interrupted
between runs, and either closes after the last byte or breaks there. Runs and interruptions leave no
trace in what is read: `Source.pull` takes the first bytes of `Source.unread`, and leaves the others.

An attempt that gives no byte is an end or a failure, so a run has a byte at least. It is assumed
that both are final: a source that has reported its end, or a failure other than an interruption,
reports the same to every later attempt, and gives no byte any more.
-/

namespace Kmip

/-- What one attempt to take bytes can meet. -/
inductive Delivery where
  /-- A run of bytes. -/
  | run (bytes : Bytes) (some : bytes ≠ [])
  /-- Nothing yet; the attempt is made again. -/
  | interruption
deriving DecidableEq, Repr

/-- What comes after the last byte of a source. -/
inductive Ending where
  /-- The source is closed. -/
  | closed
  /-- Every further attempt fails in this way. -/
  | broken (breakdown : Breakdown)
deriving DecidableEq, Repr

/-- Bytes to come. -/
structure Source where
  deliveries : List Delivery
  ending : Ending
deriving DecidableEq, Repr

namespace Delivery

/-- The bytes of a delivery. -/
def bytes : Delivery → Bytes
  | run bytes _ => bytes
  | interruption => []

/-- Bytes in one run, if there are any. -/
def ofBytes (bytes : Bytes) : List Delivery :=
  if none : bytes = [] then [] else [.run bytes none]

@[simp] theorem flatMap_bytes_ofBytes (bytes : Bytes) :
    (ofBytes bytes).flatMap Delivery.bytes = bytes := by
  unfold ofBytes
  split
  · next none => exact none.symm
  · exact List.append_nil bytes

/-- Up to `count` bytes of the deliveries, and what is left of them. Where nothing is wanted, nothing
is attempted. -/
def pull : (count : Nat) → List Delivery → Bytes × List Delivery
  | 0, deliveries => ([], deliveries)
  | _ + 1, [] => ([], [])
  | count + 1, .interruption :: rest => pull (count + 1) rest
  | count + 1, .run bytes _ :: rest =>
    if whole : bytes.length ≤ count + 1 then
      let (more, left) := pull (count + 1 - bytes.length) rest
      (bytes ++ more, left)
    else
      have some : bytes.drop (count + 1) ≠ [] := fun none => whole (List.drop_eq_nil_iff.1 none)
      (bytes.take (count + 1), .run (bytes.drop (count + 1)) some :: rest)

/-- Bytes are pulled from the front. -/
theorem pull_fst (count : Nat) (deliveries : List Delivery) :
    (pull count deliveries).1 = (deliveries.flatMap bytes).take count := by
  induction deliveries generalizing count with
  | nil => cases count <;> simp [pull]
  | cons delivery rest ih =>
    cases count with
    | zero => simp [pull]
    | succ count =>
      cases delivery with
      | interruption => simp [pull, ih, bytes]
      | run run =>
        rw [pull]
        split
        · next h => simp [ih, bytes, List.take_append, List.take_of_length_le h]
        · next h => simp [bytes, List.take_append, Nat.sub_eq_zero_of_le (Nat.le_of_not_le h)]

/-- Pulling leaves the bytes behind those that are taken. -/
theorem pull_snd (count : Nat) (deliveries : List Delivery) :
    (pull count deliveries).2.flatMap bytes = (deliveries.flatMap bytes).drop count := by
  induction deliveries generalizing count with
  | nil => cases count <;> simp [pull]
  | cons delivery rest ih =>
    cases count with
    | zero => simp [pull]
    | succ count =>
      cases delivery with
      | interruption => simp [pull, ih, bytes]
      | run run =>
        rw [pull]
        split
        · next h => simp [ih, bytes, List.drop_append, List.drop_of_length_le h]
        · next h => simp [bytes, List.drop_append, Nat.sub_eq_zero_of_le (Nat.le_of_not_le h)]

/-- Bytes pulled in two steps are those pulled in one. -/
theorem pull_pull (first second : Nat) (deliveries : List Delivery) :
    (pull second (pull first deliveries).2).2 = (pull (first + second) deliveries).2 := by
  induction deliveries generalizing first with
  | nil => cases first <;> cases second <;> simp [pull]
  | cons delivery rest ih =>
    cases first with
    | zero => simp [pull]
    | succ first =>
      have sum : first + 1 + second = first + second + 1 := by omega
      cases delivery with
      | interruption => simpa only [pull, sum] using ih (first + 1)
      | run run =>
        rw [sum, pull, pull]
        by_cases h : run.length ≤ first + 1
        · have more : first + 1 - run.length + second = first + second + 1 - run.length := by omega
          have total : run.length ≤ first + second + 1 := by omega
          simp [h, total, ih, more]
        · cases second with
          | zero => simp [h, pull]
          | succ second =>
            have rest_le : run.length - (first + 1) ≤ second + 1 ↔
                run.length ≤ first + (second + 1) + 1 := by omega
            by_cases total : run.length ≤ first + (second + 1) + 1
            · have left : second + 1 - (run.length - (first + 1)) =
                  first + (second + 1) + 1 - run.length := by omega
              simp [h, pull, rest_le, total, left]
            · have add : first + 1 + (second + 1) = first + (second + 1) + 1 := by omega
              simp [h, pull, rest_le, total, add]

/-- Deliveries without bytes are used up by the first attempt. -/
theorem pull_of_bytes_eq_nil {count : Nat} {deliveries : List Delivery}
    (none : deliveries.flatMap bytes = []) : (pull (count + 1) deliveries).2 = [] := by
  induction deliveries generalizing count with
  | nil => simp [pull]
  | cons delivery rest ih =>
    obtain ⟨first, later⟩ := List.append_eq_nil_iff.1 none
    cases delivery with
    | interruption => exact ih later
    | run run some => exact absurd first some

end Delivery

namespace Source

/-- A closed source of bytes that come in one run. -/
def ofBytes (bytes : Bytes) : Source := ⟨Delivery.ofBytes bytes, .closed⟩

/-- The bytes to come. -/
def unread (source : Source) : Bytes :=
  source.deliveries.flatMap Delivery.bytes

/-- Up to `count` bytes of a source, and what is left of it. -/
def pull (count : Nat) (source : Source) : Bytes × Source :=
  let (taken, left) := Delivery.pull count source.deliveries
  (taken, { source with deliveries := left })

/-- A source of which everything has been taken. -/
def drained (source : Source) : Source := { source with deliveries := [] }

@[simp] theorem pull_fst (count : Nat) (source : Source) :
    (source.pull count).1 = source.unread.take count :=
  Delivery.pull_fst count source.deliveries

@[simp] theorem unread_pull (count : Nat) (source : Source) :
    (source.pull count).2.unread = source.unread.drop count :=
  Delivery.pull_snd count source.deliveries

@[simp] theorem pull_pull (first second : Nat) (source : Source) :
    ((source.pull first).2.pull second).2 = (source.pull (first + second)).2 := by
  simp [pull, Delivery.pull_pull]

@[simp] theorem pull_zero (source : Source) : (source.pull 0).2 = source := by
  simp [pull, Delivery.pull]

@[simp] theorem ending_pull (count : Nat) (source : Source) :
    (source.pull count).2.ending = source.ending := rfl

@[simp] theorem unread_ofBytes (bytes : Bytes) : (ofBytes bytes).unread = bytes :=
  Delivery.flatMap_bytes_ofBytes bytes

end Source

end Kmip
