import Kmip.Proofs.Kept
import Kmip.Proofs.Steady

/-!
# What holds of a reader at every point

A reader keeps account of its place: the structures that are open lie within each other and have
begun, they are not too many, and no byte counts as read that the source has not given
(`Reader.Coherent`). No step breaks this, whether it succeeds or fails, and none goes back
(`Reader.Onward`). A report on the length of a structure is made at such a place, and what it states
are lengths (`Reader.Reports`).
-/

namespace Kmip

/-- A structure lies within another one. -/
def OpenStructure.Within (inner outer : OpenStructure) : Prop :=
  outer.start ≤ inner.start ∧ inner.stop ≤ outer.stop

namespace Reader

/-- What a reader keeps account of agrees with its settings, and with what its source, which held
`source` at first, has given. -/
structure Coherent (source : Source) (config : Config) (reader : Reader) : Prop where
  config_eq : reader.config = config
  ordered : ∀ entered ∈ reader.opened, entered.start ≤ entered.stop
  nested : reader.opened.IsChain OpenStructure.Within
  started : ∀ entered ∈ reader.opened, entered.start ≤ reader.offset
  shallow : reader.depth ≤ config.maxDepth
  given : ∃ given, source.unread = given ++ reader.source.unread ∧ reader.offset ≤ given.length

/-- The report that the innermost structure declares one length and has another. Both are true
differences of places: none is cut off at zero. -/
inductive Reports (reader : Reader) : (tag : Tag) → (declared actual : Nat) → Prop
  /-- A structure of `length` bytes would end behind the innermost one. -/
  | beyond {innermost : OpenStructure} {outer : List OpenStructure} {declared actual length : Nat}
      (opened : reader.opened = innermost :: outer)
      (declares : innermost.start + declared = innermost.stop)
      (spans : innermost.start + actual = reader.offset + length)
      (further : declared < actual) : Reports reader innermost.tag declared actual
  /-- The innermost structure is left where it does not end, or with a header that no step has
  taken. -/
  | early {innermost : OpenStructure} {outer : List OpenStructure} {declared actual : Nat}
      (opened : reader.opened = innermost :: outer)
      (declares : innermost.start + declared = innermost.stop)
      (spans : innermost.start + actual = reader.offset)
      (other : declared ≠ actual ∨ reader.pending.isSome) :
      Reports reader innermost.tag declared actual

/-- One reader comes after another one, on the same source. -/
structure Onward (reader final : Reader) : Prop where
  coherent : ∀ {source : Source} {config : Config}, reader.Coherent source config →
    final.Coherent source config
  offset_le : reader.offset ≤ final.offset

variable {reader middle final : Reader}

@[refl] lemma Onward.refl (reader : Reader) : reader.Onward reader :=
  ⟨id, le_rfl⟩

lemma Onward.trans (first : reader.Onward middle) (second : middle.Onward final) :
    reader.Onward final :=
  ⟨fun coherent => second.coherent (first.coherent coherent), first.offset_le.trans second.offset_le⟩

/-- Bytes are pulled from the source, of which no more count as read than there are. The header that
has been looked at may change. -/
lemma onward_pull {count offset : Nat} {pending : Option Header} (least : reader.offset ≤ offset)
    (most : offset ≤ reader.offset + (reader.source.unread.take count).length) :
    reader.Onward { reader with source := (reader.source.pull count).2, offset, pending } where
  coherent {source _} coherent := by
    obtain ⟨given, whole, enough⟩ := coherent.given
    refine ⟨coherent.config_eq, coherent.ordered, coherent.nested,
      fun entered inside => (coherent.started entered inside).trans least, coherent.shallow,
      given ++ reader.source.unread.take count, ?_, ?_⟩
    · rw [Source.unread_pull, List.append_assoc, List.take_append_drop, whole]
    · rw [List.length_append]
      exact most.trans (Nat.add_le_add_right enough _)
  offset_le := least

/-- The header that has been looked at may change. -/
lemma onward_pending (pending : Option Header) : reader.Onward { reader with pending } where
  coherent coherent := ⟨coherent.config_eq, coherent.ordered, coherent.nested, coherent.started,
    coherent.shallow, coherent.given⟩
  offset_le := le_rfl

/-- A structure is entered that lies within the innermost one. -/
lemma onward_entering {tag : Tag} {length : Nat} (shallow : reader.depth < reader.config.maxDepth)
    (within : ∀ parent ∈ reader.opened.head?, reader.offset + length ≤ parent.stop) :
    reader.Onward (reader.entering tag length) where
  coherent coherent := by
    have inside : ∀ parent ∈ reader.opened.head?,
        OpenStructure.Within ⟨tag, reader.offset, reader.offset + length⟩ parent :=
      fun parent innermost =>
        ⟨coherent.started parent (List.mem_of_mem_head? innermost), within parent innermost⟩
    refine ⟨coherent.config_eq, ?_, List.isChain_cons.2 ⟨inside, coherent.nested⟩, ?_,
      coherent.config_eq ▸ shallow, coherent.given⟩
    · exact List.forall_mem_cons.2 ⟨Nat.le_add_right _ _, coherent.ordered⟩
    · exact List.forall_mem_cons.2 ⟨le_rfl, coherent.started⟩
  offset_le := le_rfl

/-- The innermost structure is left. -/
lemma onward_leaving {innermost : OpenStructure} {outer : List OpenStructure}
    (opened : reader.opened = innermost :: outer) :
    reader.Onward { reader with opened := outer } where
  coherent {_ config} coherent := by
    have deep : outer.length + 1 ≤ config.maxDepth := by
      simpa [depth, opened] using coherent.shallow
    refine ⟨coherent.config_eq, fun entered inside => coherent.ordered entered ?_, ?_,
      fun entered inside => coherent.started entered ?_, Nat.le_of_succ_le deep, coherent.given⟩
    · exact opened ▸ List.mem_cons_of_mem innermost inside
    · exact (List.isChain_cons.1 (opened ▸ coherent.nested)).2
    · exact opened ▸ List.mem_cons_of_mem innermost inside
  offset_le := le_rfl

/-- All bytes are pulled from the source. -/
lemma onward_drained : reader.Onward { reader with source := reader.source.drained } where
  coherent coherent := by
    obtain ⟨given, whole, enough⟩ := coherent.given
    refine ⟨coherent.config_eq, coherent.ordered, coherent.nested, coherent.started,
      coherent.shallow, _, (List.append_nil _).symm, enough.trans ?_⟩
    rw [whole, List.length_append]
    exact Nat.le_add_right _ _
  offset_le := le_rfl

end Reader

namespace Read

open Reader

variable {α β : Type} {reader final : Reader}

/-- Two steps fail where the first does, or the second on its result. -/
lemma bind_eq_error {step : Read α} {next : α → Read β} {fault : Fault} :
    (step >>= next) reader = .error fault final ↔ step reader = .error fault final ∨
      ∃ value middle, step reader = .ok value middle ∧ next value middle = .error fault final := by
  simp only [bind, EStateM.bind]
  cases step reader <;> simp

/-- Whether it succeeds or fails, the step leaves a reader that comes after the one it began with. A
report that it makes on the length of a structure is one of a reader in between. -/
structure Careful (step : Read α) : Prop where
  ok : ∀ {reader final : Reader} {value : α}, step reader = .ok value final →
    reader.Onward final
  error : ∀ {reader final : Reader} {fault : Fault}, step reader = .error fault final →
    reader.Onward final
  reports : ∀ {reader final : Reader} {source : Source} {config : Config} {tag : Tag}
    {declared actual : Nat}, reader.Coherent source config →
      step reader = .error (.structureLength tag declared actual) final →
        ∃ middle, reader.Onward middle ∧ middle.Onward final ∧
          middle.Reports tag declared actual

/-- A step that makes no report on the length of a structure. -/
lemma careful_of_not_reports {step : Read α}
    (ok : ∀ {reader final : Reader} {value : α}, step reader = .ok value final →
      reader.Onward final)
    (error : ∀ {reader final : Reader} {fault : Fault}, step reader = .error fault final →
      reader.Onward final ∧ ¬ fault.isStructureLength) : Careful step where
  ok := ok
  error failed := (error failed).1
  reports _ failed := absurd rfl (error failed).2

lemma careful_pure (value : α) : Careful (pure value) := by
  refine careful_of_not_reports (fun done => ?_) nofun
  obtain ⟨-, rfl⟩ := pure_eq_ok.1 done
  exact .refl _

lemma careful_throw (fault : Fault) (plain : ¬ fault.isStructureLength) :
    Careful (throw fault : Read α) := by
  refine careful_of_not_reports nofun fun failed => ?_
  obtain ⟨rfl, rfl⟩ := EStateM.Result.error.inj failed
  exact ⟨.refl _, plain⟩

lemma Careful.bind {step : Read α} {next : α → Read β} (careful : Careful step)
    (behind : ∀ value, Careful (next value)) : Careful (step >>= next) where
  ok done := by
    obtain ⟨value, middle, first, rest⟩ := bind_eq_ok.1 done
    exact (careful.ok first).trans ((behind value).ok rest)
  error failed := by
    obtain first | ⟨value, middle, first, rest⟩ := bind_eq_error.1 failed
    · exact careful.error first
    · exact (careful.ok first).trans ((behind value).error rest)
  reports coherent failed := by
    -- a report of the second step is made of a reader that comes after the first one
    obtain first | ⟨value, middle, first, rest⟩ := bind_eq_error.1 failed
    · exact careful.reports coherent first
    · have onward := careful.ok first
      obtain ⟨place, later, left, reported⟩ :=
        (behind value).reports (onward.coherent coherent) rest
      exact ⟨place, onward.trans later, left, reported⟩

/-- A step that looks at the reader only. -/
lemma careful_get : Careful (get : Read Reader) := by
  refine careful_of_not_reports (fun done => ?_) nofun
  obtain ⟨-, rfl⟩ := EStateM.Result.ok.inj done
  exact .refl _

/-- A source that fails says nothing about structures. -/
lemma plain_breakdown (breakdown : Breakdown) : ¬ breakdown.fault.isStructureLength := by
  obtain same | same := breakdown.fault_eq <;> rw [same] <;> exact Bool.false_ne_true

lemma plain_fault (ending : Ending) : ¬ ending.fault.isStructureLength := by
  cases ending with
  | closed => exact Bool.false_ne_true
  | broken breakdown => exact plain_breakdown breakdown

lemma careful_bytes (count : Nat) : Careful (Read.bytes count) := by
  refine careful_of_not_reports (fun done => ?_) fun failed => ?_
  · obtain ⟨length, front, rfl⟩ := bytes_eq_ok.1 done
    refine onward_pull (Nat.le_add_right _ _) ?_
    have enough := front.length_le
    rw [List.length_take]
    omega
  · simp only [Read.bytes] at failed
    split at failed
    · cases failed
    · obtain ⟨rfl, rfl⟩ := EStateM.Result.error.inj failed
      exact ⟨onward_pull le_rfl (Nat.le_add_right _ _), plain_fault _⟩

lemma careful_pass (count : Nat) : Careful (pass count) := by
  refine careful_of_not_reports (fun done => ?_) fun failed => ?_
  · obtain ⟨enough, rfl⟩ := pass_eq_ok.1 done
    refine onward_pull (Nat.le_add_right _ _) ?_
    rw [List.length_take]
    omega
  · simp only [pass, Source.pull_fst] at failed
    split at failed
    · cases failed
    · split at failed <;> obtain ⟨rfl, rfl⟩ := EStateM.Result.error.inj failed
      · exact ⟨onward_pull (Nat.le_add_right _ _) le_rfl, Bool.false_ne_true⟩
      · exact ⟨onward_pull le_rfl (Nat.le_add_right _ _), plain_breakdown _⟩

/-- Whatever comes of a look at the next header, it leaves a reader that comes after the one before,
and its fault says nothing about structures. -/
lemma onward_header? (reader : Reader) :
    match header? reader with
    | .ok _ final => reader.Onward final
    | .error fault final => reader.Onward final ∧ ¬ fault.isStructureLength := by
  have moved {pending : Option Header} :
      reader.Onward { reader with
        source := (reader.source.pull 8).2
        offset := reader.offset + (reader.source.unread.take 8).length
        pending } :=
    onward_pull (Nat.le_add_right _ _) le_rfl
  unfold header?
  by_cases pending : reader.pending.isSome
  · simp only [if_pos pending]
    exact .refl _
  by_cases stop : reader.atStop
  · simp only [if_neg pending, if_pos stop]
    exact .refl _
  simp only [if_neg pending, if_neg stop, Source.pull_fst]
  cases Header.ofBytes? (reader.source.unread.take 8) with
  | some header =>
    by_cases large : ¬ header.isStructure ∧ reader.config.maxValueLength < header.length
    · simp only [if_pos large]
      exact ⟨moved, Bool.false_ne_true⟩
    · simp only [if_neg large]
      exact moved
  | none =>
    cases (reader.source.pull 8).2.ending with
    | broken breakdown =>
      exact ⟨onward_pull le_rfl (Nat.le_add_right _ _), plain_breakdown breakdown⟩
    | closed =>
      by_cases clean : reader.source.unread.take 8 = [] ∧ reader.opened = []
      · simp only [if_pos clean]
        exact moved
      · simp only [if_neg clean]
        exact ⟨moved, Bool.false_ne_true⟩

lemma careful_header? : Careful header? := by
  refine careful_of_not_reports (fun {reader _ _} done => ?_) fun {reader _ _} failed => ?_
  · have onward := onward_header? reader
    rwa [done] at onward
  · have onward := onward_header? reader
    rwa [failed] at onward

lemma careful_dropPending : Careful dropPending := by
  refine careful_of_not_reports (fun done => ?_) nofun
  obtain ⟨-, rfl⟩ := EStateM.Result.ok.inj done
  exact onward_pending none

/-- A structure that lies too deep, or that would end behind the innermost one, is not entered. -/
lemma enter_eq_error {tag : Tag} {length : Nat} {fault : Fault}
    (failed : enter tag length reader = .error fault final) :
    final = reader ∧ (fault = .tooDeep reader.config.maxDepth ∨
      ∃ parent outer, reader.opened = parent :: outer ∧ parent.stop < reader.offset + length ∧
        fault = .structureLength parent.tag (parent.stop - parent.start)
          (reader.offset + length - parent.start)) := by
  unfold enter at failed
  split at failed
  · obtain ⟨rfl, rfl⟩ := EStateM.Result.error.inj failed
    exact ⟨rfl, .inl rfl⟩
  · cases opened : reader.opened with
    | nil => simp [opened] at failed
    | cons parent outer =>
      simp only [opened] at failed
      split at failed
      · next beyond =>
        obtain ⟨rfl, rfl⟩ := EStateM.Result.error.inj failed
        exact ⟨rfl, .inr ⟨parent, outer, rfl, beyond, rfl⟩⟩
      · cases failed

lemma careful_enter (tag : Tag) (length : Nat) : Careful (enter tag length) := by
  have stays {reader final : Reader} {fault : Fault}
      (failed : enter tag length reader = .error fault final) : reader.Onward final :=
    (enter_eq_error failed).1 ▸ .refl _
  refine ⟨fun done => ?_, stays,
    fun {reader _ _ _ _ _ _} coherent failed => ⟨reader, .refl _, stays failed, ?_⟩⟩
  · obtain ⟨shallow, within, rfl⟩ := enter_eq_ok.1 done
    exact onward_entering shallow within
  · obtain ⟨-, deep | ⟨parent, outer, opened, beyond, same⟩⟩ := enter_eq_error failed
    · cases deep
    · obtain ⟨rfl, rfl, rfl⟩ := Fault.structureLength.inj same
      have innermost : parent ∈ reader.opened := opened ▸ List.mem_cons_self
      have ordered := coherent.ordered parent innermost
      have started := coherent.started parent innermost
      -- no difference is cut off: the innermost structure has begun, and ends no earlier than it began
      refine .beyond opened (Nat.add_sub_cancel' ordered) (Nat.add_sub_cancel' ?_) ?_
      · exact started.trans (Nat.le_add_right _ length)
      · exact Nat.sub_lt_sub_right ordered beyond

/-- A structure that is left with a report is left all the same. -/
lemma structureEnd_eq_error {fault : Fault} (failed : structureEnd reader = .error fault final) :
    fault = .noOpenStructure ∧ final = reader ∨
      ∃ innermost outer, reader.opened = innermost :: outer ∧
        (reader.offset ≠ innermost.stop ∨ reader.pending.isSome) ∧
        fault = .structureLength innermost.tag (innermost.stop - innermost.start)
          (reader.offset - innermost.start) ∧
        final = { reader with opened := outer } := by
  unfold structureEnd at failed
  split at failed
  · obtain ⟨rfl, rfl⟩ := EStateM.Result.error.inj failed
    exact .inl ⟨rfl, rfl⟩
  · next innermost outer opened =>
    split at failed
    · next wrong =>
      obtain ⟨rfl, rfl⟩ := EStateM.Result.error.inj failed
      exact .inr ⟨innermost, outer, opened, wrong.symm, rfl, rfl⟩
    · cases failed

lemma careful_structureEnd : Careful structureEnd := by
  have leaves {reader final : Reader} {fault : Fault}
      (failed : structureEnd reader = .error fault final) : reader.Onward final := by
    obtain ⟨-, rfl⟩ | ⟨_, _, opened, -, -, rfl⟩ := structureEnd_eq_error failed
    · exact .refl _
    · exact onward_leaving opened
  refine ⟨fun done => ?_, leaves,
    fun {reader _ _ _ _ _ _} coherent failed => ⟨reader, .refl _, leaves failed, ?_⟩⟩
  · obtain ⟨_, _, opened, -, -, rfl⟩ := structureEnd_eq_ok.1 done
    exact onward_leaving opened
  · obtain ⟨none, -⟩ | ⟨innermost, outer, opened, wrong, same, -⟩ := structureEnd_eq_error failed
    · cases none
    · obtain ⟨rfl, rfl, rfl⟩ := Fault.structureLength.inj same
      have inside : innermost ∈ reader.opened := opened ▸ List.mem_cons_self
      have ordered := coherent.ordered innermost inside
      have started := coherent.started innermost inside
      refine .early opened (Nat.add_sub_cancel' ordered) (Nat.add_sub_cancel' started) ?_
      refine wrong.imp_left fun other => ?_
      omega

lemma careful_finish : Careful finish := by
  refine careful_of_not_reports (fun done => ?_) fun failed => ?_
  · obtain ⟨-, -, rfl⟩ := finish_eq_ok.1 done
    exact onward_drained
  · unfold finish at failed
    split at failed
    · obtain ⟨rfl, rfl⟩ := EStateM.Result.error.inj failed
      exact ⟨onward_drained, plain_breakdown _⟩
    · split at failed
      · obtain ⟨rfl, rfl⟩ := EStateM.Result.error.inj failed
        exact ⟨onward_drained, nofun⟩
      · cases failed

/-- Every step that a reader offers is careful. -/
lemma kept_careful : Kept fun _ step => Careful step where
  pure := careful_pure
  throw := careful_throw
  get := careful_get
  bind := .bind
  bytes := careful_bytes
  pass := careful_pass
  header? := careful_header?
  dropPending := careful_dropPending
  enter := careful_enter
  structureEnd := careful_structureEnd

/-- So are all steps that read records. -/
lemma closed_careful : Closed (fun _ step => Careful step) (fun _ step => Careful step) :=
  Kept.closed kept_careful

end Read

end Kmip
