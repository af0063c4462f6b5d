import Kmip.Proofs.Closure

/-!
# Properties that every step keeps

A property of steps that is kept by the few steps that touch the source or the account of a reader, and
by one step behind another (`Read.Kept`), holds of every step that a reader offers and of every reader
of records (`Read.Kept.closed`).
-/

namespace Kmip.Read

/-- A length is refused because the type has another one, or for a big integer. -/
lemma checkLength_eq_error {type : ScalarType} {length : Nat} {fault : Fault}
    (failed : type.checkLength length = .error fault) :
    (∃ width, fault = .unexpectedLength width length) ∨ fault = .invalidBigIntegerLength length := by
  unfold ScalarType.checkLength at failed
  split at failed
  · next width _ =>
    split at failed <;> cases failed
    exact .inl ⟨width, rfl⟩
  · split at failed <;> cases failed
    exact .inr rfl

/-- Bytes are refused as a truth value, as a text or as a date-time. -/
lemma decode_eq_error {type : ScalarType} {bytes : Bytes} {fault : Fault}
    (failed : type.decode bytes = .error fault) :
    fault = .invalidBoolean bytes ∨ (∃ flaw, fault = .invalidText flaw) ∨
      ∃ seconds, fault = .invalidDateTime seconds := by
  cases type with
  | boolean =>
    simp only [ScalarType.decode] at failed
    split at failed <;> cases failed
    exact .inl rfl
  | textString =>
    simp only [ScalarType.decode] at failed
    cases read : Utf8.decode bytes with rw [read] at failed
    | ok text => cases failed
    | error flaw =>
      cases failed
      exact .inr (.inl ⟨flaw, rfl⟩)
  | dateTime =>
    obtain rfl := elim_eq_error failed
    exact .inr (.inr ⟨_, rfl⟩)
  | _ => cases failed

lemma checkLength_error {type : ScalarType} {length : Nat} {fault : Fault}
    (failed : type.checkLength length = .error fault) : ¬ fault.isStructureLength := by
  obtain ⟨_, rfl⟩ | rfl := checkLength_eq_error failed <;> exact Bool.false_ne_true

lemma decode_error {type : ScalarType} {bytes : Bytes} {fault : Fault}
    (failed : type.decode bytes = .error fault) : ¬ fault.isStructureLength := by
  obtain rfl | ⟨_, rfl⟩ | ⟨_, rfl⟩ := decode_eq_error failed <;> exact Bool.false_ne_true

/-- `P` is kept by the steps of which all others are made, and by one step behind another. A fault
with which a step is stopped says nothing about the length of a structure. -/
structure Kept (P : (α : Type) → Read α → Prop) : Prop where
  pure : ∀ {α : Type} (value : α), P α (pure value)
  throw : ∀ {α : Type} (fault : Fault), ¬ fault.isStructureLength → P α (throw fault)
  get : P Reader get
  bind : ∀ {α β : Type} {step : Read α} {next : α → Read β}, P α step →
    (∀ value, P β (next value)) → P β (step >>= next)
  bytes : ∀ count, P Bytes (Read.bytes count)
  pass : ∀ count, P Unit (pass count)
  header? : P (Option Header) header?
  dropPending : P Unit dropPending
  enter : ∀ tag length, P Unit (enter tag length)
  structureEnd : P Unit structureEnd

namespace Kept

variable {P : (α : Type) → Read α → Prop} {α β : Type}

lemma lift (kept : Kept P) (found : Except Fault α)
    (plain : ∀ {fault}, found = .error fault → ¬ fault.isStructureLength) : P α (lift found) := by
  cases found with
  | ok value => exact kept.pure value
  | error fault => exact kept.throw fault (plain rfl)

/-- What a check lets through. -/
lemma guard (kept : Kept P) {refused : Prop} [Decidable refused] {fault : Fault}
    {stuck : α → Read β} {next : Read β} (plain : ¬ fault.isStructureLength) (item : P β next) :
    P β (if refused then MonadExcept.throw fault >>= stuck else next) := by
  split
  · exact (kept.throw fault plain : P β (MonadExcept.throw fault))
  · exact item

lemma tag? (kept : Kept P) : P _ tag? :=
  kept.bind kept.header? fun _ => kept.pure _

lemma header (kept : Kept P) : P _ Read.header := by
  refine kept.bind kept.header? fun found => ?_
  cases found with
  | none => exact kept.throw _ nofun
  | some header => exact kept.bind kept.dropPending fun _ => kept.pure _

lemma expect (kept : Kept P) (tag : Tag) (type : ItemType) : P _ (expect tag type) := by
  refine kept.bind kept.header? fun found => ?_
  cases found with
  | none => exact kept.throw _ nofun
  | some header =>
    refine kept.guard ?_ (kept.guard ?_ ?_)
    · exact nofun
    · exact nofun
    · exact kept.bind kept.dropPending fun _ => kept.pure _

lemma padding (kept : Kept P) (tag : Tag) (length : Nat) : P _ (padding tag length) := by
  refine kept.bind (kept.bytes _) fun bytes => ?_
  split
  · exact kept.throw _ nofun
  · exact kept.pure _

lemma content (kept : Kept P) (type : ScalarType) (tag : Tag) (length : Nat) :
    P _ (content type tag length) :=
  kept.bind (kept.lift _ checkLength_error) fun _ => kept.bind (kept.bytes _) fun _ =>
    kept.bind (kept.padding _ _) fun _ => kept.lift _ decode_error

lemma sized (kept : Kept P) (type : ScalarType) (tag : Tag) : P _ (sized type tag) :=
  kept.bind (kept.expect _ _) fun _ => kept.bind (kept.content _ _ _) fun _ => kept.pure _

lemma scalar (kept : Kept P) (type : ScalarType) (tag : Tag) : P _ (scalar type tag) :=
  kept.bind (kept.sized type tag) fun _ => kept.pure _

lemma structureStart (kept : Kept P) (tag : Tag) : P _ (structureStart tag) :=
  kept.bind (kept.expect tag .structured) fun length => kept.enter tag length

lemma skip (kept : Kept P) : P _ skip :=
  kept.bind kept.header fun _ => kept.pass _

lemma value (kept : Kept P) {children : Read (List Item)} (inner : P _ children)
    (header : Header) : P _ (value children header) := by
  unfold Read.value
  split
  · exact kept.throw _ nofun
  · exact kept.bind (kept.content _ _ _) fun _ => kept.pure _
  · exact kept.bind (kept.enter _ _) fun _ => kept.bind inner fun _ =>
      kept.bind kept.structureEnd fun _ => kept.pure _

lemma itemsWithin (kept : Kept P) (fuel : Nat) : P _ (itemsWithin fuel) := by
  induction fuel with
  | zero =>
    refine kept.bind kept.header? fun found => ?_
    split
    · exact kept.pure _
    · exact kept.throw _ nofun
  | succ fuel ih =>
    refine kept.bind kept.header? fun found => ?_
    split
    · exact kept.bind kept.header fun header => kept.bind (kept.value ih header) fun _ =>
        kept.bind ih fun _ => kept.pure _
    · exact kept.pure _

lemma headersLeft (kept : Kept P) : P _ headersLeft :=
  kept.bind kept.get fun _ => kept.pure _

lemma item (kept : Kept P) : P _ item :=
  kept.bind (kept.bind kept.headersLeft fun fuel => kept.bind kept.header fun header =>
    kept.bind (kept.value (kept.itemsWithin fuel) header) fun _ => kept.pure _) fun _ => kept.pure _

lemma valueAs (kept : Kept P) (tag : Tag) : P _ (valueAs tag) := by
  refine kept.bind kept.headersLeft fun fuel => kept.bind kept.header fun header => ?_
  refine kept.guard ?_ (kept.value (kept.itemsWithin fuel) header)
  exact nofun

lemma skipUnknownWithin (kept : Kept P) (record : String) (known : List Tag) (fuel : Nat) :
    P _ (skipUnknownWithin record known fuel) := by
  induction fuel with
  | zero => exact kept.pure _
  | succ fuel ih =>
    refine kept.bind kept.tag? fun found => ?_
    split
    · split
      · exact kept.pure _
      · refine kept.bind kept.get fun reader => ?_
        split
        · exact kept.throw _ nofun
        · exact kept.bind kept.skip fun _ => ih
    · exact kept.pure _

lemma skipUnknown (kept : Kept P) (record : String) (known : List Tag) :
    P _ (skipUnknown record known) :=
  kept.bind kept.headersLeft fun _ => kept.skipUnknownWithin record known _

lemma noFurtherField (kept : Kept P) (record : String) (known : List Tag) :
    P _ (noFurtherField record known) := by
  refine kept.bind (kept.skipUnknown record known) fun _ => kept.bind kept.tag? fun found => ?_
  split
  · exact kept.throw _ nofun
  · exact kept.pure _

lemma repeatedWithin (kept : Kept P) {item : Read α} {between : Read Unit} (tag : Tag)
    (each : P _ item) (gap : P _ between) (fuel : Nat) :
    P _ (repeatedWithin tag item between fuel) := by
  induction fuel with
  | zero => exact kept.pure _
  | succ fuel ih =>
    refine kept.bind kept.tag? fun found => ?_
    split
    · exact kept.pure _
    · exact kept.bind each fun _ => kept.bind gap fun _ => kept.bind ih fun _ => kept.pure _

/-- What every step keeps is kept by all steps that read records. -/
lemma closed (kept : Kept P) : Closed P P where
  scalar := kept.scalar
  valueAs := kept.valueAs
  bind_lift _ plain item := kept.bind item fun _ => kept.lift _ plain
  lift_bind found _ plain each := kept.bind (kept.lift found plain) each
  structured tag record known row := kept.bind (kept.structureStart tag) fun _ =>
    kept.bind row fun _ => kept.bind (kept.noFurtherField record known) fun _ =>
      kept.bind kept.structureEnd fun _ => kept.pure _
  pure := kept.pure
  throw := kept.throw
  bind := kept.bind
  skipUnknown := kept.skipUnknown
  ifTag tag item absent := kept.bind kept.tag? fun found => by
    split
    · exact item
    · exact absent
  repeated tag record known item := kept.bind kept.headersLeft fun _ =>
    kept.repeatedWithin tag item (kept.skipUnknown record known) _

end Kept

end Kmip.Read
