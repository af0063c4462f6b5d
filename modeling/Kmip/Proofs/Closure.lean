import Kmip.Shape.Decode
import Mathlib.Tactic.Lemma

/-!
# Properties of all readers of records

The steps that read records are put together from a few others. A pair of properties that each way of
putting steps together keeps (`Read.Closed`), one for the steps that read an item and one for those
that read what stands in a record, holds of the reader of every shape and of all fields
(`Read.Closed.shape`, `Read.Closed.fields`), whatever the value is that they go on from.
-/

namespace Kmip

/-- Whether a fault reports the length of a structure, as only entering and leaving one can do. -/
def Fault.isStructureLength : Fault → Bool
  | structureLength .. => true
  | _ => false

namespace Read

/-- What is missing fails with the fault that is given for it. -/
lemma elim_eq_error {α : Type} {found : Option α} {missing fault : Fault}
    (failed : found.elim (.error missing) .ok = Except.error fault) : missing = fault := by
  cases found with
  | none => exact Except.error.inj failed
  | some value => cases failed

/-- A code without a member says nothing about structures. -/
lemma memberOf_error {domain : Domain} {code : UInt32} {fault : Fault}
    (failed : Leaf.memberOf domain code = .error fault) : ¬ fault.isStructureLength := by
  obtain rfl := elim_eq_error failed
  exact nofun

/-- A selection without a variant says nothing about structures. -/
lemma blank_error {selection : Selection} {variants : Variants} {fault : Fault}
    (failed : selection.blank variants = .error fault) : ¬ fault.isStructureLength := by
  obtain rfl := elim_eq_error failed
  exact nofun

/-- `Item` is kept by the ways to put together a step that reads an item, and `Row` by those to put
together a step that reads items of a record. -/
structure Closed (Item Row : (α : Type) → Read α → Prop) : Prop where
  scalar : ∀ type tag, Item _ (scalar type tag)
  valueAs : ∀ tag, Item _ (valueAs tag)
  bind_lift : ∀ {α β : Type} {step : Read α} (next : α → Except Fault β),
    (∀ {value fault}, next value = .error fault → ¬ fault.isStructureLength) → Item α step →
      Item β (step >>= fun value => lift (next value))
  lift_bind : ∀ {α β : Type} (found : Except Fault α) {next : α → Read β},
    (∀ {fault}, found = .error fault → ¬ fault.isStructureLength) →
      (∀ value, Item β (next value)) → Item β (lift found >>= next)
  structured : ∀ {α : Type} {step : Read α} (tag : Tag) (record : String) (known : List Tag),
    Row α step → Item α (do
      structureStart tag
      let value ← step
      noFurtherField record known
      structureEnd
      pure value)
  pure : ∀ {α : Type} (value : α), Row α (pure value)
  throw : ∀ {α : Type} (fault : Fault), ¬ fault.isStructureLength → Row α (throw fault)
  bind : ∀ {α β : Type} {step : Read α} {next : α → Read β}, Row α step →
    (∀ value, Row β (next value)) → Row β (step >>= next)
  skipUnknown : ∀ record known, Row Unit (skipUnknown record known)
  ifTag : ∀ {α : Type} {step absent : Read α} (tag : Tag), Item α step → Row α absent →
    Row α (do if (← tag?) = some tag then step else absent)
  repeated : ∀ {α : Type} {item : Read α} (tag : Tag) (record : String) (known : List Tag),
    Item α item → Row (List α) (repeated tag item (Read.skipUnknown record known))

namespace Closed

variable {Item Row : (α : Type) → Read α → Prop}

/-- A value that has been read may be turned into another one. -/
lemma bind_pure (closed : Closed Item Row) {α β : Type} {step : Read α} (next : α → β)
    (item : Item α step) : Item β (step >>= fun value => Pure.pure (next value)) :=
  closed.bind_lift (fun value => .ok (next value)) nofun item

/-- The property of items holds of every leaf. -/
lemma leaf (closed : Closed Item Row) (leaf : Leaf) (tag : Tag) : Item _ (leaf.read tag) := by
  cases leaf with
  | interval => exact closed.bind_pure _ (closed.scalar .interval tag)
  | enumeration domain => exact closed.bind_lift _ memberOf_error (closed.scalar .enumeration tag)
  | usageMask => exact closed.bind_pure _ (closed.scalar .integer tag)
  | anything => exact closed.valueAs tag
  | integer => exact closed.scalar .integer tag
  | longInteger => exact closed.scalar .longInteger tag
  | bigInteger => exact closed.scalar .bigInteger tag
  | boolean => exact closed.scalar .boolean tag
  | text => exact closed.scalar .textString tag
  | bytes => exact closed.scalar .byteString tag
  | dateTime | timeStamp => exact closed.scalar .dateTime tag

/-- The property of rows holds of a field that stands at most once. -/
lemma presence (closed : Closed Item Row) {α : Type} (record : String) (tag : Tag)
    {item : α → Read α} (each : ∀ value, Item α (item value)) (blank : α) (presence : Presence)
    (value : presence.Val α) : Row _ (presence.read record tag item blank value) := by
  cases presence with
  | required => exact closed.ifTag tag (each value) (closed.throw _ nofun)
  | optional => exact closed.ifTag tag (closed.bind_pure some (each _)) (closed.pure _)

mutual

/-- The property of items holds of every shape. -/
lemma shape (closed : Closed Item Row) (tag : Tag) (shape : Shape) (value : shape.Val) :
    Item _ (shape.read tag value) := by
  cases shape with
  | leaf leaf => exact closed.leaf leaf tag
  | choice variants => exact closed.variants tag variants value
  | record name own fields =>
    exact closed.structured tag name fields.tags (closed.fields name fields.tags fields value)

/-- The property of rows holds of all fields. -/
lemma fields (closed : Closed Item Row) (record : String) (known : List Tag) (fields : Fields)
    (values : fields.Val) : Row _ (fields.read record known values) := by
  cases fields with
  | nil => exact closed.pure ()
  | one presence tag label shape rest =>
    exact closed.bind (closed.skipUnknown record known) fun _ =>
      closed.bind (closed.presence record tag (closed.shape tag shape) shape.blank presence _)
        fun _ => closed.bind (closed.fields record known rest _) fun _ => closed.pure _
  | many atLeastOne tag label shape rest =>
    refine closed.bind (closed.skipUnknown record known) fun _ =>
      closed.bind (closed.repeated tag record known (closed.shape tag shape shape.blank))
        fun more => ?_
    have others := closed.bind (closed.fields record known rest values.2) fun read =>
      closed.pure (values.1 ++ more, read)
    split
    · exact closed.bind (closed.throw _ nofun) fun _ => others
    · exact others
  | embedded label name own fields rest =>
    exact closed.bind (closed.skipUnknown record known) fun _ =>
      closed.bind (closed.fields name known fields _) fun _ =>
        closed.bind (closed.fields record known rest _) fun _ => closed.pure _
  | keyed selector keyTag keyLabel between presence tag label variants rest =>
    refine closed.bind (closed.skipUnknown record known) fun _ =>
      closed.bind (closed.presence record keyTag (fun _ => closed.leaf selector.leaf keyTag) _
        .required _) fun key =>
          closed.bind (closed.fields record known between _) fun _ =>
            closed.bind (closed.skipUnknown record known) fun _ =>
              closed.bind (closed.presence record tag (fun _ => ?_) variants.blank presence _)
                fun _ => closed.bind (closed.fields record known rest _) fun _ => closed.pure _
    exact closed.lift_bind _ blank_error fun blank => closed.variants tag variants blank

/-- The property of items holds of every variant. -/
lemma variants (closed : Closed Item Row) (tag : Tag) (variants : Variants)
    (value : variants.Val) : Item _ (variants.read tag value) := by
  cases variants with
  | only label shape => exact closed.shape tag shape value
  | or label shape rest =>
    cases value with
    | inl value => exact closed.bind_pure Sum.inl (closed.shape tag shape value)
    | inr value => exact closed.bind_pure Sum.inr (closed.variants tag rest value)

end

end Closed

end Read

end Kmip
