import Kmip.Proofs.Regular
import Kmip.Proofs.Taking
import Kmip.Shape.Decode

/-!
# Reading into a value

What is read into a value is merged with it. Whether the read succeeds, which bytes it takes and
which fault it meets does not depend on the value that is there before (`Record.merge_of_read`).
-/

namespace Kmip

/-- The value of a field when another one is given: it is merged where both are there. -/
def Presence.merge {α : Type} (merge : α → α → α) :
    (presence : Presence) → presence.Val α → presence.Val α → presence.Val α
  | required, old, new => merge old new
  | optional, old, none => old
  | optional, none, some new => some new
  | optional, some old, some new => some (merge old new)

mutual

/-- A value with what is given anew: a record is merged field by field, and what has no fields is
replaced. -/
def Shape.merge : (shape : Shape) → shape.Val → shape.Val → shape.Val
  | .leaf _, _, new => new
  | .choice _, _, new => new
  | .record _ _ fields, old, new => fields.merge old new

/-- Fields with those that are given anew: a field that is absent keeps its old value, repeated
fields are put behind the old ones, and a value whose form is selected is replaced as a whole. -/
def Fields.merge : (fields : Fields) → fields.Val → fields.Val → fields.Val
  | .nil, _, _ => ()
  | .one presence _ _ shape rest, (old, olds), (new, news) =>
    (presence.merge shape.merge old new, rest.merge olds news)
  | .many _ _ _ _ rest, (old, olds), (new, news) => (old ++ new, rest.merge olds news)
  | .embedded _ _ _ fields rest, (old, olds), (new, news) =>
    (fields.merge old new, rest.merge olds news)
  | .keyed _ _ _ between presence _ _ _ rest, (_, oldInner, old, olds), (key, inner, new, news) =>
    (key, between.merge oldInner inner, presence.merge (fun _ new => new) old new,
      rest.merge olds news)

end

/-- A record with another one that is given anew. -/
def Record.merge (record : Record) (old new : record.Val) : record.Val :=
  record.fields.merge old new

mutual

/-- The values in a value whose form has been selected, each with the forms that it could have. -/
def Shape.selected : (shape : Shape) → shape.Val → List (Σ variants : Variants, variants.Val)
  | .leaf _, _ => []
  | .choice variants, value => [⟨variants, value⟩]
  | .record _ _ fields, values => fields.selected values

/-- The values in fields whose form has been selected. -/
def Fields.selected : (fields : Fields) → fields.Val → List (Σ variants : Variants, variants.Val)
  | .nil, _ => []
  | .one presence _ _ shape rest, (value, values) =>
    (presence.values value).flatMap shape.selected ++ rest.selected values
  | .many _ _ _ shape rest, (items, values) => items.flatMap shape.selected ++ rest.selected values
  | .embedded _ _ _ fields rest, (inner, values) => fields.selected inner ++ rest.selected values
  | .keyed _ _ _ between presence _ _ variants rest, (_, inner, value, values) =>
    between.selected inner ++ (presence.values value).map (Sigma.mk variants) ++
      rest.selected values

end

namespace Read

variable {α : Type}

/-- A step whose value is changed fails as the step does. -/
lemma map_eq_error {β : Type} {step : Read α} {change : α → β} {fault : Fault}
    {reader final : Reader} :
    (change <$> step) reader = .error fault final ↔ step reader = .error fault final := by
  change EStateM.map change step reader = _ ↔ _
  rw [EStateM.map]
  cases step reader <;> simp

/-- A step whose value is changed ends where the step does. -/
lemma map_eq_ok {β : Type} {step : Read α} {change : α → β} {value : α} {reader final : Reader}
    (read : step reader = .ok value final) :
    (change <$> step) reader = .ok (change value) final := by
  change EStateM.map change step reader = _
  rw [EStateM.map, read]

end Read

/-- A field is read into its old value as it is read into none, if its item is. -/
lemma Presence.read_eq_merge {α : Type} {merge : α → α → α} {item : α → Read α} {blank : α}
    (reads : ∀ old, item old = merge old <$> item blank) (record : String) (tag : Tag) :
    (presence : Presence) → (old : presence.Val α) →
    presence.read record tag item blank old =
      presence.merge merge old <$> presence.read record tag item blank (presence.blank blank)
  | .required, old => by
    simp only [Presence.read, Presence.blank, map_bind]
    refine bind_congr fun found => ?_
    split
    · exact reads old
    · rfl
  | .optional, none => by
    simp only [Presence.read, Presence.blank, map_bind, Option.getD_none]
    refine bind_congr fun found => ?_
    split
    · simp [Presence.merge]
    · rfl
  | .optional, some old => by
    simp only [Presence.read, Presence.blank, map_bind, Option.getD_none, Option.getD_some]
    refine bind_congr fun found => ?_
    split
    · simp [reads old, Presence.merge]
    · rfl

mutual

/-- A value is read into an old one as it is read into none, and is merged with it. -/
lemma Shape.read_eq_merge (tag : Tag) : (shape : Shape) → shape.isRegular = true →
    (old : shape.Val) → shape.read tag old = shape.merge old <$> shape.read tag shape.blank
  | .leaf leaf, _, old => by
    simp [Shape.read, Shape.merge]
  | .choice _, regular, _ => by cases regular
  | .record name _ fields, regular, old => by
    obtain ⟨-, inner⟩ := Bool.and_eq_true_iff.1 regular
    simp [Shape.read, Shape.blank, Shape.merge, fields.read_eq_merge name fields.tags inner old]

/-- Fields are read into old ones as they are read into none, and are merged with them. -/
lemma Fields.read_eq_merge (record : String) (known : List Tag) : (fields : Fields) →
    fields.isRegular = true → (old : fields.Val) →
    fields.read record known old = fields.merge old <$> fields.read record known fields.blank
  | .nil, _, _ => rfl
  | .one presence tag _ shape rest, regular, (old, olds) => by
    obtain ⟨inner, behind⟩ := Bool.and_eq_true_iff.1 regular
    have value := Presence.read_eq_merge (shape.read_eq_merge tag inner) record tag presence old
    have values := rest.read_eq_merge record known behind olds
    simp [Fields.read, Fields.blank, Fields.merge, value, values]
  | .many atLeastOne tag _ shape rest, regular, (old, olds) => by
    obtain ⟨-, behind⟩ := Bool.and_eq_true_iff.1 regular
    have values := rest.read_eq_merge record known behind olds
    simp only [Fields.read, Fields.blank, Fields.merge, values, map_bind, bind_map_left,
      List.nil_append]
    refine bind_congr fun _ => bind_congr fun more => ?_
    split
    · rfl
    · simp only [map_bind, map_pure]
  | .embedded _ name _ fields rest, regular, (old, olds) => by
    obtain ⟨inner, behind⟩ := Bool.and_eq_true_iff.1 regular
    have value := fields.read_eq_merge name known inner old
    have values := rest.read_eq_merge record known behind olds
    simp [Fields.read, Fields.blank, Fields.merge, value, values]
  | .keyed selector keyTag _ between presence tag _ variants rest, regular,
      (oldKey, oldInner, old, olds) => by
    obtain ⟨upTo, behind⟩ := Bool.and_eq_true_iff.1 regular
    obtain ⟨upTo, -⟩ := Bool.and_eq_true_iff.1 upTo
    obtain ⟨inner, -⟩ := Bool.and_eq_true_iff.1 upTo
    have inners := between.read_eq_merge record known inner oldInner
    have values := rest.read_eq_merge record known behind olds
    -- what is selected is read into no old value, so that nothing of one is left in it
    have value (selected : Read variants.Val) :
        presence.read record tag (fun _ => selected) variants.blank old =
          presence.merge (fun _ new => new) old <$> presence.read record tag (fun _ => selected)
            variants.blank (presence.blank variants.blank) :=
      Presence.read_eq_merge (fun _ => (id_map selected).symm) record tag presence old
    simp only [Fields.read, Fields.blank, Fields.merge, inners, value, values, map_bind,
      bind_map_left, map_pure]
    -- the field that selects does not look at its old value either
    rfl

end

/-- A list is drawn from an old and a new one: it holds all of the new one in its order, and nothing
that is in neither. -/
structure Drawn {α : Type} (old new merged : List α) : Prop where
  sublist : new.Sublist merged
  subset : merged ⊆ old ++ new

namespace Drawn

variable {α β : Type}

/-- The new list alone is drawn from both. -/
lemma new (old new : List α) : Drawn old new new where
  sublist := .refl new
  subset := List.subset_append_right old new

/-- Where nothing is new, the old list is drawn from both. -/
lemma old (old : List α) : Drawn old [] old where
  sublist := List.nil_sublist old
  subset := List.subset_append_left old []

/-- Both lists, one behind the other, are drawn from both. -/
lemma both (old new : List α) : Drawn old new (old ++ new) where
  sublist := List.sublist_append_right old new
  subset := List.Subset.refl _

lemma append {old new merged olds news others : List α} (front : Drawn old new merged)
    (back : Drawn olds news others) : Drawn (old ++ olds) (new ++ news) (merged ++ others) where
  sublist := front.sublist.append back.sublist
  subset := by
    refine List.append_subset.2 ⟨fun one mem => ?_, fun one mem => ?_⟩
    · have found := List.mem_append.1 (front.subset mem)
      simp only [List.mem_append]
      tauto
    · have found := List.mem_append.1 (back.subset mem)
      simp only [List.mem_append]
      tauto

/-- What is taken from the value of a field that is merged. -/
lemma presence {merge : α → α → α} {taken : α → List β}
    (drawn : ∀ old new, Drawn (taken old) (taken new) (taken (merge old new))) :
    (presence : Presence) → (old new : presence.Val α) →
    Drawn ((presence.values old).flatMap taken) ((presence.values new).flatMap taken)
      ((presence.values (presence.merge merge old new)).flatMap taken)
  | .required, old, new => by
    simpa [Presence.values, Presence.toOption, Presence.merge] using drawn old new
  | .optional, old, none => Drawn.old _
  | .optional, none, some new => Drawn.new [] _
  | .optional, some old, some new => by
    simpa [Presence.values, Presence.toOption, Presence.merge] using drawn old new

end Drawn

mutual

/-- A value whose form has been selected is taken over as a whole. -/
lemma Shape.drawn_selected : (shape : Shape) → (old new : shape.Val) →
    Drawn (shape.selected old) (shape.selected new) (shape.selected (shape.merge old new))
  | .leaf _, _, _ => .new [] []
  | .choice _, _, _ => .new _ _
  | .record _ _ fields, old, new => fields.drawn_selected old new

/-- A value in fields whose form has been selected is taken over as a whole. -/
lemma Fields.drawn_selected : (fields : Fields) → (old new : fields.Val) →
    Drawn (fields.selected old) (fields.selected new) (fields.selected (fields.merge old new))
  | .nil, _, _ => .new [] []
  | .one presence _ _ shape rest, (old, olds), (new, news) =>
    (Drawn.presence shape.drawn_selected presence old new).append (rest.drawn_selected olds news)
  | .many _ _ _ shape rest, (old, olds), (new, news) => by
    simp only [Fields.selected, Fields.merge, List.flatMap_append]
    exact (Drawn.both _ _).append (rest.drawn_selected olds news)
  | .embedded _ _ _ fields rest, (old, olds), (new, news) =>
    (fields.drawn_selected old new).append (rest.drawn_selected olds news)
  | .keyed _ _ _ between presence _ _ variants rest, (_, oldInner, old, olds),
      (_, inner, new, news) => by
    have value : Drawn ((presence.values old).map (Sigma.mk variants))
        ((presence.values new).map (Sigma.mk variants))
        ((presence.values (presence.merge (fun _ new => new) old new)).map (Sigma.mk variants)) := by
      simp only [List.map_eq_flatMap]
      exact Drawn.presence (fun _ _ => .new _ _) presence old new
    exact ((between.drawn_selected oldInner inner).append value).append
      (rest.drawn_selected olds news)

end

namespace Record

variable {record : Record}

/-- A record that is read into an old value meets the fault, takes the bytes and leaves the reader
that it does when it is read into none; what is read is merged with the old value. Each value in it
whose form has been selected comes as a whole from what has been read or from the old value, and
none that has been read is missing. -/
theorem merge_of_read (mem : record ∈ Records.all) (tag : Tag) (old : record.Val)
    (reader : Reader) :
    (∀ fault left, record.shape.read tag old reader = .error fault left ↔
      record.shape.read tag record.blank reader = .error fault left) ∧
    ∀ new left, record.shape.read tag record.blank reader = .ok new left →
      record.shape.read tag old reader = .ok (record.merge old new) left ∧
      (record.fields.selected new).Sublist (record.fields.selected (record.merge old new)) ∧
      record.fields.selected (record.merge old new) ⊆
        record.fields.selected old ++ record.fields.selected new := by
  have merged : record.shape.read tag old =
      record.shape.merge old <$> record.shape.read tag record.shape.blank :=
    record.shape.read_eq_merge tag (Records.isRegular mem) old
  have blank : record.shape.blank = record.blank := Shape.blank.eq_def _
  rw [blank] at merged
  constructor
  · intro fault left
    rw [merged, Read.map_eq_error]
  · intro new left read
    have drawn := record.fields.drawn_selected old new
    exact ⟨merged ▸ Read.map_eq_ok read, drawn.sublist, drawn.subset⟩

/-- Of a request that names an object and an attribute, another attribute is read: the object stays,
and the attribute comes behind the one that is there. Where there is nothing to read, reading fails
for any value that is there before. -/
theorem merge_of_read_getAttributesRequest :
    let request (object : Option String) (names : List String) : Records.getAttributesRequest.Val :=
      (object, names, ())
    let bytes : Bytes :=
      [0x42, 0, 0x79, 1, 0, 0, 0, 0x10, 0x42, 0, 0x0A, 7, 0, 0, 0, 1, 0x62, 0, 0, 0, 0, 0, 0, 0]
    let start := Reader.start (.ofBytes bytes) .strict
    let final : Reader := ⟨.strict, ⟨[], .closed⟩, 24, none, []⟩
    let read := Records.getAttributesRequest.shape.read .requestPayload
    read Records.getAttributesRequest.blank start = .ok (request none ["b"]) final ∧
      read (request (some "id") ["a"]) start = .ok (request (some "id") ["a", "b"]) final ∧
      read (request (some "id") ["a"]) final = .error .endOfInput final := by
  intro request bytes start final read
  have mem : Records.getAttributesRequest ∈ Records.all :=
    List.mem_of_getElem? (by rfl : Records.all[26]? = _)
  have given : @Eq (Except Fault (Option String × List String × Unit))
      (Read.outcome (read Records.getAttributesRequest.blank start)) (.ok (none, ["b"], ())) := by
    decide +kernel
  have fresh : read Records.getAttributesRequest.blank start = .ok (request none ["b"]) final :=
    Read.eq_ok_iff.2 ⟨given, by decide +kernel⟩
  have missing : read Records.getAttributesRequest.blank final = .error .endOfInput final := by
    rfl
  have merges := merge_of_read mem .requestPayload (request (some "id") ["a"])
  exact ⟨fresh, ((merges start).2 _ _ fresh).1, ((merges final).1 _ _).2 missing⟩

end Record

end Kmip
