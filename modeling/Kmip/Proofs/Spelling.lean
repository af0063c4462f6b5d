import Kmip.Proofs.Mixed
import Kmip.Proofs.Shape

/-!
# How records are spelled

`Shape.Spells` says which mixed items spell a value of a shape: where the shape has a record, the
item has one, with the items of the fields in their order and foreign items anywhere between them.
Such an item is a layout of the tree of the value, but for the foreign items
(`Shape.denotes_of_spells`), and every such layout spells the value (`Shape.exists_spells`). Foreign
items that are added to the records in an item do not change what it spells
(`Shape.spells_of_stripped`).
-/

namespace Kmip

open Layout

/-- The item is a layout of the tree of a value that can be written. -/
def Leaf.Spells (tag : Tag) (leaf : Leaf) (value : leaf.Val) (item : Mixed) : Prop :=
  ∃ layout : Layout, item = .plain layout ∧ layout.Denotes ⟨tag.text, leaf.tree value⟩ ∧
    leaf.Valid value

mutual

/-- The item spells the value. What is foreign in a record has none of the tags that the record
declares. -/
def Shape.Spells (tag : Tag) : (shape : Shape) → shape.Val → Mixed → Prop
  | .leaf leaf, value, item => leaf.Spells tag value item
  | .choice variants, value, item => variants.Spells tag value item
  | .record _ _ fields, values, item =>
    ∃ parts, item = .record tag fields.tags parts ∧ Part.ForeignTo fields.tags parts ∧
      fields.Spells values (Part.owned parts)

/-- The items spell the values of the fields, one field after the other. -/
def Fields.Spells : (fields : Fields) → fields.Val → List Mixed → Prop
  | .nil, _, items => items = []
  | .one presence tag _ shape rest, (value, values), items =>
    ∃ front back, items = front ++ back ∧
      List.Forall₂ (fun item value => shape.Spells tag value item) front (presence.values value) ∧
      rest.Spells values back
  | .many atLeastOne tag _ shape rest, (all, values), items =>
    ¬ (all.isEmpty && atLeastOne) ∧ ∃ front back, items = front ++ back ∧
      List.Forall₂ (fun item value => shape.Spells tag value item) front all ∧
      rest.Spells values back
  | .embedded _ _ _ fields rest, (inner, values), items =>
    ∃ front back, items = front ++ back ∧ fields.Spells inner front ∧ rest.Spells values back
  | .keyed selector keyTag _ between presence tag _ variants rest, (key, inner, value, values),
      items =>
    ∃ first middle chosen back, items = first :: (middle ++ (chosen ++ back)) ∧
      selector.leaf.Spells keyTag key first ∧ between.Spells inner middle ∧
      List.Forall₂ (fun item value => (Selection.of selector key).check variants value = .ok () ∧
        variants.Spells tag value item) chosen (presence.values value) ∧
      rest.Spells values back

/-- The item spells a value of one of the variants. -/
def Variants.Spells (tag : Tag) : (variants : Variants) → variants.Val → Mixed → Prop
  | .only _ shape, value, item => shape.Spells tag value item
  | .or _ shape _, .inl value, item => shape.Spells tag value item
  | .or _ _ rest, .inr value, item => rest.Spells tag value item

end

/-- Values of one tag are denoted one after the other. -/
lemma Layout.forall₂_denotes_iff {α : Type} {tag : Tag} {tree : α → Value} {valid : α → Prop}
    {layouts : List Layout} {values : List α} :
    List.Forall₂ (fun layout value => layout.Denotes ⟨tag.text, tree value⟩ ∧ valid value) layouts
        values ↔
      DenotesAll layouts (values.map fun value => ⟨tag.text, tree value⟩) ∧
        ∀ value ∈ values, valid value := by
  induction values generalizing layouts with
  | nil => simp [denotesAll_nil_iff]
  | cons value rest ih =>
    simp only [List.forall₂_cons_right_iff, ih, List.map_cons, denotesAll_cons_iff,
      List.forall_mem_cons]
    constructor
    · rintro ⟨layout, others, ⟨head, fit⟩, ⟨tail, fine⟩, rfl⟩
      exact ⟨⟨layout, others, rfl, head, tail⟩, fit, fine⟩
    · rintro ⟨⟨layout, others, rfl, head, tail⟩, fit, fine⟩
      exact ⟨layout, others, ⟨head, fit⟩, ⟨tail, fine⟩, rfl⟩

/-- The trees of a field that selects, of what is between, of what is selected, and of the rest. -/
lemma Fields.trees_keyed {selector : Selector} {keyTag tag : Tag} {keyLabel label : String}
    {between rest : Fields} {presence : Presence} {variants : Variants} (key : selector.leaf.Val)
    (inner : between.Val) (value : presence.Val variants.Val) (values : rest.Val) :
    (keyed selector keyTag keyLabel between presence tag label variants rest).trees
        (key, inner, value, values) =
      ⟨keyTag.text, selector.leaf.tree key⟩ :: (between.trees inner ++
        ((presence.values value).map (fun value => ⟨tag.text, variants.tree value⟩) ++
          rest.trees values)) := by
  simp [trees]

section

variable {α : Type} {tag : Tag} {tree : α → Value} {valid : α → Prop} {spells : Mixed → α → Prop}
  {values : List α}

/-- Without foreign items, items that spell values are layouts of their trees, if each of them is
one. -/
lemma Mixed.denotesAll_of_spells {items : List Mixed}
    (spelled : List.Forall₂ spells items values)
    (each : ∀ item value, spells item value →
      item.kept.Denotes ⟨tag.text, tree value⟩ ∧ valid value) :
    DenotesAll (items.map Mixed.kept) (values.map fun value => ⟨tag.text, tree value⟩) ∧
      ∀ value ∈ values, valid value := by
  rw [← forall₂_denotes_iff, List.forall₂_map_left_iff]
  exact spelled.imp each

/-- Layouts of the trees of values spell these, if each of them does. -/
lemma Mixed.exists_spells {layouts : List Layout}
    (denoted : DenotesAll layouts (values.map fun value => ⟨tag.text, tree value⟩))
    (all : ∀ value ∈ values, valid value)
    (each : ∀ value (layout : Layout), layout.Denotes ⟨tag.text, tree value⟩ → valid value →
      ∃ item, spells item value ∧ item.IsPure layout) :
    ∃ items, List.Forall₂ spells items values ∧
      List.Forall₂ Mixed.IsPure items layouts := by
  have pairs := forall₂_denotes_iff.2 ⟨denoted, all⟩
  clear denoted all
  induction pairs with
  | nil => exact ⟨[], .nil, .nil⟩
  | @cons layout value layouts values head _ ih =>
    obtain ⟨item, spelled, pure⟩ := each value layout head.1 head.2
    obtain ⟨items, others, more⟩ := ih
    exact ⟨item :: items, .cons spelled others, .cons pure more⟩

/-- Items with foreign items in them spell what they spell without these, if each of them does. -/
lemma Mixed.spells_of_stripped {items : List Mixed} (strange : ∀ item ∈ items, item.Strange)
    (spelled : List.Forall₂ spells (items.map Mixed.stripped) values)
    (each : ∀ {item : Mixed} {value : α}, item.Strange → spells item.stripped value →
      spells item value) :
    List.Forall₂ spells items values := by
  rw [List.forall₂_map_left_iff] at spelled
  induction spelled with
  | nil => exact .nil
  | cons head _ ih =>
    obtain ⟨first, others⟩ := List.forall_mem_cons.1 strange
    exact .cons (each first head) (ih others)

end

mutual

/-- Without foreign items, an item that spells a value is a layout of its tree. -/
lemma Shape.denotes_of_spells (shape : Shape) (tag : Tag) {value : shape.Val} {item : Mixed}
    (spelled : shape.Spells tag value item) :
    item.kept.Denotes ⟨tag.text, shape.tree value⟩ ∧ shape.Valid value := by
  cases shape with
  | leaf leaf =>
    obtain ⟨layout, rfl, denoted, valid⟩ := spelled
    exact ⟨denoted, valid⟩
  | choice variants => exact variants.denotes_of_spells tag spelled
  | record name own fields =>
    obtain ⟨parts, rfl, -, spelled⟩ := spelled
    obtain ⟨denoted, valid⟩ := fields.denotesAll_of_spells spelled
    rw [← Part.keptOfAll_eq] at denoted
    exact ⟨denotes_structured_iff.2 ⟨_, rfl, denoted⟩, valid⟩

/-- Without foreign items, items that spell the values of fields are layouts of their trees. -/
lemma Fields.denotesAll_of_spells (fields : Fields) {values : fields.Val} {items : List Mixed}
    (spelled : fields.Spells values items) :
    DenotesAll (items.map Mixed.kept) (fields.trees values) ∧ fields.Valid values := by
  cases fields with
  | nil =>
    subst spelled
    exact ⟨rfl, trivial⟩
  | one presence tag label shape rest =>
    obtain ⟨value, values⟩ := values
    obtain ⟨front, back, rfl, spelled, others⟩ := spelled
    obtain ⟨denoted, valid⟩ :=
      Mixed.denotesAll_of_spells spelled fun _ _ => shape.denotes_of_spells tag
    obtain ⟨further, fine⟩ := rest.denotesAll_of_spells others
    rw [List.map_append]
    exact ⟨denotesAll_append_iff.2 ⟨_, _, rfl, denoted, further⟩, valid, fine⟩
  | many atLeastOne tag label shape rest =>
    obtain ⟨all, values⟩ := values
    obtain ⟨there, front, back, rfl, spelled, others⟩ := spelled
    obtain ⟨denoted, valid⟩ :=
      Mixed.denotesAll_of_spells spelled fun _ _ => shape.denotes_of_spells tag
    obtain ⟨further, fine⟩ := rest.denotesAll_of_spells others
    rw [List.map_append]
    exact ⟨denotesAll_append_iff.2 ⟨_, _, rfl, denoted, further⟩, there, valid, fine⟩
  | embedded label name own fields rest =>
    obtain ⟨inner, values⟩ := values
    obtain ⟨front, back, rfl, spelled, others⟩ := spelled
    obtain ⟨denoted, valid⟩ := fields.denotesAll_of_spells spelled
    obtain ⟨further, fine⟩ := rest.denotesAll_of_spells others
    rw [List.map_append]
    exact ⟨denotesAll_append_iff.2 ⟨_, _, rfl, denoted, further⟩, valid, fine⟩
  | keyed selector keyTag keyLabel between presence tag label variants rest =>
    obtain ⟨key, inner, value, values⟩ := values
    obtain ⟨first, middle, chosen, back, rfl, ⟨layout, rfl, selects, fit⟩, spelled, selected,
      others⟩ := spelled
    obtain ⟨between, proper⟩ := between.denotesAll_of_spells spelled
    have each (item : Mixed) (value : variants.Val)
        (spelled : (Selection.of selector key).check variants value = .ok () ∧
          variants.Spells tag value item) :
        item.kept.Denotes ⟨tag.text, variants.tree value⟩ ∧
          (Selection.of selector key).check variants value = .ok () ∧ variants.Valid value :=
      and_left_comm.1 ⟨spelled.1, variants.denotes_of_spells tag spelled.2⟩
    obtain ⟨denoted, valid⟩ := Mixed.denotesAll_of_spells selected each
    obtain ⟨further, fine⟩ := rest.denotesAll_of_spells others
    rw [Fields.trees_keyed]
    simp only [List.map_cons, List.map_append, Mixed.kept]
    refine ⟨?_, fit, proper, valid, fine⟩
    exact denotesAll_cons_iff.2 ⟨layout, _, rfl, selects,
      denotesAll_append_iff.2 ⟨_, _, rfl, between,
        denotesAll_append_iff.2 ⟨_, _, rfl, denoted, further⟩⟩⟩

/-- Without foreign items, an item that spells a value of a variant is a layout of its tree. -/
lemma Variants.denotes_of_spells (variants : Variants) (tag : Tag) {value : variants.Val}
    {item : Mixed} (spelled : variants.Spells tag value item) :
    item.kept.Denotes ⟨tag.text, variants.tree value⟩ ∧ variants.Valid value := by
  cases variants with
  | only label shape => exact shape.denotes_of_spells tag spelled
  | or label shape rest =>
    cases value with
    | inl value => exact shape.denotes_of_spells tag spelled
    | inr value => exact rest.denotes_of_spells tag spelled

end

mutual

/-- A layout of the tree of a value spells it. -/
lemma Shape.exists_spells (shape : Shape) (tag : Tag) {value : shape.Val} {layout : Layout}
    (denoted : layout.Denotes ⟨tag.text, shape.tree value⟩) (valid : shape.Valid value) :
    ∃ item, shape.Spells tag value item ∧ item.IsPure layout := by
  cases shape with
  | leaf leaf => exact ⟨.plain layout, ⟨layout, rfl, denoted, valid⟩, rfl, rfl⟩
  | choice variants => exact variants.exists_spells tag denoted valid
  | record name own fields =>
    obtain ⟨layouts, rfl, inside⟩ := denotes_structured_iff.1 denoted
    obtain ⟨items, spelled, pure⟩ := fields.exists_spells inside valid
    exact ⟨.record tag fields.tags (items.map .own), ⟨_, rfl, Part.foreignTo_map_own _ _,
      (Part.owned_map_own items).symm ▸ spelled⟩, Mixed.isPure_record pure⟩

/-- Layouts of the trees of fields spell their values. -/
lemma Fields.exists_spells (fields : Fields) {values : fields.Val} {layouts : List Layout}
    (denoted : DenotesAll layouts (fields.trees values)) (valid : fields.Valid values) :
    ∃ items, fields.Spells values items ∧ List.Forall₂ Mixed.IsPure items layouts := by
  cases fields with
  | nil =>
    obtain rfl := denotesAll_nil_iff.1 denoted
    exact ⟨[], rfl, .nil⟩
  | one presence tag label shape rest =>
    obtain ⟨value, values⟩ := values
    obtain ⟨valid, fine⟩ := valid
    obtain ⟨front, back, rfl, denoted, further⟩ := denotesAll_append_iff.1 denoted
    obtain ⟨items, spelled, pure⟩ :=
      Mixed.exists_spells denoted valid fun _ _ => shape.exists_spells tag
    obtain ⟨others, more, clean⟩ := rest.exists_spells further fine
    exact ⟨items ++ others, ⟨_, _, rfl, spelled, more⟩, List.rel_append pure clean⟩
  | many atLeastOne tag label shape rest =>
    obtain ⟨all, values⟩ := values
    obtain ⟨there, valid, fine⟩ := valid
    obtain ⟨front, back, rfl, denoted, further⟩ := denotesAll_append_iff.1 denoted
    obtain ⟨items, spelled, pure⟩ :=
      Mixed.exists_spells denoted valid fun _ _ => shape.exists_spells tag
    obtain ⟨others, more, clean⟩ := rest.exists_spells further fine
    exact ⟨items ++ others, ⟨there, _, _, rfl, spelled, more⟩, List.rel_append pure clean⟩
  | embedded label name own fields rest =>
    obtain ⟨inner, values⟩ := values
    obtain ⟨valid, fine⟩ := valid
    obtain ⟨front, back, rfl, denoted, further⟩ := denotesAll_append_iff.1 denoted
    obtain ⟨items, spelled, pure⟩ := fields.exists_spells denoted valid
    obtain ⟨others, more, clean⟩ := rest.exists_spells further fine
    exact ⟨items ++ others, ⟨_, _, rfl, spelled, more⟩, List.rel_append pure clean⟩
  | keyed selector keyTag keyLabel between presence tag label variants rest =>
    obtain ⟨key, inner, value, values⟩ := values
    obtain ⟨fit, proper, valid, fine⟩ := valid
    rw [Fields.trees_keyed] at denoted
    obtain ⟨layout, _, rfl, selects, denoted⟩ := denotesAll_cons_iff.1 denoted
    obtain ⟨middle, _, rfl, inside, denoted⟩ := denotesAll_append_iff.1 denoted
    obtain ⟨chosen, back, rfl, selected, further⟩ := denotesAll_append_iff.1 denoted
    obtain ⟨inners, spelled, pure⟩ := between.exists_spells inside proper
    have each (value : variants.Val) (layout : Layout)
        (denoted : layout.Denotes ⟨tag.text, variants.tree value⟩)
        (valid : (Selection.of selector key).check variants value = .ok () ∧
          variants.Valid value) :
        ∃ item, ((Selection.of selector key).check variants value = .ok () ∧
          variants.Spells tag value item) ∧ item.IsPure layout := by
      obtain ⟨item, spelled, pure⟩ := variants.exists_spells tag denoted valid.2
      exact ⟨item, ⟨valid.1, spelled⟩, pure⟩
    obtain ⟨picked, choices, clear⟩ := Mixed.exists_spells selected valid each
    obtain ⟨others, more, clean⟩ := rest.exists_spells further fine
    refine ⟨.plain layout :: (inners ++ (picked ++ others)),
      ⟨_, _, _, _, rfl, ⟨layout, rfl, selects, fit⟩, spelled, choices, more⟩, ?_⟩
    exact .cons ⟨rfl, rfl⟩ (List.rel_append pure (List.rel_append clear clean))

/-- A layout of the tree of a value of a variant spells it. -/
lemma Variants.exists_spells (variants : Variants) (tag : Tag) {value : variants.Val}
    {layout : Layout} (denoted : layout.Denotes ⟨tag.text, variants.tree value⟩)
    (valid : variants.Valid value) :
    ∃ item, variants.Spells tag value item ∧ item.IsPure layout := by
  cases variants with
  | only label shape => exact shape.exists_spells tag denoted valid
  | or label shape rest =>
    cases value with
    | inl value => exact shape.exists_spells tag denoted valid
    | inr value => exact rest.exists_spells tag denoted valid

end

mutual

/-- An item with foreign items in it spells what it spells without these. -/
lemma Shape.spells_of_stripped (shape : Shape) {tag : Tag} {value : shape.Val} {item : Mixed}
    (strange : item.Strange) (spelled : shape.Spells tag value item.stripped) :
    shape.Spells tag value item := by
  cases shape with
  | leaf leaf =>
    obtain ⟨layout, same, meant⟩ := spelled
    cases item with
    | plain layout => exact ⟨layout, rfl, Mixed.plain.inj same ▸ meant⟩
    | record => cases same
  | choice variants => exact variants.spells_of_stripped strange spelled
  | record name own fields =>
    obtain ⟨parts, same, -, spelled⟩ := spelled
    cases item with
    | plain layout => cases same
    | record other known inside =>
      obtain ⟨rfl, rfl, rfl⟩ := Mixed.record.inj same
      obtain ⟨foreign, strange⟩ := Part.allStrange_iff.1 strange
      rw [Part.owned_strippedAll] at spelled
      exact ⟨inside, rfl, foreign, fields.spells_of_stripped strange spelled⟩

/-- Items with foreign items in them spell the fields that they spell without these. -/
lemma Fields.spells_of_stripped (fields : Fields) {values : fields.Val} {items : List Mixed}
    (strange : ∀ item ∈ items, item.Strange)
    (spelled : fields.Spells values (items.map Mixed.stripped)) : fields.Spells values items := by
  cases fields with
  | nil => exact List.map_eq_nil_iff.1 spelled
  | one presence tag label shape rest =>
    obtain ⟨value, values⟩ := values
    obtain ⟨_, _, same, spelled, others⟩ := spelled
    obtain ⟨front, back, rfl, rfl, rfl⟩ := List.map_eq_append_iff.1 same
    obtain ⟨first, further⟩ := List.forall_mem_append.1 strange
    exact ⟨front, back, rfl, Mixed.spells_of_stripped first spelled shape.spells_of_stripped,
      rest.spells_of_stripped further others⟩
  | many atLeastOne tag label shape rest =>
    obtain ⟨all, values⟩ := values
    obtain ⟨there, _, _, same, spelled, others⟩ := spelled
    obtain ⟨front, back, rfl, rfl, rfl⟩ := List.map_eq_append_iff.1 same
    obtain ⟨first, further⟩ := List.forall_mem_append.1 strange
    exact ⟨there, front, back, rfl, Mixed.spells_of_stripped first spelled shape.spells_of_stripped,
      rest.spells_of_stripped further others⟩
  | embedded label name own fields rest =>
    obtain ⟨inner, values⟩ := values
    obtain ⟨_, _, same, spelled, others⟩ := spelled
    obtain ⟨front, back, rfl, rfl, rfl⟩ := List.map_eq_append_iff.1 same
    obtain ⟨first, further⟩ := List.forall_mem_append.1 strange
    exact ⟨front, back, rfl, fields.spells_of_stripped first spelled,
      rest.spells_of_stripped further others⟩
  | keyed selector keyTag keyLabel between presence tag label variants rest =>
    obtain ⟨key, inner, value, values⟩ := values
    obtain ⟨_, _, _, _, same, ⟨layout, rfl, selects⟩, spelled, selected, others⟩ := spelled
    obtain ⟨first, _, rfl, key, after⟩ := List.map_eq_cons_iff.1 same
    obtain ⟨middle, _, rfl, rfl, last⟩ := List.map_eq_append_iff.1 after
    obtain ⟨chosen, back, rfl, rfl, rfl⟩ := List.map_eq_append_iff.1 last
    obtain ⟨-, behind⟩ := List.forall_mem_cons.1 strange
    obtain ⟨inside, behind⟩ := List.forall_mem_append.1 behind
    obtain ⟨picked, further⟩ := List.forall_mem_append.1 behind
    -- the field that selects is read as a whole, so that there is nothing foreign in it
    obtain rfl : first = .plain layout := by
      cases first with
      | plain other => exact key
      | record => cases key
    exact ⟨_, middle, chosen, back, rfl, ⟨layout, rfl, selects⟩,
      between.spells_of_stripped inside spelled,
      Mixed.spells_of_stripped picked selected fun strange spelled =>
        ⟨spelled.1, variants.spells_of_stripped strange spelled.2⟩,
      rest.spells_of_stripped further others⟩

/-- An item with foreign items in it spells the variant that it spells without these. -/
lemma Variants.spells_of_stripped (variants : Variants) {tag : Tag} {value : variants.Val}
    {item : Mixed} (strange : item.Strange) (spelled : variants.Spells tag value item.stripped) :
    variants.Spells tag value item := by
  cases variants with
  | only label shape => exact shape.spells_of_stripped strange spelled
  | or label shape rest =>
    cases value with
    | inl value => exact shape.spells_of_stripped strange spelled
    | inr value => exact rest.spells_of_stripped strange spelled

end

end Kmip
