import Kmip.Proofs.FormMembers

/-!
# The order of the members of a form

A form is read directly from its text, where its members come in any order and may come twice, or by
way of a value, whose members are sorted. What is read directly is read by way of the value as well
(`Item.readsAs_sorted`), and the other way round if every object is in order
(`Item.readsAs_of_sorted`). No order makes an item one of another type than its object declares
(`Item.readsDeclared`).
-/

namespace Kmip.Item

variable {item : Item} {members : List (String × Json)}

/-- Sorted names follow each other as they may, if they may stand in a form at all. -/
lemma inOrder_sortedMembers :
    InOrder (Json.names (Json.sortedMembers [] members)) ↔
      ∀ name ∈ Json.names members, name ∈ formNames := by
  have pairwise : (Json.names (Json.sortedMembers [] members)).Pairwise (· < ·) :=
    Json.pairwise_sortedMembers members List.Pairwise.nil
  have backward : ¬ ["value", "type"].Pairwise (· < ·) := by decide
  constructor
  · intro inOrder name mem
    exact inOrder.known name (Json.mem_names_sortedMembers.2 mem)
  · intro known
    exact ⟨pairwise.imp ne_of_lt, fun sublist => backward (pairwise.sublist sublist),
      fun name mem => known name (Json.mem_names_sortedMembers.1 mem)⟩

lemma found_map_sorted {find : String → Option Json} {tag : String} {type : Option ItemType}
    {json : Json} :
    Found (fun name => (find name).map Json.sorted) tag type json ↔
      ∃ value, value.sorted = json ∧ Found find tag type value := by
  constructor
  · rintro ⟨named, typed, held⟩
    obtain ⟨value, found, rfl⟩ := Option.map_eq_some_iff.1 held
    obtain ⟨text, under, same⟩ := Option.map_eq_some_iff.1 named
    obtain rfl := Json.sorted_eq_string.1 same
    refine ⟨value, rfl, under, ?_, found⟩
    cases type with
    | none => exact Option.map_eq_none_iff.1 typed
    | some type =>
      obtain ⟨text, under, same⟩ := Option.map_eq_some_iff.1 typed
      obtain rfl := Json.sorted_eq_string.1 same
      exact under
  · rintro ⟨value, rfl, named, typed, held⟩
    refine ⟨congrArg _ named, (congrArg _ typed).trans ?_, congrArg _ held⟩
    cases type <;> rfl

/-- By way of sorted members, an item is read if the names may stand in a form and what is found
under the last member of each name can be read. -/
lemma ofForm_sorted_eq_ok :
    ofForm (Json.object members).sorted = .ok item ↔
      (∀ name ∈ Json.names members, name ∈ formNames) ∧ ∃ type json,
        Found (fun name => Json.last? name members) item.tag type json ∧
          Draft.valueOf (type.getD .structured) json.sorted = .ok item.value := by
  rw [Json.sorted, ofForm_object_eq_ok, inOrder_sortedMembers]
  simp only [Json.lookup_sortedMembers_nil, found_map_sorted]
  refine and_congr_right fun _ => exists_congr fun type => ?_
  constructor
  · rintro ⟨_, ⟨json, rfl, found⟩, read⟩
    exact ⟨json, found, read⟩
  · rintro ⟨json, found, read⟩
    exact ⟨_, ⟨json, rfl, found⟩, read⟩

/-- A value that can be read for another one is read as the value of a form like it. -/
lemma valueOf_mono {type : ItemType} {json other : Json} {value : Value}
    (items : ∀ items, itemsOf json = .ok items → itemsOf other = .ok items)
    (primitive : other.primitive = json.primitive) (read : Draft.valueOf type json = .ok value) :
    Draft.valueOf type other = .ok value := by
  cases type with
  | structured =>
    obtain ⟨list, found, made⟩ := Encoded.bind_eq_ok.1 read
    exact Encoded.bind_eq_ok.2 ⟨list, items list found, made⟩
  | scalar type =>
    obtain ⟨content, found, made⟩ := Encoded.bind_eq_ok.1 read
    exact Encoded.bind_eq_ok.2 ⟨content, primitive ▸ found, made⟩

/-- Every item and every list of items that is read from the value is read from the other one. -/
structure ReadsAs (json other : Json) : Prop where
  item : ∀ item, ofForm json = .ok item → ofForm other = .ok item
  items : ∀ items, itemsOf json = .ok items → itemsOf other = .ok items

lemma readsAs_array {forms others : List Json} (each : List.Forall₂ ReadsAs forms others) :
    ReadsAs (.array forms) (.array others) where
  item := nofun
  items := by
    induction each with
    | nil => exact fun _ read => read
    | cons first rest ih =>
      intro items read
      obtain ⟨item, one, read⟩ := Encoded.bind_eq_ok.1 read
      obtain ⟨items, all, read⟩ := Encoded.bind_eq_ok.1 read
      exact Encoded.bind_eq_ok.2 ⟨item, first.item item one,
        Encoded.bind_eq_ok.2 ⟨items, ih items all, read⟩⟩

/-- What is read from a value is read when its members are sorted. -/
lemma readsAs_sorted (json : Json) : ReadsAs json json.sorted := by
  induction json using Json.induction with
  | single json levels =>
    rw [Json.sorted_of_levels_eq_zero levels]
    exact ⟨fun _ read => read, fun _ read => read⟩
  | array forms ih =>
    rw [Json.sorted, Json.sortedItems_eq_map]
    refine readsAs_array ?_
    rw [List.forall₂_map_right_iff, List.forall₂_same]
    exact ih
  | object members ih =>
    refine ⟨fun item read => ?_, fun _ read => by cases read⟩
    obtain ⟨inOrder, type, json, ⟨tag, typed, value⟩, read⟩ := ofForm_object_eq_ok.1 read
    have last := Json.last?_eq_lookup inOrder.unique
    refine ofForm_sorted_eq_ok.2 ⟨inOrder.known, type, json, ⟨?_, ?_, ?_⟩, ?_⟩
    · exact (last _).trans tag
    · exact (last _).trans typed
    · exact (last _).trans value
    · exact valueOf_mono (ih _ (Json.mem_of_lookup value)).items (Json.primitive_sorted json) read

/-- No object repeats a name or has its type behind its value. -/
def Orderly (json : Json) : Prop :=
  ∀ members ∈ json.objects,
    (Json.names members).Nodup ∧ ¬ ["value", "type"].Sublist (Json.names members)

lemma orderly_array {forms : List Json} :
    Orderly (.array forms) ↔ ∀ form ∈ forms, Orderly form :=
  Json.forall_mem_objectsOfItems

lemma orderly_object :
    Orderly (.object members) ↔
      ((Json.names members).Nodup ∧ ¬ ["value", "type"].Sublist (Json.names members)) ∧
        ∀ entry ∈ members, Orderly entry.2 := by
  simp only [Orderly, Json.objects, List.forall_mem_cons, Json.forall_mem_objectsOfMembers]

/-- What is read when members are sorted is read as they stand, if no object repeats a name or has
its type behind its value. -/
lemma readsAs_of_sorted {json : Json} (orderly : Orderly json) : ReadsAs json.sorted json := by
  induction json using Json.induction with
  | single json levels =>
    rw [Json.sorted_of_levels_eq_zero levels]
    exact ⟨fun _ read => read, fun _ read => read⟩
  | array forms ih =>
    rw [Json.sorted, Json.sortedItems_eq_map]
    refine readsAs_array ?_
    rw [List.forall₂_map_left_iff, List.forall₂_same]
    exact fun form mem => ih form mem (orderly_array.1 orderly form mem)
  | object members ih =>
    obtain ⟨⟨unique, ordered⟩, each⟩ := orderly_object.1 orderly
    refine ⟨fun item read => ?_, fun _ read => by cases read⟩
    obtain ⟨known, type, json, ⟨tag, typed, value⟩, read⟩ := ofForm_sorted_eq_ok.1 read
    have last := Json.last?_eq_lookup unique
    have mem := Json.mem_of_last? value
    refine ofForm_object_eq_ok.2 ⟨⟨unique, ordered, known⟩, type, json, ⟨?_, ?_, ?_⟩, ?_⟩
    · exact (last _).symm.trans tag
    · exact (last _).symm.trans typed
    · exact (last _).symm.trans value
    · exact valueOf_mono (ih _ mem (each _ mem)).items (Json.primitive_sorted json).symm read

/-- The type that an object declares, which is a structure if it declares none. -/
def declared? (members : List (String × Json)) : Option ItemType :=
  match Json.last? "type" members with
  | none => some .structured
  | some (.string name) => ItemType.named? name
  | some _ => none

/-- The item is of the type that its object declares, and so are the items in it. -/
inductive Declares : Json → Item → Prop
  | scalar {members : List (String × Json)} {tag : String} {type : ScalarType}
      {content : type.Content} (declared : declared? members = some (.scalar type)) :
    Declares (.object members) ⟨tag, .scalar type content⟩
  | structured {members : List (String × Json)} {tag : String} {items : List Item}
      {forms : List Json} (declared : declared? members = some .structured)
      (value : Json.last? "value" members = some (.array forms))
      (each : List.Forall₂ Declares forms items) :
    Declares (.object members) ⟨tag, .structured items⟩

/-- What is read is of the types that the objects declare. -/
structure ReadsDeclared (json : Json) : Prop where
  item : ∀ item, ofForm json.sorted = .ok item → Declares json item
  items : ∀ items, itemsOf json.sorted = .ok items →
    ∃ forms, json = .array forms ∧ List.Forall₂ Declares forms items

lemma Found.declared {tag : String} {type : Option ItemType} {json : Json}
    (found : Found (fun name => Json.last? name members) tag type json) :
    declared? members = some (type.getD .structured) := by
  rw [declared?, found.type]
  cases type with
  | none => rfl
  | some type => exact ItemType.named?_name type

lemma declares_all {forms : List Json} {items : List Item}
    (each : ∀ form ∈ forms, ReadsDeclared form)
    (read : ofForms (Json.sortedItems forms) = .ok items) : List.Forall₂ Declares forms items := by
  induction forms generalizing items with
  | nil =>
    obtain rfl := Except.ok.inj read
    exact .nil
  | cons form forms ih =>
    obtain ⟨item, first, read⟩ := Encoded.bind_eq_ok.1 read
    obtain ⟨items, others, read⟩ := Encoded.bind_eq_ok.1 read
    obtain rfl := Except.ok.inj read
    obtain ⟨one, rest⟩ := List.forall_mem_cons.1 each
    exact .cons (one.item item first) (ih rest others)

lemma readsDeclared (json : Json) : ReadsDeclared json := by
  induction json using Json.induction with
  | single json levels =>
    refine ⟨fun item read => ?_, fun items read => ?_⟩ <;>
      (rw [Json.sorted_of_levels_eq_zero levels] at read
       cases json <;> first | cases read | cases levels)
  | array forms ih => exact ⟨nofun, fun items read => ⟨forms, rfl, declares_all ih read⟩⟩
  | object members ih =>
    refine ⟨fun item read => ?_, fun _ read => by cases read⟩
    obtain ⟨-, type, json, found, read⟩ := ofForm_sorted_eq_ok.1 read
    have declared := found.declared
    obtain ⟨tag, value⟩ := item
    generalize type.getD .structured = type at declared read
    cases type with
    | structured =>
      obtain ⟨items, inner, made⟩ := Encoded.bind_eq_ok.1 read
      obtain rfl := Except.ok.inj made
      obtain ⟨forms, rfl, each⟩ := (ih _ (Json.mem_of_last? found.value)).items items inner
      exact .structured declared found.value each
    | scalar type =>
      obtain ⟨content, -, made⟩ := Encoded.bind_eq_ok.1 read
      obtain rfl := Except.ok.inj made
      exact .scalar declared

/-- An item is read by way of a value exactly if it is read from the sorted value of the text. -/
lemma ofFormValue_eq_ok {text : String} :
    ofFormValue text = .ok item ↔
      ∃ json, Json.parse text = .ok json ∧ ofForm json.sorted = .ok item :=
  Encoded.bind_eq_ok

/-- What is read from a text directly is read by way of a value, as the same item. What is read by way
of a value only comes from a text in which an object repeats a name or has its type behind its value.
Either way, the item and those in it are of the types that their objects declare. -/
theorem readings_agree (text : String) :
    (∀ item, ofFormText text = .ok item → ofFormValue text = .ok item) ∧
    (∀ item, ofFormValue text = .ok item → (∀ other, ofFormText text ≠ .ok other) →
      ∃ json, Json.parse text = .ok json ∧ ∃ members ∈ json.objects,
        ¬ (members.map Prod.fst).Nodup ∨ ["value", "type"].Sublist (members.map Prod.fst)) ∧
    ∀ item, ofFormText text = .ok item ∨ ofFormValue text = .ok item →
      ∃ json, Json.parse text = .ok json ∧ Declares json item := by
  have forward (item : Item) (read : ofFormText text = .ok item) : ofFormValue text = .ok item := by
    obtain ⟨json, parsed, read⟩ := ofFormText_eq_ok.1 read
    exact ofFormValue_eq_ok.2 ⟨json, parsed, (readsAs_sorted json).item item read⟩
  refine ⟨forward, fun item read refused => ?_, fun item read => ?_⟩
  · obtain ⟨json, parsed, read⟩ := ofFormValue_eq_ok.1 read
    refine ⟨json, parsed, ?_⟩
    by_contra! orderly
    exact refused item (ofFormText_eq_ok.2 ⟨json, parsed, (readsAs_of_sorted orderly).item item read⟩)
  · obtain ⟨json, parsed, read⟩ := ofFormValue_eq_ok.1 (read.elim (forward item) id)
    exact ⟨json, parsed, (readsDeclared json).item item read⟩

/-- A truth value whose type stands behind it is read by way of a value only. -/
theorem readings_agree_boolean :
    let form : Json :=
      .object [("value", .bool true), ("tag", .string "A"), ("type", .string "Boolean")]
    let text := String.ofList form.compact
    let item : Item := ⟨"A", .scalar .boolean true⟩
    ofFormValue text = .ok item ∧ (∀ other, ofFormText text ≠ .ok other) ∧
      (∃ json, Json.parse text = .ok json ∧ ∃ members ∈ json.objects,
        ¬ (members.map Prod.fst).Nodup ∨ ["value", "type"].Sublist (members.map Prod.fst)) ∧
      ∃ json, Json.parse text = .ok json ∧ Declares json item := by
  intro form text item
  have parsed : Json.parse text = .ok form :=
    (Json.spells_compact form ⟨trivial, trivial, trivial, trivial⟩).parse_eq.trans rfl
  have sorted : ofForm form.sorted = .ok item :=
    ofForm_sorted_eq_ok.2 ⟨by decide, some (.scalar .boolean), .bool true, ⟨rfl, rfl, rfl⟩, rfl⟩
  have read : ofFormValue text = .ok item := ofFormValue_eq_ok.2 ⟨form, parsed, sorted⟩
  have refused (other : Item) : ofFormText text ≠ .ok other := by
    intro done
    obtain ⟨json, same, read⟩ := ofFormText_eq_ok.1 done
    obtain rfl := Except.ok.inj (parsed.symm.trans same)
    exact (ofForm_object_eq_ok.1 read).1.ordered (by decide)
  obtain ⟨-, disordered, declares⟩ := readings_agree text
  exact ⟨read, refused, disordered item read refused, declares item (.inr read)⟩

end Kmip.Item
