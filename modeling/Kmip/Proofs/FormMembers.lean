import Kmip.Proofs.Form
import Kmip.Proofs.FormMirror
import Kmip.Proofs.JsonSorted

/-!
# The members of a form

Reading a member does one of three things (`Draft.Reads`). From this it follows which members make up a
form: their names are known, none comes twice and the type does not stand behind the value, and what
is found under each name can be read (`Item.ofForm_object_eq_ok`).
-/

namespace Kmip

namespace Draft

variable {draft next : Draft} {name : String} {json : Json}

/-- The value of a form, read as its type says. -/
def valueOf (type : ItemType) (json : Json) : Except Json.Fault Value :=
  match type with
  | .structured => do
    let items ← Item.itemsOf json
    pure (.structured items)
  | .scalar type => do
    let content ← type.ofForm json.primitive
    pure (.scalar type content)

lemma take_value (draft : Draft) (json : Json) :
    draft.take json.primitive (Item.itemsOf json) .value =
      valueOf (draft.type.getD .structured) json >>= fun value =>
        pure { draft with value := some value } := by
  unfold take valueOf
  cases draft.type.getD .structured <;> simp only [bind_assoc, pure_bind]

/-- What reading a member of a form can do. -/
inductive Reads (draft : Draft) : String → Json → Draft → Prop
  | tag (fresh : draft.tag = none) (tag : String) :
    Reads draft "tag" (.string tag) { draft with tag := some tag }
  | type (fresh : draft.type = none) (early : draft.value = none) (type : ItemType) :
    Reads draft "type" (.string type.name) { draft with type := some type }
  | value (fresh : draft.value = none) {json : Json} {value : Value}
      (read : valueOf (draft.type.getD .structured) json = .ok value) :
    Reads draft "value" json { draft with value := some value }

lemma text_eq_ok {text : String} : json.primitive.text = .ok text ↔ json = .string text := by
  cases json <;> simp [Json.primitive]

lemma typeNamed_eq_ok {type : ItemType} : typeNamed name = .ok type ↔ name = type.name := by
  constructor
  · intro found
    cases known : ItemType.named? name with
    | none => simp [typeNamed, known] at found
    | some held =>
      obtain rfl : held = type := by simpa [typeNamed, known] using found
      exact (by simpa using List.find?_some known : held.name = name).symm
  · rintro rfl
    rw [typeNamed, ItemType.named?_name]
    rfl

lemma read_eq_ok : draft.read name json = .ok next ↔ Reads draft name json next := by
  constructor
  · intro read
    obtain ⟨member, named, taken⟩ := Encoded.bind_eq_ok.1 read
    unfold Draft.member at named
    split at named
    · next same =>
      subst same
      split at named
      · cases named
      · next fresh =>
        obtain rfl := Except.ok.inj named
        obtain ⟨tag, text, made⟩ := Encoded.bind_eq_ok.1 taken
        obtain rfl := text_eq_ok.1 text
        obtain rfl := Except.ok.inj made
        exact .tag (by simpa using fresh) tag
    split at named
    · next same =>
      subst same
      split at named
      · cases named
      split at named
      · cases named
      · next fresh early =>
        obtain rfl := Except.ok.inj named
        obtain ⟨name, text, typed⟩ := Encoded.bind_eq_ok.1 taken
        obtain ⟨type, known, made⟩ := Encoded.bind_eq_ok.1 typed
        obtain rfl := text_eq_ok.1 text
        rw [Json.ofExcept_eq] at known
        obtain rfl := typeNamed_eq_ok.1 known
        obtain rfl := Except.ok.inj made
        exact .type (by simpa using fresh) (by simpa using early) type
    split at named
    · next same =>
      subst same
      split at named
      · cases named
      · next fresh =>
        obtain rfl := Except.ok.inj named
        rw [take_value] at taken
        obtain ⟨value, found, made⟩ := Encoded.bind_eq_ok.1 taken
        obtain rfl := Except.ok.inj made
        exact .value (by simpa using fresh) found
    · cases named
  · intro reads
    cases reads with
    | tag fresh tag =>
      have named : draft.member "tag" = .ok .tag := by simp [Draft.member, fresh]
      exact Encoded.bind_eq_ok.2 ⟨_, named, rfl⟩
    | type fresh early type =>
      have named : draft.member "type" = .ok .type := by simp [Draft.member, fresh, early]
      have known : typeNamed type.name = .ok type := typeNamed_eq_ok.2 rfl
      refine Encoded.bind_eq_ok.2 ⟨_, named, Encoded.bind_eq_ok.2 ⟨_, rfl, ?_⟩⟩
      rw [known]
      rfl
    | @value fresh _ value read =>
      have named : draft.member "value" = .ok .value := by simp [Draft.member, fresh]
      refine Encoded.bind_eq_ok.2 ⟨_, named, ?_⟩
      rw [take_value, read]
      rfl

end Draft

namespace Item

/-- Names that may follow each other in a form. -/
structure InOrder (names : List String) : Prop where
  unique : names.Nodup
  ordered : ¬ ["value", "type"].Sublist names
  known : ∀ name ∈ names, name ∈ formNames

lemma sublist_append_singleton {names : List String} {name : String} :
    ["value", "type"].Sublist (names ++ [name]) ↔
      ["value", "type"].Sublist names ∨ "value" ∈ names ∧ name = "type" := by
  have front : (["value", "type"] : List String).reverse = ["type", "value"] := rfl
  rw [← List.reverse_sublist, front, List.reverse_append, List.reverse_singleton,
    List.singleton_append, List.sublist_cons_iff, ← front, List.reverse_sublist]
  refine or_congr_right ⟨?_, ?_⟩
  · rintro ⟨rest, same, sublist⟩
    obtain ⟨rfl, rfl⟩ := List.cons.inj same
    exact ⟨List.mem_reverse.1 (List.singleton_sublist.1 sublist), rfl⟩
  · rintro ⟨mem, rfl⟩
    exact ⟨_, rfl, List.singleton_sublist.2 (List.mem_reverse.2 mem)⟩

lemma inOrder_append {names : List String} {name : String} :
    InOrder (names ++ [name]) ↔
      InOrder names ∧ name ∈ formNames ∧ name ∉ names ∧ ("value" ∈ names → name ≠ "type") := by
  have unique : (names ++ [name]).Nodup ↔ names.Nodup ∧ name ∉ names := by
    rw [← List.concat_eq_append, List.nodup_concat, and_comm]
  have known : (∀ other ∈ names ++ [name], other ∈ formNames) ↔
      (∀ other ∈ names, other ∈ formNames) ∧ name ∈ formNames := by
    rw [List.forall_mem_append, List.forall_mem_singleton]
  constructor
  · rintro ⟨single, ordered, all⟩
    rw [sublist_append_singleton, not_or, not_and] at ordered
    exact ⟨⟨(unique.1 single).1, ordered.1, (known.1 all).1⟩, (known.1 all).2, (unique.1 single).2,
      ordered.2⟩
  · rintro ⟨⟨single, ordered, all⟩, one, fresh, last⟩
    refine ⟨unique.2 ⟨single, fresh⟩, ?_, known.2 ⟨all, one⟩⟩
    rw [sublist_append_singleton, not_or, not_and]
    exact ⟨ordered, last⟩

end Item

namespace Draft

open Item

variable {draft next : Draft} {name : String} {json : Json} {members : List (String × Json)}

/-- What is held of the members of a form. -/
structure Holds (draft : Draft) (members : List (String × Json)) : Prop where
  tag : members.lookup "tag" = draft.tag.map .string
  type : members.lookup "type" = draft.type.map fun type => .string type.name
  value : Option.Rel (fun json value => valueOf (draft.type.getD .structured) json = .ok value)
    (members.lookup "value") draft.value

lemma Holds.tag_eq_none (holds : Holds draft members) :
    draft.tag = none ↔ "tag" ∉ Json.names members := by
  rw [← Json.lookup_eq_none, holds.tag, Option.map_eq_none_iff]

lemma Holds.type_eq_none (holds : Holds draft members) :
    draft.type = none ↔ "type" ∉ Json.names members := by
  rw [← Json.lookup_eq_none, holds.type, Option.map_eq_none_iff]

lemma Holds.value_eq_none (holds : Holds draft members) :
    draft.value = none ↔ "value" ∉ Json.names members := by
  have value := holds.value
  rw [← Json.lookup_eq_none]
  generalize members.lookup "value" = found at value ⊢
  generalize draft.value = held at value ⊢
  cases value <;> simp

/-- A form of which nothing has been read holds no members. -/
lemma holds_nil : Holds draft [] ↔ draft = {} := by
  constructor
  · intro holds
    have tag := holds.tag_eq_none.2 List.not_mem_nil
    have type := holds.type_eq_none.2 List.not_mem_nil
    have value := holds.value_eq_none.2 List.not_mem_nil
    obtain ⟨_, _, _⟩ := draft
    simp only at tag type value
    rw [tag, type, value]
  · rintro rfl
    exact ⟨rfl, rfl, .none⟩

/-- A member that is read is held behind the others. -/
lemma Holds.read (holds : Holds draft members) (reads : Reads draft name json next)
    (inOrder : InOrder (Json.names members)) :
    InOrder (Json.names members ++ [name]) ∧ Holds next (members ++ [(name, json)]) := by
  cases reads with
  | tag fresh tag =>
    have none := holds.tag_eq_none.1 fresh
    refine ⟨inOrder_append.2 ⟨inOrder, by decide, none, fun _ => by decide⟩, ?_, ?_, ?_⟩
    · exact Json.lookup_append_fresh none
    · rw [Json.lookup_append_other (by decide)]
      exact holds.type
    · rw [Json.lookup_append_other (by decide)]
      exact holds.value
  | type fresh early type =>
    have none := holds.type_eq_none.1 fresh
    have later := holds.value_eq_none.1 early
    refine ⟨inOrder_append.2 ⟨inOrder, by decide, none, fun mem => absurd mem later⟩, ?_, ?_, ?_⟩
    · rw [Json.lookup_append_other (by decide)]
      exact holds.tag
    · exact Json.lookup_append_fresh none
    · rw [Json.lookup_append_other (by decide), Json.lookup_eq_none.2 later, early]
      exact .none
  | value fresh read =>
    have none := holds.value_eq_none.1 fresh
    refine ⟨inOrder_append.2 ⟨inOrder, by decide, none, fun _ => by decide⟩, ?_, ?_, ?_⟩
    · rw [Json.lookup_append_other (by decide)]
      exact holds.tag
    · rw [Json.lookup_append_other (by decide)]
      exact holds.type
    · rw [Json.lookup_append_fresh none]
      exact .some read

/-- What is held has been read from the last member behind the others. -/
lemma Holds.exists_reads (holds : Holds next (members ++ [(name, json)]))
    (inOrder : InOrder (Json.names members ++ [name])) :
    ∃ draft, Holds draft members ∧ Reads draft name json next := by
  obtain ⟨-, known, fresh, last⟩ := inOrder_append.1 inOrder
  obtain ⟨tag?, type?, value?⟩ := next
  obtain ⟨tag, type, value⟩ := holds
  simp only [formNames, List.mem_cons, List.not_mem_nil, or_false] at known
  rcases known with rfl | rfl | rfl
  · rw [Json.lookup_append_fresh fresh] at tag
    rw [Json.lookup_append_other (by decide)] at type value
    obtain ⟨tag, rfl, rfl⟩ := Option.map_eq_some_iff.1 tag.symm
    exact ⟨⟨none, type?, value?⟩, ⟨Json.lookup_eq_none.2 fresh, type, value⟩, .tag rfl _⟩
  · rw [Json.lookup_append_fresh fresh] at type
    rw [Json.lookup_append_other (by decide)] at tag value
    obtain ⟨type, rfl, rfl⟩ := Option.map_eq_some_iff.1 type.symm
    have later : "value" ∉ Json.names members := fun mem => last mem rfl
    rw [Json.lookup_eq_none.2 later] at value
    cases value
    refine ⟨⟨tag?, none, none⟩, ⟨tag, Json.lookup_eq_none.2 fresh, ?_⟩, .type rfl rfl _⟩
    rw [Json.lookup_eq_none.2 later]
    exact .none
  · rw [Json.lookup_append_fresh fresh] at value
    rw [Json.lookup_append_other (by decide)] at tag type
    cases value with
    | some read =>
      refine ⟨⟨tag?, type?, none⟩, ⟨tag, type, ?_⟩, .value rfl read⟩
      rw [Json.lookup_eq_none.2 fresh]
      exact .none

/-- Members are read if they may follow each other and each one can be read. -/
lemma readAll_eq_ok :
    readAll {} members = .ok draft ↔ InOrder (Json.names members) ∧ Holds draft members := by
  induction members using List.reverseRecOn generalizing draft with
  | nil =>
    rw [holds_nil, and_iff_right ⟨List.nodup_nil, by decide, List.forall_mem_nil _⟩]
    exact ⟨fun done => (Except.ok.inj done).symm, fun same => congrArg Except.ok same.symm⟩
  | append_singleton members entry ih =>
    obtain ⟨name, json⟩ := entry
    have names : Json.names (members ++ [(name, json)]) = Json.names members ++ [name] :=
      List.map_append
    have step : readAll {} (members ++ [(name, json)]) = readAll {} members >>= fun draft =>
        draft.read name json := by
      simp [readAll, List.foldlM_append]
    rw [step, Encoded.bind_eq_ok, names]
    constructor
    · rintro ⟨prior, done, read⟩
      obtain ⟨inOrder, holds⟩ := ih.1 done
      exact holds.read (read_eq_ok.1 read) inOrder
    · rintro ⟨inOrder, holds⟩
      obtain ⟨prior, held, reads⟩ := holds.exists_reads inOrder
      exact ⟨prior, ih.2 ⟨(inOrder_append.1 inOrder).1, held⟩, read_eq_ok.2 reads⟩

/-- The item of a form is made of its tag and its value. -/
lemma item_eq_ok {item : Item} :
    draft.item = .ok item ↔ draft.tag = some item.tag ∧ draft.value = some item.value := by
  obtain ⟨tag?, type?, value?⟩ := draft
  obtain ⟨tag, value⟩ := item
  cases tag? <;> cases value? <;> simp [Draft.item]

end Draft

namespace Item

variable {item : Item} {members : List (String × Json)}

/-- The tag, the type and the value of a form, found by their names. -/
structure Found (find : String → Option Json) (tag : String) (type : Option ItemType)
    (json : Json) : Prop where
  tag : find "tag" = some (.string tag)
  type : find "type" = type.map fun type => .string type.name
  value : find "value" = some json

/-- An item is read from an object if the names may follow each other and what is found under them
can be read. -/
lemma ofForm_object_eq_ok :
    ofForm (.object members) = .ok item ↔
      InOrder (Json.names members) ∧ ∃ type json,
        Found (fun name => members.lookup name) item.tag type json ∧
          Draft.valueOf (type.getD .structured) json = .ok item.value := by
  rw [ofForm, ofMembers_eq, Encoded.bind_eq_ok]
  simp only [Draft.readAll_eq_ok, Draft.item_eq_ok]
  constructor
  · rintro ⟨⟨_, type, _⟩, ⟨inOrder, tag, typed, value⟩, rfl, rfl⟩
    refine ⟨inOrder, type, ?_⟩
    cases found : members.lookup "value" with
    | none =>
      rw [found] at value
      cases value
    | some json =>
      rw [found] at value
      cases value with
      | some read => exact ⟨json, ⟨tag, typed, found⟩, read⟩
  · rintro ⟨inOrder, type, json, ⟨tag, typed, value⟩, read⟩
    refine ⟨⟨some item.tag, type, some item.value⟩, ⟨inOrder, tag, typed, ?_⟩, rfl, rfl⟩
    rw [value]
    exact .some read

end Item

end Kmip
