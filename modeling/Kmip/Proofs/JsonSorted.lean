import Kmip.Json.Primitive
import Kmip.Proofs.JsonResults
import Mathlib.Data.String.Basic

/-!
# Values with sorted members

Sorting an object keeps the last one of several members of a name, with its own members sorted
(`Json.lookup_sortedMembers_nil`). The members then stand in the order of their names
(`Json.pairwise_sortedMembers`). What is so of the parts of a value is so of the value
(`Json.induction`), which is how the objects in it are reached (`Json.objects`).
-/

namespace Kmip.Json

/-- The names of members, as they stand. -/
def names (members : List (String × Json)) : List String :=
  members.map Prod.fst

/-- The last member of a name. -/
def last? (name : String) (members : List (String × Json)) : Option Json :=
  members.reverse.lookup name

lemma lookup_cons_eq (name other : String) (value : Json) (members : List (String × Json)) :
    ((other, value) :: members).lookup name =
      if name = other then some value else members.lookup name := by
  by_cases same : name = other
  · simp [same]
  · have differ : (name == other) = false := beq_false_of_ne same
    rw [List.lookup_cons, differ, if_neg same]

lemma last?_cons (name other : String) (value : Json) (members : List (String × Json)) :
    last? name ((other, value) :: members) =
      (last? name members).or (if name = other then some value else none) := by
  rw [last?, List.reverse_cons, List.lookup_append, lookup_cons_eq]
  rfl

lemma isSome_lookup {name : String} {members : List (String × Json)} :
    (members.lookup name).isSome ↔ name ∈ names members := by
  induction members with
  | nil => simp [names]
  | cons entry members ih =>
    rw [lookup_cons_eq, names, List.map_cons, List.mem_cons, ← names, ← ih]
    split <;> simp [*]

lemma lookup_eq_none {name : String} {members : List (String × Json)} :
    members.lookup name = none ↔ name ∉ names members := by
  rw [← isSome_lookup, Option.not_isSome_iff_eq_none]

/-- A further member is found under its name only. -/
lemma lookup_append_other {name other : String} {json : Json} {members : List (String × Json)}
    (differ : other ≠ name) :
    (members ++ [(name, json)]).lookup other = members.lookup other := by
  rw [List.lookup_append, lookup_cons_eq, if_neg differ]
  exact Option.or_none

lemma lookup_append_fresh {name : String} {json : Json} {members : List (String × Json)}
    (fresh : name ∉ names members) :
    (members ++ [(name, json)]).lookup name = some json := by
  rw [List.lookup_append, lookup_eq_none.2 fresh, lookup_cons_eq, if_pos rfl]
  rfl

/-- A member that is found stands among the members. -/
lemma mem_of_lookup {name : String} {value : Json} {members : List (String × Json)}
    (found : members.lookup name = some value) : (name, value) ∈ members := by
  obtain ⟨front, back, rfl, -⟩ := List.lookup_eq_some_iff.1 found
  simp

lemma isSome_last? {name : String} {members : List (String × Json)} :
    (last? name members).isSome ↔ name ∈ names members := by
  rw [last?, isSome_lookup, names, List.map_reverse, List.mem_reverse, names]

lemma mem_of_last? {name : String} {value : Json} {members : List (String × Json)}
    (found : last? name members = some value) : (name, value) ∈ members :=
  List.mem_reverse.1 (mem_of_lookup found)

/-- Where no name comes twice, the last member of a name is the first one. -/
lemma last?_eq_lookup {members : List (String × Json)} (unique : (names members).Nodup)
    (name : String) : last? name members = members.lookup name := by
  induction members with
  | nil => rfl
  | cons entry members ih =>
    obtain ⟨other, value⟩ := entry
    obtain ⟨fresh, unique⟩ := List.nodup_cons.1 unique
    rw [last?_cons, ih unique, lookup_cons_eq]
    split
    · next same =>
      subst same
      rw [lookup_eq_none.2 fresh, Option.none_or]
    · exact Option.or_none

lemma lookup_insertSorted (name other : String) (value : Json) (held : List (String × Json)) :
    (insertSorted other value held).lookup name =
      if name = other then some value else held.lookup name := by
  induction held with
  | nil => exact lookup_cons_eq name other value []
  | cons entry held ih =>
    obtain ⟨first, inner⟩ := entry
    rw [insertSorted]
    split
    · next same => simp only [same, lookup_cons_eq]; grind
    · split
      · exact lookup_cons_eq name other value _
      · rw [lookup_cons_eq, lookup_cons_eq, ih]; grind

lemma lookup_sortedMembers (name : String) (held members : List (String × Json)) :
    (sortedMembers held members).lookup name =
      ((last? name members).map sorted).or (held.lookup name) := by
  induction members generalizing held with
  | nil => rfl
  | cons entry members ih =>
    obtain ⟨other, value⟩ := entry
    rw [sortedMembers, ih, lookup_insertSorted, last?_cons]
    split
    · cases last? name members <;> rfl
    · rw [Option.or_none]

lemma mem_names_insertSorted {name other : String} {value : Json} {held : List (String × Json)} :
    name ∈ names (insertSorted other value held) ↔ name = other ∨ name ∈ names held := by
  rw [← isSome_lookup, lookup_insertSorted, ← isSome_lookup]
  split <;> simp [*]

/-- The members stand in the order of their names. -/
lemma pairwise_insertSorted {name : String} {value : Json} {held : List (String × Json)}
    (ordered : (names held).Pairwise (· < ·)) :
    (names (insertSorted name value held)).Pairwise (· < ·) := by
  induction held with
  | nil => exact List.pairwise_singleton _ _
  | cons entry held ih =>
    obtain ⟨first, inner⟩ := entry
    obtain ⟨low, ordered'⟩ := List.pairwise_cons.1 ordered
    rw [insertSorted]
    split
    · next same =>
      subst same
      exact ordered
    · split
      · next less =>
        refine List.pairwise_cons.2 ⟨fun other mem => ?_, ordered⟩
        rcases List.mem_cons.1 mem with rfl | mem
        · exact less
        · exact less.trans (low other mem)
      · next differ notLess =>
        have more : first < name := lt_of_le_of_ne (not_lt.1 notLess) (Ne.symm differ)
        refine List.pairwise_cons.2 ⟨fun other mem => ?_, ih ordered'⟩
        rcases mem_names_insertSorted.1 mem with rfl | mem
        · exact more
        · exact low other mem

lemma pairwise_sortedMembers {held : List (String × Json)} (members : List (String × Json))
    (ordered : (names held).Pairwise (· < ·)) :
    (names (sortedMembers held members)).Pairwise (· < ·) := by
  induction members generalizing held with
  | nil => exact ordered
  | cons entry members ih => exact ih (pairwise_insertSorted ordered)

/-- Of several members of a name the last one is found, sorted itself. -/
lemma lookup_sortedMembers_nil (name : String) (members : List (String × Json)) :
    (sortedMembers [] members).lookup name = (last? name members).map sorted := by
  rw [lookup_sortedMembers]
  exact Option.or_none

lemma mem_names_sortedMembers {name : String} {members : List (String × Json)} :
    name ∈ names (sortedMembers [] members) ↔ name ∈ names members := by
  rw [← isSome_lookup, lookup_sortedMembers_nil, Option.isSome_map, isSome_last?]

/-- What is so of a value if it is so of its parts is so of every value. -/
lemma induction {p : Json → Prop} (single : ∀ json, json.levels = 0 → p json)
    (array : ∀ items, (∀ item ∈ items, p item) → p (array items))
    (object : ∀ members, (∀ entry ∈ members, p entry.2) → p (object members)) (json : Json) :
    p json := by
  induction levels : json.levels using Nat.strong_induction_on generalizing json with
  | _ count ih =>
    subst levels
    cases json with
    | array items =>
      refine array items fun item mem => ih _ ?_ item rfl
      exact Nat.lt_succ_of_le (levelsOfItems_le.1 le_rfl item mem)
    | object members =>
      refine object members fun entry mem => ih _ ?_ entry.2 rfl
      exact Nat.lt_succ_of_le (levelsOfMembers_le.1 le_rfl entry mem)
    | null | bool value | integer value | float value | string text => exact single _ rfl

mutual

/-- The members of every object in a value, as they stand. -/
def objects : Json → List (List (String × Json))
  | array items => objectsOfItems items
  | object members => members :: objectsOfMembers members
  | _ => []

/-- The members of every object in some items. -/
def objectsOfItems : List Json → List (List (String × Json))
  | [] => []
  | item :: rest => item.objects ++ objectsOfItems rest

/-- The members of every object in the values of some members. -/
def objectsOfMembers : List (String × Json) → List (List (String × Json))
  | [] => []
  | (_, value) :: rest => value.objects ++ objectsOfMembers rest

end

lemma forall_mem_objectsOfItems {p : List (String × Json) → Prop} {items : List Json} :
    (∀ members ∈ objectsOfItems items, p members) ↔
      ∀ item ∈ items, ∀ members ∈ item.objects, p members := by
  induction items with
  | nil => simp [objectsOfItems]
  | cons item rest ih => simp only [objectsOfItems, List.forall_mem_append, List.forall_mem_cons, ih]

lemma forall_mem_objectsOfMembers {p : List (String × Json) → Prop}
    {entries : List (String × Json)} :
    (∀ members ∈ objectsOfMembers entries, p members) ↔
      ∀ entry ∈ entries, ∀ members ∈ entry.2.objects, p members := by
  induction entries with
  | nil => simp [objectsOfMembers]
  | cons entry rest ih =>
    simp only [objectsOfMembers, List.forall_mem_append, List.forall_mem_cons, ih]

lemma sortedItems_eq_map (items : List Json) : sortedItems items = items.map sorted := by
  induction items with
  | nil => rfl
  | cons item rest ih => rw [sortedItems, ih, List.map_cons]

lemma sorted_of_levels_eq_zero {json : Json} (single : json.levels = 0) : json.sorted = json := by
  cases json <;> first | rfl | cases single

lemma primitive_sorted (json : Json) : json.sorted.primitive = json.primitive := by
  cases json <;> rfl

lemma sorted_eq_string {json : Json} {text : String} :
    json.sorted = .string text ↔ json = .string text := by
  cases json <;> simp [sorted]

end Kmip.Json
