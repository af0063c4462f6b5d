import Kmip.Proofs.FormScan
import Kmip.Proofs.JsonResults
import Kmip.Proofs.Rfc3339

/-!
# What is read from the forms of items

An item that has been read from a text, directly or by way of a value, is bounded by what the text
can say (`Item.formed_of_ofFormText`, `Item.formed_of_ofFormValue`): each structure took two levels
of the text, and no date-time lies a day or more behind the years that four digits name.
-/

namespace Kmip

namespace ScalarType

open Json (Primitive Results Yields of_pure of_throw of_bind)

/-- A date-time lies less than a day beyond the years that can be read, if beyond them at all. -/
def NearRange : (type : ScalarType) → type.Content → Prop
  | dateTime, time => DateTime.earliest ≤ time.seconds ∧ time.seconds < DateTime.latest + 86400
  | integer, _ | longInteger, _ | bigInteger, _ | enumeration, _ | boolean, _ | textString, _
  | byteString, _ | interval, _ | dateTimeExtended, _ => True

/-- A date-time of a form is near the years that can be read. -/
lemma nearRange_of_ofForm {m : Type → Type} [Monad m] [MonadExceptOf Json.Fault m] [Results m]
    {primitive : Primitive m} {type : ScalarType} {content : type.Content}
    (read : Yields (type.ofForm primitive) content) : type.NearRange content := by
  cases type with
  | dateTime =>
    obtain ⟨text, -, read⟩ := of_bind read
    split at read
    · next time parsed =>
      obtain rfl := of_pure read
      exact DateTime.Rfc3339.parse_bounds parsed
    · exact (of_throw read).elim
  | _ => trivial

end ScalarType

namespace Item

open Json (Primitive Results Yields of_pure of_throw of_bind)

/-- Every date-time lies near the years that can be read. -/
def NearRange (item : Item) : Prop :=
  ∀ inner ∈ item.all, ∀ type content, inner.value = .scalar type content → type.NearRange content

lemma nearRange_structured {tag : String} {items : List Item} :
    NearRange ⟨tag, .structured items⟩ ↔ ∀ item ∈ items, item.NearRange := by
  simp [NearRange, forall_mem_all_structured]

lemma nearRange_scalar {tag : String} {type : ScalarType} {content : type.Content} :
    NearRange ⟨tag, .scalar type content⟩ ↔ type.NearRange content :=
  forall_content_scalar

/-- What is known of an item that has been read from so many levels: each structure took two of
them, and its date-times are near the years that can be read. -/
structure Formed (levels : Nat) (item : Item) : Prop where
  nesting : 2 * item.value.nesting ≤ levels
  near : item.NearRange

variable {levels more : Nat} {item : Item} {items : List Item}

lemma Formed.mono (formed : item.Formed levels) (enough : levels ≤ more) : item.Formed more :=
  ⟨formed.nesting.trans enough, formed.near⟩

/-- A structure is an object with an array in it. -/
lemma formed_structured (each : ∀ item ∈ items, item.Formed levels) (tag : String) :
    Formed (levels + 2) ⟨tag, .structured items⟩ where
  nesting := by
    have deepest : Value.nestingOfAll items ≤ levels / 2 :=
      nestingOfAll_le.2 fun item mem => by
        have := (each item mem).nesting
        omega
    rw [Value.nesting]
    omega
  near := nearRange_structured.2 fun item mem => (each item mem).near

lemma formed_scalar {type : ScalarType} {content : type.Content} (near : type.NearRange content)
    (tag : String) : Formed levels ⟨tag, .scalar type content⟩ :=
  ⟨Nat.zero_le _, nearRange_scalar.2 near⟩

end Item

namespace Draft

open Item
open Json (Primitive Results Yields of_pure of_throw of_bind of_ofExcept)

/-- What is known of the value of a form that is being read, under any tag. -/
def Formed (levels : Nat) (draft : Draft) : Prop :=
  ∀ value, draft.value = some value → ∀ tag, Item.Formed levels ⟨tag, value⟩

variable {levels : Nat} {draft next : Draft}

lemma formed_empty : Formed levels {} := nofun

/-- Every member of a form keeps what is known of its value. -/
lemma Formed.take {m : Type → Type} [Monad m] [MonadExceptOf Json.Fault m] [Results m]
    {primitive : Primitive m} {inner : m (List Item)} {member : Member}
    (items : ∀ items, Yields inner items → ∀ tag, Item.Formed levels ⟨tag, .structured items⟩)
    (formed : draft.Formed levels) (taken : Yields (draft.take primitive inner member) next) :
    next.Formed levels := by
  cases member with
  | tag =>
    obtain ⟨tag, -, taken⟩ := of_bind taken
    obtain rfl := of_pure taken
    exact formed
  | type =>
    obtain ⟨text, -, taken⟩ := of_bind taken
    obtain ⟨type, -, taken⟩ := of_bind taken
    obtain rfl := of_pure taken
    exact formed
  | value =>
    unfold Draft.take at taken
    cases known : draft.type.getD .structured with
    | structured =>
      rw [known] at taken
      obtain ⟨list, found, taken⟩ := of_bind taken
      obtain rfl := of_pure taken
      rintro _ ⟨⟩
      exact items list found
    | scalar type =>
      rw [known] at taken
      obtain ⟨content, found, taken⟩ := of_bind taken
      obtain rfl := of_pure taken
      rintro _ ⟨⟩
      exact formed_scalar (ScalarType.nearRange_of_ofForm found)

lemma Formed.item {item : Item} (formed : draft.Formed levels) (complete : draft.item = .ok item) :
    item.Formed levels := by
  unfold Draft.item at complete
  split at complete
  · cases complete
  · cases complete
  · next tag value _ held =>
    obtain rfl := Except.ok.inj complete
    exact formed value held tag

end Draft

namespace Item

open Json (Scan Yields of_pure of_throw of_bind of_ofExcept yields_of_whole)

variable {depth : Nat} {item : Item} {items : List Item}

/-- An array in the object of a structure has the items of the structure. -/
lemma formed_of_scanItems {inner : Option (Scan Item)}
    (each : ∀ step ∈ inner, ∀ item, Yields step item → item.Formed depth)
    (yields : Yields (scanItems inner) items) (tag : String) :
    Formed (depth + 2) ⟨tag, .structured items⟩ := by
  obtain ⟨next, -, yields⟩ := of_bind yields
  split at yields
  · next step _ =>
    obtain ⟨_, -, yields⟩ := of_bind yields
    have taken := Scan.yields_of_mem_items yields
    exact formed_structured (fun item mem => each step rfl item (taken item mem)) tag
  · exact (of_throw yields).elim
  · exact (Scan.not_yields_mismatch yields).elim

/-- Where no array may be entered, there are no items. -/
lemma not_yields_scanItems : ¬ Yields (scanItems none) items := by
  intro yields
  obtain ⟨next, -, yields⟩ := of_bind yields
  split at yields
  · next same => cases same
  · exact of_throw yields
  · exact Scan.not_yields_mismatch yields

/-- What is known of the items of structures is known of the item. -/
lemma formed_of_scanWith {inner : Option (Scan (List Item))}
    (each : ∀ step ∈ inner, ∀ items, Yields step items → ∀ tag,
      Formed depth ⟨tag, .structured items⟩)
    (yields : Yields (scanWith inner) item) : item.Formed depth := by
  obtain ⟨next, -, yields⟩ := of_bind yields
  split at yields
  · next step _ =>
    obtain ⟨_, -, yields⟩ := of_bind yields
    obtain ⟨draft, taken, yields⟩ := of_bind yields
    have formed : draft.Formed depth := by
      refine Scan.induction_members (p := Draft.Formed depth) ?_ Draft.formed_empty taken
      intro draft name next formed taken
      obtain ⟨member, -, taken⟩ := of_bind taken
      obtain ⟨_, -, taken⟩ := of_bind taken
      exact formed.take (each step rfl) taken
    exact formed.item (of_ofExcept yields)
  · exact (of_throw yields).elim
  · exact (of_throw yields).elim
  · exact (Scan.not_yields_mismatch yields).elim

/-- An item that is scanned takes no more levels than there may be. -/
lemma formed_of_scan (yields : Yields (scan depth) item) : item.Formed depth := by
  induction depth using scan.induct generalizing item with
  | case1 => exact formed_of_scanWith (fun _ same => by cases same) yields
  | case2 =>
    refine formed_of_scanWith (fun step same items found tag => ?_) yields
    obtain rfl := Option.some.inj same
    exact (not_yields_scanItems found).elim
  | case3 depth ih =>
    refine formed_of_scanWith (fun step same items found tag => ?_) yields
    obtain rfl := Option.some.inj same
    refine formed_of_scanItems (fun step same item found => ?_) found tag
    obtain rfl := Option.some.inj same
    exact ih found

/-- What is known of an item that is read from a text. -/
theorem formed_of_ofFormText {text : String} (read : ofFormText text = .ok item) :
    item.Formed Json.depthLimit :=
  formed_of_scan (yields_of_whole read)

mutual

/-- An item that is read from a value takes no more levels than the value has. -/
lemma formed_of_ofForm {json : Json} {item : Item} (read : ofForm json = .ok item) :
    item.Formed json.levels := by
  cases json with
  | object members => exact formed_of_ofMembers Draft.formed_empty le_rfl read
  | _ => cases read

lemma formed_of_ofMembers {levels : Nat} {draft : Draft} {members : List (String × Json)}
    {item : Item} (formed : draft.Formed levels)
    (within : Json.levelsOfMembers members + 1 ≤ levels)
    (read : ofMembers draft members = .ok item) : item.Formed levels := by
  cases members with
  | nil => exact formed.item read
  | cons member members =>
    obtain ⟨name, value⟩ := member
    rw [ofMembers_cons] at read
    obtain ⟨member, -, read⟩ := Encoded.bind_eq_ok.1 read
    obtain ⟨next, taken, read⟩ := Encoded.bind_eq_ok.1 read
    simp only [Json.levelsOfMembers] at within
    have inner : ∀ items, itemsOf value = .ok items → ∀ tag,
        Formed levels ⟨tag, .structured items⟩ := by
      intro items found tag
      cases value with
      | array forms =>
        have each := formed_of_ofForms found
        simp only [Json.levels] at within
        exact (formed_structured each tag).mono (by omega)
      | _ => cases found
    have kept := formed.take (m := Except Json.Fault) inner taken
    exact formed_of_ofMembers kept (by omega) read

lemma formed_of_ofForms {forms : List Json} {items : List Item} (read : ofForms forms = .ok items) :
    ∀ item ∈ items, item.Formed (Json.levelsOfItems forms) := by
  cases forms with
  | nil =>
    obtain rfl := Except.ok.inj read
    exact List.forall_mem_nil _
  | cons form forms =>
    rw [ofForms] at read
    obtain ⟨item, first, read⟩ := Encoded.bind_eq_ok.1 read
    obtain ⟨items, others, read⟩ := Encoded.bind_eq_ok.1 read
    obtain rfl := Except.ok.inj read
    refine List.forall_mem_cons.2 ⟨(formed_of_ofForm first).mono (le_max_left _ _), ?_⟩
    intro item mem
    exact (formed_of_ofForms others item mem).mono (le_max_right _ _)

end

/-- What is known of an item that is read from a text by way of a value. -/
theorem formed_of_ofFormValue {text : String} (read : ofFormValue text = .ok item) :
    item.Formed Json.depthLimit := by
  obtain ⟨json, parsed, read⟩ := Encoded.bind_eq_ok.1 read
  exact (formed_of_ofForm read).mono ((Json.levels_sorted json).trans (Json.levels_of_parse parsed))

end Item

end Kmip
