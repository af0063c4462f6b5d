import Kmip.Proofs.FormResults
import Kmip.Proofs.JsonMirror

/-!
# Forms in a text and forms of a value

An item is read from a text exactly if it is read from the value of the text, as its members stand
(`Item.ofFormText_eq_ok`).
-/

namespace Kmip

open Json (Scan Mirrors of_throw of_bind mirrors_behind mirrors_of_refused lifts_pure lifts_throw lifts_ofExcept)

/-- The value of a scalar is taken where it can be made of the value that stands there. -/
lemma ScalarType.mirrors_ofForm (type : ScalarType) (depth : Nat) :
    Mirrors (type.ofForm Scan.primitive) (Scan.value depth) fun json =>
      type.ofForm json.primitive := by
  cases type with
  | integer | interval => exact (Scan.mirrors_whole _ _ _).bind fun _ => lifts_pure _
  | boolean => exact Scan.mirrors_boolean
  | textString => exact Scan.mirrors_text
  | longInteger | enumeration | dateTimeExtended =>
    exact Mirrors.bind Scan.mirrors_text fun _ => (lifts_ofExcept _).bind fun _ => lifts_pure _
  | bigInteger =>
    exact Mirrors.bind Scan.mirrors_text fun _ => (lifts_ofExcept _).bind fun _ => lifts_ofExcept _
  | byteString => exact Mirrors.bind Scan.mirrors_text fun _ => lifts_ofExcept _
  | dateTime =>
    refine Mirrors.bind Scan.mirrors_text fun text => ?_
    split
    · exact lifts_pure _
    · exact lifts_throw _

/-- Reads a member of a form from its value. -/
def Draft.read (draft : Draft) (name : String) (value : Json) : Except Json.Fault Draft := do
  let member ← draft.member name
  draft.take value.primitive (Item.itemsOf value) member

/-- Reads members of a form, one after the other. -/
def Draft.readAll (draft : Draft) (members : List (String × Json)) : Except Json.Fault Draft :=
  members.foldlM (fun draft entry => draft.read entry.1 entry.2) draft

namespace Item

variable {depth : Nat}

lemma ofMembers_eq (draft : Draft) (members : List (String × Json)) :
    ofMembers draft members = draft.readAll members >>= Draft.item := by
  induction members generalizing draft with
  | nil => rfl
  | cons entry members ih =>
    obtain ⟨name, value⟩ := entry
    simp only [ofMembers_cons, Draft.readAll, List.foldlM_cons, Draft.read, bind_assoc, ih]

lemma ofForms_eq (forms : List Json) : ofForms forms = forms.mapM ofForm := by
  induction forms with
  | nil => rfl
  | cons form forms ih => rw [ofForms, List.mapM_cons, ih]

/-- A member of a form is taken where it is read from the value that stands there. -/
lemma mirrors_take {items : Scan (List Item)} (mirrors : Mirrors items (Scan.value depth) itemsOf)
    (draft : Draft) (member : Draft.Member) :
    Mirrors (draft.take Scan.primitive items member) (Scan.value depth) fun json =>
      draft.take json.primitive (itemsOf json) member := by
  cases member with
  | tag => exact Mirrors.bind Scan.mirrors_text fun _ => lifts_pure _
  | type => exact Mirrors.bind Scan.mirrors_text fun _ => (lifts_ofExcept _).bind fun _ => lifts_pure _
  | value =>
    unfold Draft.take
    cases draft.type.getD .structured with
    | structured => exact mirrors.bind fun _ => lifts_pure _
    | scalar type => exact (type.mirrors_ofForm depth).bind fun _ => lifts_pure _

lemma mirrors_scanMember (mirrors : Mirrors (scanItems (inner? depth)) (Scan.value depth) itemsOf)
    (draft : Draft) (name : String) :
    Mirrors (scanMember depth draft name) (Scan.colon >>= fun _ => Scan.value depth)
      (draft.read name) := by
  unfold scanMember Draft.read
  cases draft.member name with
  | error fault =>
    refine mirrors_of_refused (fun _ yields => ?_) nofun
    obtain ⟨_, thrown, -⟩ := of_bind yields
    exact of_throw thrown
  | ok member => exact mirrors_behind _ fun _ => mirrors_take mirrors draft member

/-- Where nothing may be entered, there is no item. -/
lemma not_yields_scan_zero {item : Item} : ¬ Json.Yields (scan 0) item := by
  intro yields
  obtain ⟨next, -, yields⟩ := of_bind yields
  split at yields
  · next same => cases same
  · exact of_throw yields
  · exact of_throw yields
  · exact Scan.not_yields_mismatch yields

/-- The array of a structure is taken where the items are read from the array that stands there. -/
lemma mirrors_scanItems (mirrors : Mirrors (scan depth) (Scan.value depth) ofForm) :
    Mirrors (scanItems (inner? (depth + 1))) (Scan.value (depth + 1)) itemsOf := by
  refine Scan.mirrors_next (fun _ => Scan.not_yields_mismatch) fun c dark => ?_
  have taken : Mirrors (Scan.items (scan depth))
      (Scan.items (Scan.value depth) >>= fun forms => pure (.array forms)) itemsOf :=
    (Scan.mirrors_items mirrors).map ofForms_eq
  dsimp only [inner?]
  split
  · next step same array =>
    obtain rfl := Option.some.inj same
    obtain rfl := Option.some.inj array
    exact Scan.mirrorsAt_of_value (mirrors_behind Scan.advance fun _ => taken) fun _ =>
      Scan.value_of_array
  · next none => cases none
  · next other _ =>
    refine Scan.mirrorsAt_of_refused dark (fun _ => Scan.not_yields_mismatch)
      fun json starts result made => ?_
    cases json with
    | array items => exact other _ (congrArg some starts) rfl
    | _ => cases made

/-- The object of a form is taken where the item is read from the object that stands there. -/
lemma mirrors_scan_succ (mirrors : Mirrors (scanItems (inner? depth)) (Scan.value depth) itemsOf) :
    Mirrors (scan (depth + 1)) (Scan.value (depth + 1)) ofForm := by
  have members := (Scan.mirrors_members (mirrors_scanMember mirrors) {}).bind
    fun draft => lifts_ofExcept draft.item
  have taken : Mirrors (Scan.members (scanMember depth) {} >>= fun draft => ofExcept draft.item)
      (Scan.named (Scan.colon >>= fun _ => Scan.value depth) >>= fun members =>
        pure (.object members)) ofForm :=
    members.map fun members => (ofMembers_eq {} members).trans
      (bind_congr fun draft => (Json.ofExcept_eq draft.item).symm)
  rw [scan_succ]
  refine Scan.mirrors_next (fun _ => Scan.not_yields_mismatch) fun c dark => ?_
  split
  · next step same object =>
    obtain rfl := Option.some.inj same
    obtain rfl := Option.some.inj object
    exact Scan.mirrorsAt_of_value (mirrors_behind Scan.advance fun _ => taken) fun _ =>
      Scan.value_of_object
  · next none => cases none
  · next none => cases none
  · next other _ _ =>
    refine Scan.mirrorsAt_of_refused dark (fun _ => Scan.not_yields_mismatch)
      fun json starts result made => ?_
    cases json with
    | object members => exact other _ (congrArg some starts) rfl
    | _ => cases made

/-- An item and the items of a structure are taken where they are read from the value that stands
there. -/
lemma mirrors_scan (depth : Nat) :
    Mirrors (scan depth) (Scan.value depth) ofForm ∧
      Mirrors (scanItems (inner? depth)) (Scan.value depth) itemsOf := by
  induction depth with
  | zero =>
    -- there is no value either that would hold others
    have single {json : Json} (yields : Json.Yields (Scan.value 0) json) : json.levels = 0 :=
      Nat.le_zero.1 (Json.levels_le_of_value yields)
    constructor
    · refine mirrors_of_refused (fun _ => not_yields_scan_zero) fun json yields result made => ?_
      cases json with
      | object members => cases single yields
      | _ => cases made
    · refine mirrors_of_refused (fun _ => not_yields_scanItems) fun json yields result made => ?_
      cases json with
      | array items => cases single yields
      | _ => cases made
  | succ depth ih => exact ⟨mirrors_scan_succ ih.2, mirrors_scanItems ih.1⟩

/-- An item is read from a text exactly if it is read from the value of the text. -/
theorem ofFormText_eq_ok {text : String} {item : Item} :
    ofFormText text = .ok item ↔ ∃ json, Json.parse text = .ok json ∧ ofForm json = .ok item := by
  simp only [ofFormText, Json.parse, Scan.whole_eq_ok, (mirrors_scan Json.depthLimit).1 _ _ _]
  constructor
  · rintro ⟨rest, left, ⟨json, done, read⟩, finished⟩
    exact ⟨json, ⟨rest, left, done, finished⟩, read⟩
  · rintro ⟨json, ⟨rest, left, done, finished⟩, read⟩
    exact ⟨rest, left, ⟨json, done, read⟩, finished⟩

end Item

end Kmip
