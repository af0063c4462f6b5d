import Kmip.Item.Form
import Kmip.Proofs.Encoding
import Kmip.Proofs.JsonScan

/-!
# Scanning the forms of items

A text that stands for the form of an item is read as this item, unless its arrays and objects lie
deeper within each other than they may (`Json.Spells.ofFormText_eq`).
-/

namespace Kmip

namespace Json

variable {α β : Type} {value : Json} {text gap rest : List Char}

/-- A text is taken where the value is one. -/
lemma Spells.text_eq {chars : String} (spelled : Spells value text) (blank : IsGap gap)
    (read : value.primitive.text = .ok chars) :
    Scan.primitive.text (gap ++ text ++ rest) = .ok (chars, rest) := by
  cases value with
  | string held =>
    obtain rfl : held = chars := Except.ok.inj read
    cases spelled
    rw [List.append_assoc]
    exact (Scan.bind_of_ok (Scan.next?_append (c := '"') blank rfl _)).trans
      (Scan.quoted_append held rest)
  | _ => cases read

/-- A truth value is taken where the value is one. -/
lemma Spells.boolean_eq {truth : Bool} (spelled : Spells value text) (blank : IsGap gap)
    (read : value.primitive.boolean = .ok truth) :
    Scan.primitive.boolean (gap ++ text ++ rest) = .ok (truth, rest) := by
  cases value with
  | bool held =>
    obtain rfl : held = truth := Except.ok.inj read
    cases spelled
    rw [List.append_assoc]
    cases held with
    | true => exact Scan.bind_of_ok (Scan.next?_append (c := 't') blank rfl _)
    | false => exact Scan.bind_of_ok (Scan.next?_append (c := 'f') blank rfl _)
  | _ => cases read

/-- A whole number is taken where the value is one within bounds. -/
lemma Spells.whole_eq {low high n : Int} {expected : String} (spelled : Spells value text)
    (blank : IsGap gap) (ends : Ends rest)
    (read : value.primitive.whole low high expected = .ok n) :
    Scan.primitive.whole low high expected (gap ++ text ++ rest) = .ok (n, rest) := by
  cases value with
  | integer held =>
    cases spelled with
    | atom single =>
      obtain ⟨c, tail, text, number⟩ := exists_head_ofInt held
      have starts : StartsAtom c := .inr (.inr (.inr (.inr number)))
      have scanned := number_ofInt single ends
      rw [text, List.cons_append] at scanned
      rw [List.append_assoc, Json.atom, text, List.cons_append]
      refine (Scan.bind_of_ok (Scan.next?_append blank starts.other.1 _)).trans ?_
      simp only [number, if_true]
      refine (Scan.bind_of_ok scanned).trans ?_
      have bounds : (integer held).within low high expected = .ok n := read
      rw [bounds]
      rfl
  | _ => cases read

variable {content : α}

/-- What is made of a text that is taken. -/
lemma Spells.takes_text {next : String → Scan α} {after : String → Except Fault α}
    (spelled : Spells value text) (blank : IsGap gap)
    (lifts : ∀ chars, Lifts (next chars) (after chars))
    (read : (value.primitive.text >>= after) = .ok content) (depth : Nat) :
    Takes (Scan.primitive.text >>= next) (gap ++ text ++ rest) rest value.levels depth content := by
  obtain ⟨chars, found, made⟩ := Encoded.bind_eq_ok.1 read
  have single : value.levels = 0 := by
    cases value <;> first | rfl | cases found
  refine .behind (spelled.text_eq blank found) (takes_of_ok ?_ (single ▸ Nat.zero_le depth))
  rw [lifts chars rest, made]
  rfl

lemma Spells.takes_whole {low high n : Int} {expected : String} {next : Int → Scan α}
    (spelled : Spells value text) (blank : IsGap gap) (ends : Ends rest)
    (found : value.primitive.whole low high expected = .ok n)
    (made : next n rest = .ok (content, rest)) (depth : Nat) :
    Takes (Scan.primitive.whole low high expected >>= next) (gap ++ text ++ rest) rest value.levels
      depth content := by
  have single : value.levels = 0 := by
    cases value <;> first | rfl | cases found
  exact .behind (spelled.whole_eq blank ends found)
    (takes_of_ok made (single ▸ Nat.zero_le depth))

/-- The value of a scalar is taken from the text of its form. -/
lemma Spells.takes_content {type : ScalarType} {content : type.Content}
    (spelled : Spells value text) (blank : IsGap gap) (ends : Ends rest)
    (read : type.ofForm value.primitive = .ok content) (depth : Nat) :
    Takes (type.ofForm Scan.primitive) (gap ++ text ++ rest) rest value.levels depth content := by
  cases type with
  | integer | interval =>
    obtain ⟨n, found, made⟩ := Encoded.bind_eq_ok.1 read
    obtain rfl := Except.ok.inj made
    exact spelled.takes_whole blank ends found rfl depth
  | boolean =>
    have single : value.levels = 0 := by
      cases value <;> first | rfl | cases read
    exact takes_of_ok (spelled.boolean_eq blank read) (single ▸ Nat.zero_le depth)
  | textString =>
    have single : value.levels = 0 := by
      cases value <;> first | rfl | cases read
    exact takes_of_ok (spelled.text_eq blank read) (single ▸ Nat.zero_le depth)
  | longInteger | enumeration | dateTimeExtended =>
    exact spelled.takes_text blank (fun _ => (lifts_ofExcept _).bind fun _ => lifts_pure _) read depth
  | bigInteger =>
    exact spelled.takes_text blank (fun _ => (lifts_ofExcept _).bind fun _ => lifts_ofExcept _) read
      depth
  | byteString => exact spelled.takes_text blank (fun _ => lifts_ofExcept _) read depth
  | dateTime =>
    refine spelled.takes_text blank (fun chars => ?_) read depth
    split
    · exact lifts_pure _
    · exact lifts_throw _

end Json

namespace Item

open Json (Scan)

/-- What takes an item within so many levels, if there are any. -/
def inner? : (depth : Nat) → Option (Scan Item)
  | 0 => none
  | depth + 1 => some (scan depth)

/-- Takes a member of a form, with the items of a structure in so many levels. -/
def scanMember (depth : Nat) (draft : Draft) (name : String) : Scan Draft := do
  let member ← ofExcept (draft.member name)
  Scan.colon
  draft.take Scan.primitive (scanItems (inner? depth)) member

/-- The object of an item is one level. -/
lemma scan_succ (depth : Nat) : scan (depth + 1) = scanWith (some (scanItems (inner? depth))) := by
  cases depth <;> rfl

/-- The items that a value stands for, if it is an array. -/
def itemsOf (value : Json) : Except Json.Fault (List Item) :=
  match value with
  | .array items => ofForms items
  | _ => .error (.invalidType value.found "a sequence")

lemma ofMembers_cons (draft : Draft) (name : String) (value : Json)
    (members : List (String × Json)) :
    ofMembers draft ((name, value) :: members) = (do
      let member ← draft.member name
      let draft ← draft.take value.primitive (itemsOf value) member
      ofMembers draft members) := by
  cases value <;> simp only [ofMembers, itemsOf]

end Item

namespace Json

mutual

/-- The text of the form of an item is scanned as this item, if there are not too many levels. -/
lemma Spells.takes_item {json : Json} {text : List Char} {item : Item}
    (spelled : Spells json text) (read : Item.ofForm json = .ok item) (depth : Nat)
    (rest : List Char) :
    Takes (Item.scan depth) (text ++ rest) rest json.levels depth item := by
  cases spelled with
  | atom single => cases json <;> first | cases read | exact single.elim
  | array spelled => cases read
  | @object members text spelled =>
    have opened := Scan.next?_append (c := '\x7b') isGap_nil rfl (text ++ rest)
    -- at no depth the brace is met, and refused
    cases depth with
    | zero => exact takes_of_error ((Scan.bind_of_ok opened).trans rfl) (Nat.succ_pos _)
    | succ depth =>
      obtain ⟨draft, complete, taken⟩ : ∃ draft : Draft, draft.item = .ok item ∧
          Takes (Scan.members (Item.scanMember depth) {}) (text ++ rest) rest
            (levelsOfMembers members) depth draft :=
        spelled.takes_draft read depth _ (by rw [List.length_append]; omega) rest
      rw [Item.scan_succ]
      refine .behind opened (.behind rfl (taken.bind_ok ?_ Nat.succ_le_succ_iff))
      rw [complete]
      rfl

/-- So are the members of the form of an item, into a draft that makes up the item. -/
lemma SpellsMembers.takes_draft {first : Bool} {members : List (String × Json)}
    {text : List Char} {draft : Draft} {item : Item} (spelled : SpellsMembers first members text)
    (read : Item.ofMembers draft members = .ok item) (depth fuel : Nat)
    (enough : text.length ≤ fuel) (rest : List Char) :
    ∃ final : Draft, final.item = .ok item ∧
      Takes (Scan.membersWithin (Item.scanMember depth) first draft fuel) (text ++ rest) rest
        (levelsOfMembers members) depth final := by
  obtain ⟨fuel, rfl⟩ := Nat.exists_eq_add_one.2 (spelled.length_pos.trans_le enough)
  cases spelled with
  | nil blank => exact ⟨draft, read, takes_membersWithin_nil blank draft⟩
  | @cons _ name value members _ space text more blank blanks spelled others =>
    rw [Item.ofMembers_cons] at read
    obtain ⟨member, named, read⟩ := Encoded.bind_eq_ok.1 read
    obtain ⟨next, taken, read⟩ := Encoded.bind_eq_ok.1 read
    obtain ⟨final, complete, left⟩ := others.takes_draft read depth fuel
      (by simp only [List.length_append, List.length_cons] at enough; omega) rest
    have found : (ofExcept (draft.member name) : Scan Draft.Member)
        (':' :: (space ++ text ++ (more ++ rest))) =
          .ok (member, ':' :: (space ++ text ++ (more ++ rest))) := by
      rw [named]
      rfl
    refine ⟨final, complete, takes_membersWithin_cons blank
      (.behind found (.behind (Scan.colon_append _) ?_)) left⟩
    cases member with
    | tag => exact spelled.takes_text blanks (fun _ => lifts_pure _) taken depth
    | type =>
      exact spelled.takes_text blanks (fun _ => (lifts_ofExcept _).bind fun _ => lifts_pure _) taken
        depth
    | value =>
      -- what the value is taken as depends on the type that has been read in front of it
      unfold Draft.take at taken ⊢
      cases known : draft.type.getD .structured with
      | structured =>
        rw [known] at taken
        obtain ⟨items, formed, made⟩ := Encoded.bind_eq_ok.1 taken
        obtain rfl := Except.ok.inj made
        exact (spelled.takes_items blanks formed depth _).bind_ok rfl Iff.rfl
      | scalar type =>
        rw [known] at taken
        obtain ⟨content, formed, made⟩ := Encoded.bind_eq_ok.1 taken
        obtain rfl := Except.ok.inj made
        exact (spelled.takes_content blanks (others.ends rest) formed depth).bind_ok rfl Iff.rfl

/-- So is the array of the forms of items. -/
lemma Spells.takes_items {json : Json} {text gap : List Char} {items : List Item}
    (spelled : Spells json text) (blank : IsGap gap) (read : Item.itemsOf json = .ok items)
    (depth : Nat) (rest : List Char) :
    Takes (Item.scanItems (Item.inner? depth)) (gap ++ text ++ rest) rest json.levels depth
      items := by
  cases spelled with
  | atom single => cases json <;> first | cases read | exact single.elim
  | object spelled => cases read
  | @array forms text spelled =>
    have opened := Scan.next?_append (c := '[') blank rfl (text ++ rest)
    rw [List.append_assoc, List.cons_append]
    cases depth with
    | zero => exact takes_of_error ((Scan.bind_of_ok opened).trans rfl) (Nat.succ_pos _)
    | succ depth =>
      have taken : Takes (Scan.items (Item.scan depth)) (text ++ rest) rest
          (levelsOfItems forms) depth items :=
        spelled.takes_forms read depth _ (by rw [List.length_append]; omega) rest
      exact .behind opened (.behind rfl taken.succ)

/-- So are the forms of items. -/
lemma SpellsItems.takes_forms {first : Bool} {forms : List Json} {text : List Char}
    {items : List Item} (spelled : SpellsItems first forms text)
    (read : Item.ofForms forms = .ok items)
    (depth fuel : Nat) (enough : text.length ≤ fuel) (rest : List Char) :
    Takes (Scan.itemsWithin (Item.scan depth) first fuel) (text ++ rest) rest
      (levelsOfItems forms) depth items := by
  obtain ⟨fuel, rfl⟩ := Nat.exists_eq_add_one.2 (spelled.length_pos.trans_le enough)
  cases spelled with
  | nil blank =>
    obtain rfl := Except.ok.inj read
    exact takes_itemsWithin_nil blank
  | cons blank spelled others =>
    rw [Item.ofForms] at read
    obtain ⟨item, formed, read⟩ := Encoded.bind_eq_ok.1 read
    obtain ⟨items, others_formed, made⟩ := Encoded.bind_eq_ok.1 read
    obtain rfl := Except.ok.inj made
    rw [List.length_append, List.length_append] at enough
    have left := others.takes_forms others_formed depth fuel
      (by have := spelled.length_pos; omega) rest
    exact takes_itemsWithin_cons blank spelled (spelled.takes_item formed depth _) left

end

/-- A text that stands for the form of an item is read as this item, if there are not too many
levels. -/
lemma Spells.ofFormText_eq {json : Json} {text : List Char} {item : Item}
    (spelled : Spells json text) (read : Item.ofForm json = .ok item) :
    Item.ofFormText (String.ofList text) = bounded json.levels depthLimit item := by
  have takes := spelled.takes_item read depthLimit []
  rw [List.append_nil] at takes
  exact whole_of_takes takes

end Json

end Kmip
