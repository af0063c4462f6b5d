import Kmip.Proofs.FormScan
import Kmip.Proofs.Hex
import Kmip.Proofs.Item
import Kmip.Proofs.Rfc3339

/-!
# The texts of items

Every item has a form if its date-times have a text (`Item.IsWritable`). The form has two levels for
each structure and one for a single value, so that its texts, compact or indented, are read as the item
as far as its structures lie at most 63 deep within each other, and are refused beyond that
(`Item.ofFormText_form`).
-/

namespace Kmip

namespace Json

lemma IsAtom.sorted_eq {json : Json} (single : json.IsAtom) : json.sorted = json := by
  cases json with
  | array items => exact single.elim
  | object members => exact single.elim
  | null | bool value | integer value | float value | string text => rfl

end Json

namespace ScalarType

/-- A date-time has a local year of four digits and an offset of whole minutes; any other value can
be written. -/
def IsWritable : (type : ScalarType) → type.Content → Prop
  | dateTime, time => time.IsWritable
  | integer, _ | longInteger, _ | bigInteger, _ | enumeration, _ | boolean, _ | textString, _
  | byteString, _ | interval, _ | dateTimeExtended, _ => True

/-- Digits are read as the bytes that they were made of. -/
lemma bytesOfDigits_encodeUpper (what text : String) (bytes : Bytes) :
    bytesOfDigits what text (Hex.encodeUpper bytes) = .ok bytes := by
  rw [bytesOfDigits, Hex.decode_encodeUpper]
  rfl

lemma bytesOfHex_append (what : String) (bytes : Bytes) :
    bytesOfHex what ("0x" ++ Hex.encodeUpper bytes) = .ok bytes := by
  have spelled : ("0x" ++ Hex.encodeUpper bytes).toList =
      '0' :: 'x' :: (Hex.encodeUpper bytes).toList := by
    simp
  rw [bytesOfHex, spelled]
  simp only [String.ofList_toList, bytesOfDigits_encodeUpper]

/-- A word is read from the digits of its bytes. -/
lemma wordOfHex_bigEndian (what : String) {width n : Nat} (fits : n < 256 ^ width) :
    wordOfHex what width ("0x" ++ Hex.encodeUpper (Bytes.bigEndian width n)) = .ok n := by
  simp [wordOfHex, bytesOfHex_append, Nat.mod_eq_of_lt fits, bind, Except.bind, pure, Except.pure]

/-- What is made of the word that a text spells. -/
lemma ofExcept_wordOfHex_bind {α : Type} (what : String) {width n : Nat} (fits : n < 256 ^ width)
    (make : Nat → α) :
    (do
      let text ← (Json.string ("0x" ++ Hex.encodeUpper (Bytes.bigEndian width n))).primitive.text
      let word ← ofExcept (wordOfHex what width text)
      pure (make word)) = (Except.ok (make n) : Except Json.Fault α) :=
  Encoded.bind_eq_ok.2 ⟨_, rfl, Encoded.bind_eq_ok.2 ⟨_, (Json.ofExcept_eq _).trans
    (wordOfHex_bigEndian what fits), rfl⟩⟩

/-- A writable value has a form without parts, from which it is read. -/
lemma exists_form {type : ScalarType} {content : type.Content} (writable : type.IsWritable content) :
    ∃ value, type.form content = .ok value ∧ value.IsAtom ∧
      type.ofForm value.primitive = .ok content := by
  cases type with
  | integer =>
    have low := Int32.le_toInt content
    have high := Int32.toInt_lt content
    have whole : (Json.integer content.toInt).within (-2147483648) 2147483647 "i32" =
        .ok content.toInt := if_pos (by omega)
    refine ⟨_, rfl, ⟨by omega, high.trans (by decide)⟩, ?_⟩
    exact Encoded.bind_eq_ok.2 ⟨_, whole, congrArg Except.ok (Int32.ofInt_toInt content)⟩
  | interval =>
    have high := UInt32.toNat_lt content
    have whole : (Json.integer content.toNat).within 0 4294967295 "u32" = .ok content.toNat :=
      if_pos (by omega)
    refine ⟨_, rfl, ⟨by omega, lt_of_lt_of_le (Int.ofNat_lt.2 high) (by decide)⟩, ?_⟩
    exact Encoded.bind_eq_ok.2 ⟨_, whole, congrArg Except.ok UInt32.ofNat_toNat⟩
  | longInteger | dateTimeExtended =>
    refine ⟨_, rfl, trivial, ?_⟩
    refine (ofExcept_wordOfHex_bind _ (UInt64.toNat_lt _) _).trans ?_
    simp
  | bigInteger =>
    have whole : BigInteger.ofBytes (BigInteger.encode content) = .ok content := by
      rw [BigInteger.ofBytes, if_pos (BigInteger.length_encode_mod content),
        BigInteger.decode_eq_iff.2 (BigInteger.twosComplement_encode content)]
    refine ⟨_, rfl, trivial, ?_⟩
    exact Encoded.bind_eq_ok.2 ⟨_, rfl, Encoded.bind_eq_ok.2 ⟨_, (Json.ofExcept_eq _).trans
      (bytesOfHex_append _ _), (Json.ofExcept_eq _).trans (congrArg (Except.mapError _) whole)⟩⟩
  | enumeration =>
    refine ⟨_, rfl, trivial, ?_⟩
    refine (ofExcept_wordOfHex_bind _ (UInt32.toNat_lt _) _).trans ?_
    rw [UInt32.ofNat_toNat]
  | boolean | textString => exact ⟨_, rfl, trivial, rfl⟩
  | byteString =>
    refine ⟨_, rfl, trivial, ?_⟩
    exact Encoded.bind_eq_ok.2 ⟨_, rfl, (Json.ofExcept_eq _).trans (bytesOfDigits_encodeUpper _ _ _)⟩
  | dateTime =>
    obtain ⟨text, written, read⟩ := DateTime.Rfc3339.parse_format writable
    refine ⟨.string text, ?_, trivial, ?_⟩
    · unfold form
      simp only [written]
    · refine Encoded.bind_eq_ok.2 ⟨text, rfl, ?_⟩
      rw [read]
      rfl

end ScalarType

/-- Every type is found by its name. -/
lemma ItemType.named?_name (type : ItemType) : named? type.name = some type := by
  rcases type with _ | (_ | _) <;> decide

namespace Item

/-- Every date-time has a text. -/
def IsWritable (item : Item) : Prop :=
  ∀ inner ∈ item.all, ∀ type content, inner.value = .scalar type content → type.IsWritable content

lemma isWritable_structured {tag : String} {items : List Item} :
    IsWritable ⟨tag, .structured items⟩ ↔ ∀ item ∈ items, item.IsWritable := by
  simp [IsWritable, forall_mem_all_structured]

lemma isWritable_scalar {tag : String} {type : ScalarType} {content : type.Content} :
    IsWritable ⟨tag, .scalar type content⟩ ↔ type.IsWritable content :=
  forall_content_scalar

/-- The value is the form of the item, and the item is read from it. It has two levels for each
structure, and one more where a single value lies in the innermost one. -/
structure HasForm (item : Item) (json : Json) : Prop where
  form : item.form = .ok json
  plain : json.IsPlain
  sorted : json.sorted = json
  read : ofForm json = .ok item
  low : 2 * item.value.nesting ≤ json.levels
  high : json.levels ≤ 2 * item.value.nesting + 1

/-- The values are the forms of the items. -/
structure HaveForms (items : List Item) (forms : List Json) : Prop where
  form : Item.forms items = .ok forms
  plain : Json.ArePlain forms
  sorted : Json.sortedItems forms = forms
  read : ofForms forms = .ok items
  low : 2 * Value.nestingOfAll items ≤ Json.levelsOfItems forms
  high : Json.levelsOfItems forms ≤ 2 * Value.nestingOfAll items + 1

/-- The members of a form stand in the order of their names. -/
lemma sorted_members (tag type : String) (value : Json) :
    (Json.object [("tag", .string tag), ("type", .string type), ("value", value)]).sorted =
      .object [("tag", .string tag), ("type", .string type), ("value", value.sorted)] := by
  have order : ¬ "type" < "tag" ∧ ¬ "value" < "tag" ∧ ¬ "value" < "type" := by decide
  simp only [Json.sorted, Json.sortedMembers, Json.insertSorted, order, String.reduceEq, if_false]

/-- An item is read from its members if its value is read from the last one. -/
lemma ofForm_members (tag : String) (type : ItemType) (json : Json) (value : Value)
    (read : Draft.take json.primitive (itemsOf json) ⟨some tag, some type, none⟩ .value =
      (.ok ⟨some tag, some type, some value⟩ : Except Json.Fault Draft)) :
    ofForm (.object [("tag", .string tag), ("type", .string type.name), ("value", json)]) =
      .ok ⟨tag, value⟩ := by
  have typed : Draft.take (Json.string type.name).primitive (itemsOf (.string type.name))
      ⟨some tag, none, none⟩ .type = (.ok ⟨some tag, some type, none⟩ : Except Json.Fault Draft) := by
    refine Encoded.bind_eq_ok.2 ⟨_, rfl, Encoded.bind_eq_ok.2 ⟨type, ?_, rfl⟩⟩
    rw [Draft.typeNamed, ItemType.named?_name]
    rfl
  rw [ofForm, ofMembers_cons]
  refine Encoded.bind_eq_ok.2 ⟨.tag, rfl, Encoded.bind_eq_ok.2 ⟨_, rfl, ?_⟩⟩
  rw [ofMembers_cons]
  refine Encoded.bind_eq_ok.2 ⟨.type, rfl, Encoded.bind_eq_ok.2 ⟨_, typed, ?_⟩⟩
  rw [ofMembers_cons]
  exact Encoded.bind_eq_ok.2 ⟨.value, rfl, Encoded.bind_eq_ok.2 ⟨_, read, rfl⟩⟩

lemma HaveForms.nil : HaveForms [] [] :=
  ⟨rfl, trivial, rfl, rfl, le_rfl, by decide⟩

lemma HaveForms.cons {item : Item} {items : List Item} {json : Json} {forms : List Json}
    (first : item.HasForm json) (others : HaveForms items forms) :
    HaveForms (item :: items) (json :: forms) where
  form := by
    rw [Item.forms, first.form]
    exact Encoded.bind_eq_ok.2 ⟨_, rfl, Encoded.bind_eq_ok.2 ⟨_, others.form, rfl⟩⟩
  plain := ⟨first.plain, others.plain⟩
  sorted := by
    rw [Json.sortedItems, first.sorted, others.sorted]
  read := by
    rw [ofForms]
    exact Encoded.bind_eq_ok.2 ⟨_, first.read, Encoded.bind_eq_ok.2 ⟨_, others.read, rfl⟩⟩
  low := by
    have := first.low
    have := others.low
    rw [nestingOfAll_cons, Json.levelsOfItems]
    omega
  high := by
    have := first.high
    have := others.high
    rw [nestingOfAll_cons, Json.levelsOfItems]
    omega

lemma HaveForms.structured {items : List Item} {forms : List Json} (parts : HaveForms items forms)
    (tag : String) :
    HasForm ⟨tag, .structured items⟩ (.object [("tag", .string tag),
      ("type", .string ItemType.structured.name), ("value", .array forms)]) where
  form := by
    rw [Item.form]
    exact Encoded.bind_eq_ok.2 ⟨_, parts.form, rfl⟩
  plain := ⟨trivial, trivial, parts.plain, trivial⟩
  sorted := by
    rw [sorted_members, Json.sorted, parts.sorted]
  read := ofForm_members tag .structured _ _ (Encoded.bind_eq_ok.2 ⟨_, parts.read, rfl⟩)
  -- the object is one level, and the array in it another one
  low := by
    have := parts.low
    simp [Json.levels, Json.levelsOfMembers, Value.nesting]
    omega
  high := by
    have := parts.high
    simp [Json.levels, Json.levelsOfMembers, Value.nesting]
    omega

lemma hasForm_scalar (tag : String) {type : ScalarType} {content : type.Content} {json : Json}
    (form : type.form content = .ok json) (single : json.IsAtom)
    (read : type.ofForm json.primitive = .ok content) :
    HasForm ⟨tag, .scalar type content⟩ (.object [("tag", .string tag),
      ("type", .string (ItemType.scalar type).name), ("value", json)]) where
  form := by
    rw [Item.form]
    exact Encoded.bind_eq_ok.2 ⟨_, form, rfl⟩
  plain := ⟨trivial, trivial, single.isPlain, trivial⟩
  sorted := by
    rw [sorted_members, single.sorted_eq]
  read := ofForm_members tag (.scalar type) _ _ (Encoded.bind_eq_ok.2 ⟨_, read, rfl⟩)
  low := by
    simp [Json.levels, Json.levelsOfMembers, Value.nesting, single.levels_eq]
  high := by
    simp [Json.levels, Json.levelsOfMembers, Value.nesting, single.levels_eq]

mutual

/-- A writable item has a form. -/
lemma exists_hasForm (item : Item) (writable : item.IsWritable) : ∃ json, item.HasForm json := by
  cases item with
  | mk tag value =>
    cases value with
    | structured items =>
      obtain ⟨forms, parts⟩ := exists_haveForms items (isWritable_structured.1 writable)
      exact ⟨_, parts.structured tag⟩
    | scalar type content =>
      obtain ⟨json, form, single, read⟩ := ScalarType.exists_form (isWritable_scalar.1 writable)
      exact ⟨_, hasForm_scalar tag form single read⟩

/-- So do writable items. -/
lemma exists_haveForms (items : List Item) (writable : ∀ item ∈ items, item.IsWritable) :
    ∃ forms, HaveForms items forms := by
  cases items with
  | nil => exact ⟨[], .nil⟩
  | cons item items =>
    obtain ⟨first, others⟩ := List.forall_mem_cons.1 writable
    obtain ⟨json, has⟩ := exists_hasForm item first
    obtain ⟨forms, parts⟩ := exists_haveForms items others
    exact ⟨json :: forms, .cons has parts⟩

end

variable {item : Item} {json : Json} {text : List Char}

/-- A text of the form is read as the item, directly or by way of a value, if there are not too many
levels. -/
lemma HasForm.eq_bounded (has : item.HasForm json) (spelled : json.Spells text) :
    ofFormText (String.ofList text) = Json.bounded json.levels Json.depthLimit item ∧
      ofFormValue (String.ofList text) = Json.bounded json.levels Json.depthLimit item := by
  refine ⟨spelled.ofFormText_eq has.read, ?_⟩
  rw [ofFormValue, spelled.parse_eq]
  unfold Json.bounded
  split
  · -- the members of a form are sorted as they stand
    refine Encoded.bind_eq_ok.2 ⟨_, rfl, ?_⟩
    rw [has.sorted, has.read]
  · rfl

/-- A text of the form is read as the item if its structures lie at most 63 deep. -/
lemma HasForm.read_text (has : item.HasForm json) (spelled : json.Spells text)
    (shallow : item.value.nesting ≤ 63) :
    ofFormText (String.ofList text) = .ok item ∧ ofFormValue (String.ofList text) = .ok item := by
  have within : json.levels ≤ Json.depthLimit := by
    have high := has.high
    have limit : Json.depthLimit = 127 := rfl
    omega
  have both := has.eq_bounded spelled
  rwa [Json.bounded, if_pos within] at both

/-- A text of the form is refused if its structures lie deeper. -/
lemma HasForm.refused (has : item.HasForm json) (spelled : json.Spells text)
    (deep : 64 ≤ item.value.nesting) :
    ofFormText (String.ofList text) = .error .malformed ∧
      ofFormValue (String.ofList text) = .error .malformed := by
  have beyond : ¬ json.levels ≤ Json.depthLimit := by
    have low := has.low
    have limit : Json.depthLimit = 127 := rfl
    omega
  have both := has.eq_bounded spelled
  rwa [Json.bounded, if_neg beyond] at both

/-- An item whose date-times have texts has a compact and an indented text. Either one is read as the
item, directly or by way of a value, if its structures lie at most 63 deep within each other, and is
refused if they lie deeper. -/
theorem ofFormText_form (item : Item) (writable : item.IsWritable) :
    ∃ json, item.form = .ok json ∧
      ∀ text ∈ [String.ofList json.compact, String.ofList (json.pretty 0)],
        (item.value.nesting ≤ 63 → ofFormText text = .ok item ∧ ofFormValue text = .ok item) ∧
        (64 ≤ item.value.nesting →
          ofFormText text = .error .malformed ∧ ofFormValue text = .error .malformed) := by
  obtain ⟨json, has⟩ := exists_hasForm item writable
  have compact := Json.spells_compact json has.plain
  have pretty := Json.spells_pretty 0 json has.plain
  refine ⟨json, has.form, List.forall_mem_cons.2 ⟨?_, List.forall_mem_singleton.2 ?_⟩⟩
  · exact ⟨has.read_text compact, has.refused compact⟩
  · exact ⟨has.read_text pretty, has.refused pretty⟩

/-- An instant in 63 structures is read back from its texts, with its fraction and its offset; in one
structure more it is refused. -/
theorem ofFormText_form_timeStamp :
    let timeStamp : Item :=
      ⟨"\x00é", .scalar .dateTime ⟨1205495800, ⟨500000001, by decide⟩, -16200⟩⟩
    let nested : Nat → Item := Nat.rec timeStamp fun _ inner => ⟨"BatchItem", .structured [inner]⟩
    (∃ json, (nested 63).form = .ok json ∧
      ofFormText (String.ofList json.compact) = .ok (nested 63) ∧
        ofFormValue (String.ofList (json.pretty 0)) = .ok (nested 63)) ∧
    ∃ json, (nested 64).form = .ok json ∧
      ofFormText (String.ofList json.compact) = .error .malformed ∧
        ofFormValue (String.ofList (json.pretty 0)) = .error .malformed := by
  intro timeStamp nested
  have writable : ∀ count, (nested count).IsWritable := by
    intro count
    induction count with
    | zero => exact isWritable_scalar.2 ⟨by decide, by decide, by decide, by decide⟩
    | succ count ih => exact isWritable_structured.2 (List.forall_mem_singleton.2 ih)
  have nesting : ∀ count, (nested count).value.nesting = count := by
    intro count
    induction count with
    | zero => rfl
    | succ count ih =>
      change Value.nesting (.structured [nested count]) = count + 1
      rw [Value.nesting, nestingOfAll_cons, ih, Value.nestingOfAll, Nat.max_zero]
  obtain ⟨shallow, formed, texts⟩ := ofFormText_form (nested 63) (writable 63)
  obtain ⟨deep, formed', texts'⟩ := ofFormText_form (nested 64) (writable 64)
  have within := fun text mem => (texts text mem).1 (nesting 63).le
  have beyond := fun text mem => (texts' text mem).2 (nesting 64).ge
  exact ⟨⟨shallow, formed, (within _ (by simp)).1, (within _ (by simp)).2⟩,
    ⟨deep, formed', (beyond _ (by simp)).1, (beyond _ (by simp)).2⟩⟩

end Item

end Kmip
