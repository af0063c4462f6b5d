import Kmip.Item.Form
import Kmip.Proofs.Encoding
import Kmip.Proofs.JsonAtom
import Kmip.Proofs.Tag

/-!
# What the text of a tag says

The canonical text of a tag is the name that the registry gives to its number, or else the number in
upper-case hexadecimal digits. It tells tags apart, alone and in the JSON form of an item, compact or
indented (`text_identifies`).
-/

namespace Kmip.Tag

/-- Upper-case hexadecimal digits, six of them or as many more as are needed. -/
structure IsHexNumber (digits : List Char) : Prop where
  enough : 6 ≤ digits.length
  upper : ∀ c ∈ digits, '0' ≤ c ∧ c ≤ '9' ∨ 'A' ≤ c ∧ c ≤ 'F'
  lead : 6 < digits.length → digits.head? ≠ some '0'

lemma upperDigit_bounds {value : Nat} (small : value < 16) :
    '0' ≤ Hex.upperDigit value ∧ Hex.upperDigit value ≤ '9' ∨
      'A' ≤ Hex.upperDigit value ∧ Hex.upperDigit value ≤ 'F' := by
  interval_cases value <;> decide

lemma upperDigit_ne_zero {value : Nat} (small : value < 16) (positive : 0 < value) :
    Hex.upperDigit value ≠ '0' := by
  interval_cases value <;> decide

/-- The digits of a number are digits of hexadecimal numbers. -/
lemma forall_mem_digitsOnto {p : Char → Prop} (digit : ∀ value < 16, p (Hex.upperDigit value))
    (n : Nat) {tail : List Char} (behind : ∀ c ∈ tail, p c) :
    ∀ c ∈ Hex.digitsOnto Hex.upperDigit n tail, p c := by
  induction n using Nat.strongRecOn generalizing tail with
  | ind n ih =>
    rw [Hex.digitsOnto]
    split
    · next small => exact List.forall_mem_cons.2 ⟨digit n small, behind⟩
    · next large =>
      have last := digit (n % 16) (Nat.mod_lt n (by decide))
      exact ih (n / 16) (by omega) (List.forall_mem_cons.2 ⟨last, behind⟩)

/-- Only the number zero starts with a zero. -/
lemma head?_digitsOnto {n : Nat} (positive : 0 < n) (tail : List Char) :
    (Hex.digitsOnto Hex.upperDigit n tail).head? ≠ some '0' := by
  induction n using Nat.strongRecOn generalizing tail with
  | ind n ih =>
    rw [Hex.digitsOnto]
    split
    · next small =>
      rw [List.head?_cons]
      exact fun same => upperDigit_ne_zero small positive (Option.some.inj same)
    · next large => exact ih (n / 16) (by omega) (by omega) _

/-- A tag as a number is made of six digits, or as many more as are needed. -/
lemma exists_hexText (tag : Tag) :
    ∃ digits, tag.hexText = "0x" ++ String.ofList digits ∧ IsHexNumber digits := by
  refine ⟨_, rfl, ?_, ?_, ?_⟩ <;> generalize tag.code.toNat = n
  · rw [List.length_append, List.length_replicate]
    omega
  · refine List.forall_mem_append.2 ⟨fun c zero => ?_, ?_⟩
    · rw [List.eq_of_mem_replicate zero]
      decide
    · exact forall_mem_digitsOnto (fun _ => upperDigit_bounds) n (List.forall_mem_nil _)
  · intro many
    rw [List.length_append, List.length_replicate] at many
    have none : 6 - (Hex.digitsOnto Hex.upperDigit n []).length = 0 := by omega
    rw [none, List.replicate_zero, List.nil_append]
    refine head?_digitsOnto (Nat.pos_of_ne_zero fun zero => ?_) []
    -- the number zero has one digit
    rw [zero, Hex.digitsOnto, if_pos (by decide), List.length_singleton] at many
    omega

/-- No number is registered twice: they stand in ascending order. -/
lemma nodup_codes : (registry.map Prod.snd).Nodup := by
  have ascending : (registry.map fun entry => entry.2.toNat).IsChain (· < ·) := by
    decide +kernel
  have nodup : (registry.map fun entry => entry.2.toNat).Nodup := ascending.pairwise.imp ne_of_lt
  rw [← Function.comp_def UInt32.toNat Prod.snd, ← List.map_map] at nodup
  exact nodup.of_map _

/-- A registered tag has its name as text. -/
lemma text_of_mem {tag : Tag} {name : String} (mem : (name, tag.code) ∈ registry) :
    tag.text = name := by
  have found := find?_of_nodup_map nodup_codes mem
  rw [text, registered?, found]
  rfl

/-- A tag that is not registered is written as a number. -/
lemma text_of_not_mem {tag : Tag} (unknown : ∀ name, (name, tag.code) ∉ registry) :
    tag.text = tag.hexText := by
  have none : tag.registered? = none := by
    rw [registered?, Option.map_eq_none_iff, List.find?_eq_none]
    rintro ⟨name, code⟩ mem same
    obtain rfl : code = tag.code := by simpa using same
    exact unknown name mem
  rw [text, none, Option.getD_none]

/-- A text between quotes ends where the second quote stands. -/
lemma eq_of_quote_append_eq {left right : String} {behind after : List Char}
    (same : Json.quote left ++ behind = Json.quote right ++ after) : left = right := by
  have read := Json.Scan.quoted_append left behind
  rw [same, Json.Scan.quoted_append right after] at read
  exact (congrArg Prod.fst (Except.ok.inj read)).symm

/-- The form of an item starts with its tag. -/
lemma exists_object_of_form {tag : String} {value : Value} {form : Json}
    (written : Item.form ⟨tag, value⟩ = .ok form) :
    ∃ second rest, form = .object (("tag", .string tag) :: second :: rest) := by
  cases value with
  | structured items =>
    rw [Item.form] at written
    obtain ⟨forms, -, made⟩ := Encoded.bind_eq_ok.1 written
    exact ⟨_, _, (Except.ok.inj made).symm⟩
  | scalar type content =>
    rw [Item.form] at written
    obtain ⟨held, -, made⟩ := Encoded.bind_eq_ok.1 written
    exact ⟨_, _, (Except.ok.inj made).symm⟩

lemma exists_compact_of_form {tag : String} {value : Value} {form : Json}
    (written : Item.form ⟨tag, value⟩ = .ok form) :
    ∃ rest, form.compact = '\x7b' :: Json.quote "tag" ++ ':' :: (Json.quote tag ++ rest) := by
  obtain ⟨⟨name, second⟩, rest, rfl⟩ := exists_object_of_form written
  refine ⟨',' :: (Json.compactMembers ((name, second) :: rest) ++ ['\x7d']), ?_⟩
  simp [Json.compact, Json.compactMembers, Json.atom]

lemma exists_pretty_of_form {tag : String} {value : Value} {form : Json}
    (written : Item.form ⟨tag, value⟩ = .ok form) :
    ∃ rest, form.pretty 0 = '\x7b' :: Json.newline 1 ++ Json.quote "tag" ++
      ':' :: ' ' :: (Json.quote tag ++ rest) := by
  obtain ⟨⟨name, second⟩, rest, rfl⟩ := exists_object_of_form written
  refine ⟨',' :: (Json.prettyMembers 1 ((name, second) :: rest) ++ (Json.newline 0 ++ ['\x7d'])),
    ?_⟩
  simp [Json.pretty, Json.prettyMembers, Json.atom]

/-- The texts of the forms of two items differ where their tags do. -/
lemma tag_eq_of_form {left right : String} {value other : Value} {first second : Json}
    (one : Item.form ⟨left, value⟩ = .ok first) (two : Item.form ⟨right, other⟩ = .ok second)
    (same : first.compact = second.compact ∨ first.pretty 0 = second.pretty 0) :
    left = right := by
  rcases same with same | same
  · obtain ⟨behind, spelled⟩ := exists_compact_of_form one
    obtain ⟨after, spelled'⟩ := exists_compact_of_form two
    rw [spelled, spelled'] at same
    exact eq_of_quote_append_eq (List.cons.inj (List.append_cancel_left same)).2
  · obtain ⟨behind, spelled⟩ := exists_pretty_of_form one
    obtain ⟨after, spelled'⟩ := exists_pretty_of_form two
    rw [spelled, spelled'] at same
    exact eq_of_quote_append_eq
      (List.cons.inj (List.cons.inj (List.append_cancel_left same)).2).2

/-- The text of a tag identifies it: it is read as this tag, no other tag has it, and items under
other tags have other forms. Every text that names the tag stands for its canonical text, which is
the name in the registry, or else the number in at least six upper-case digits. -/
theorem text_identifies (tag : Tag) :
    ofText tag.text = .ok tag ∧
    (∀ other : Tag, other.text = tag.text → other = tag) ∧
    (∀ (other : Tag) (value value' : Value) (form form' : Json),
      Item.form ⟨tag.text, value⟩ = .ok form → Item.form ⟨other.text, value'⟩ = .ok form' →
        form.compact = form'.compact ∨ form.pretty 0 = form'.pretty 0 → other = tag) ∧
    (∀ text, ofText text = .ok tag →
      canonical text = tag.text ∧ ofText (canonical text) = .ok tag) ∧
    (∀ name, (name, tag.code) ∈ registry → tag.text = name) ∧
    ((∀ name, (name, tag.code) ∉ registry) →
      ∃ digits, tag.text = "0x" ++ String.ofList digits ∧ IsHexNumber digits) := by
  refine ⟨ofText_text tag, fun other same => text_injective same, ?_, fun text named => ?_,
    fun name mem => text_of_mem mem, fun unknown => ?_⟩
  · intro other value value' form form' one two same
    exact text_injective (tag_eq_of_form one two same).symm
  · rw [ofText_canonical, canonical, named]
    exact ⟨rfl, rfl⟩
  · rw [text_of_not_mem unknown]
    exact exists_hexText tag

/-- An alias and a number stand for the registered name, and a tag beyond the registry for its
digits. -/
theorem text_identifies_batchItem :
    canonical "ResponseBatchItem" = "BatchItem" ∧ canonical "0x0042000f" = "BatchItem" ∧
      ∃ digits, (Tag.mk 0x54).text = "0x" ++ String.ofList digits ∧ IsHexNumber digits := by
  obtain ⟨-, -, -, named, registered, -⟩ := text_identifies ⟨0x42000F⟩
  have canonical_text := registered "BatchItem" (by decide +kernel)
  refine ⟨((named "ResponseBatchItem" ?_).1).trans canonical_text,
    ((named "0x0042000f" ?_).1).trans canonical_text, ?_⟩
  · decide +kernel
  · decide +kernel
  · refine (text_identifies ⟨0x54⟩).2.2.2.2.2 fun name mem => ?_
    have all : ∀ entry ∈ registry, entry.2 ≠ 0x54 := by decide +kernel
    exact all _ mem rfl

end Kmip.Tag
