import Kmip.Proofs.Hex
import Kmip.Tag
import Kmip.Text.Utf8
import Mathlib.Data.List.Nodup
import Mathlib.Data.List.Sort

/-!
# Tags and their texts

The canonical text of a tag is read back as that tag (`ofText_text`), be it a registered name or a
number. So different tags have different texts (`text_injective`), and `canonical`, which replaces
the text of a tag by its canonical text, keeps what the text means (`ofText_canonical`).
-/

namespace Kmip.Tag

/-- Where an image is unique, looking for it finds its origin. -/
lemma find?_of_nodup_map {α β : Type} [DecidableEq β] {f : α → β} {entries : List α} {entry : α}
    (nodup : (entries.map f).Nodup) (mem : entry ∈ entries) :
    (entries.find? fun other => f other = f entry) = some entry := by
  cases found : entries.find? fun other => f other = f entry with
  | none => simpa using List.find?_eq_none.1 found entry mem
  | some other =>
    have same : f other = f entry := by simpa using List.find?_some found
    rw [List.inj_on_of_nodup_map nodup (List.mem_of_find?_eq_some found) mem same]

/-- No name is registered twice: the numbers that the names spell as bytes all differ. -/
lemma nodup_names : (registry.map Prod.fst).Nodup := by
  -- numbers can be sorted and compared by evaluation, which texts cannot
  let key (name : String) : Nat := (Utf8.encode name).toNat
  have ascending :
      ((registry.map fun entry => key entry.1).insertionSort (· ≤ ·)).IsChain (· < ·) := by
    decide +kernel
  have nodup : (registry.map fun entry => key entry.1).Nodup :=
    (List.perm_insertionSort _ _).nodup_iff.1 (ascending.pairwise.imp ne_of_lt)
  rw [← Function.comp_def key Prod.fst, ← List.map_map] at nodup
  exact nodup.of_map _

/-- The first byte of a text that starts with a zero. -/
lemma head?_encode_of_zero {text : String} {rest : List Char} (h : text.toList = '0' :: rest) :
    (Utf8.encode text).head? = some 48 := by
  obtain rfl : text = String.ofList ('0' :: rest) := by rw [← h, String.ofList_toList]
  have bytes : (String.ofList ('0' :: rest)).toUTF8 = ['0'].utf8Encode ++ rest.utf8Encode := by
    rw [String.toUTF8, String.toByteArray_ofList, List.utf8Encode_cons]
  have first : ['0'].utf8Encode.data.toList = [48] := by decide
  rw [Utf8.encode, bytes, ByteArray.data_append, Array.toList_append, first]
  rfl

/-- No registered name starts like a number. -/
lemma toList_ne_zero {entry : String × UInt32} (mem : entry ∈ registry) (rest : List Char) :
    entry.1.toList ≠ '0' :: rest := by
  have bytes : ∀ entry ∈ registry, (Utf8.encode entry.1).head? ≠ some 48 := by decide +kernel
  intro zero
  exact bytes entry mem (head?_encode_of_zero zero)

/-- A registered name is read as its number. -/
lemma ofText_of_mem {entry : String × UInt32} (mem : entry ∈ registry) :
    ofText entry.1 = .ok ⟨entry.2⟩ := by
  have named : named? entry.1 = some ⟨entry.2⟩ := by
    rw [named?, List.find?_append, find?_of_nodup_map nodup_names mem]
    rfl
  unfold ofText
  split
  · next h => exact absurd h (toList_ne_zero mem _)
  · next h => exact absurd h (toList_ne_zero mem _)
  · simp [ofName, named]

/-- The digits of a number spell it. -/
lemma hexValueFrom?_digitsOnto (n : Nat) (tail : List Char) :
    hexValueFrom? 0 (Hex.digitsOnto Hex.upperDigit n tail) = hexValueFrom? n tail := by
  induction n using Nat.strongRecOn generalizing tail with
  | ind n ih =>
    rw [Hex.digitsOnto]
    split
    · next small => simp [hexValueFrom?, Hex.digitValue?_upperDigit small]
    · next large =>
      have digit := Hex.digitValue?_upperDigit (Nat.mod_lt n (by decide : 0 < 16))
      rw [ih (n / 16) (by omega), hexValueFrom?, digit]
      simp [Nat.div_add_mod']

/-- Zeros in front of digits change nothing. -/
lemma hexValueFrom?_zeros (count : Nat) (digits : List Char) :
    hexValueFrom? 0 (List.replicate count '0' ++ digits) = hexValueFrom? 0 digits := by
  induction count with
  | zero => rfl
  | succ count ih =>
    rw [List.replicate_succ, List.cons_append, ← ih]
    rfl

/-- Digits without a sign spell a number of 32 bits. -/
lemma hexNumber?_of_value {digits : List Char} {n : Nat} (some : digits ≠ [])
    (value : hexValueFrom? 0 digits = .some n) (fits : n < 4294967296) :
    hexNumber? digits = .some (UInt32.ofNat n) := by
  cases digits with
  | nil => exact absurd rfl some
  | cons first rest =>
    have sign : first ≠ '+' := by
      rintro rfl
      cases value
    unfold hexNumber?
    split
    · next h => exact absurd (List.cons.inj h).1 sign
    · simp [value, fits]

/-- A number after its mark is read as that number. -/
lemma ofText_hexText (tag : Tag) : ofText tag.hexText = .ok tag := by
  let digits := Hex.digitsOnto Hex.upperDigit tag.code.toNat []
  let padded := List.replicate (6 - digits.length) '0' ++ digits
  have value : hexValueFrom? 0 padded = some tag.code.toNat := by
    rw [hexValueFrom?_zeros, hexValueFrom?_digitsOnto, hexValueFrom?]
  have some : padded ≠ [] := by
    intro none
    have length := congrArg List.length none
    simp only [padded, List.length_append, List.length_replicate, List.length_nil] at length
    omega
  have number := hexNumber?_of_value some value tag.code.toNat_lt
  have shown : tag.hexText.toList = '0' :: 'x' :: padded := by
    simp [hexText, Hex.ofNatUpper, padded, digits]
  unfold ofText
  rw [shown]
  simp [number]

/-- The canonical text of a tag is read back as that tag. -/
@[simp] theorem ofText_text (tag : Tag) : ofText tag.text = .ok tag := by
  unfold text
  cases found : tag.registered? with
  | none => exact ofText_hexText tag
  | some name =>
    obtain ⟨entry, first, rfl⟩ := Option.map_eq_some_iff.1 found
    have code : entry.2 = tag.code := by simpa using List.find?_some first
    rw [Option.getD_some, ofText_of_mem (List.mem_of_find?_eq_some first), code]

/-- Different tags have different texts. -/
lemma text_injective : Function.Injective text := by
  intro left right same
  have h := ofText_text left
  rw [same, ofText_text right] at h
  exact (Except.ok.inj h).symm

/-- The canonical text of the tag that a text names; a text that names none stays. -/
def canonical (text : String) : String :=
  match ofText text with
  | .ok tag => tag.text
  | .error _ => text

@[simp] lemma ofText_canonical (text : String) : ofText (canonical text) = ofText text := by
  unfold canonical
  split
  · next tag named => rw [ofText_text, named]
  · rfl

@[simp] lemma canonical_text (tag : Tag) : canonical tag.text = tag.text := by
  simp [canonical]

end Kmip.Tag
