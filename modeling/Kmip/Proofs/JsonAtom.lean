import Kmip.Proofs.Decimal
import Kmip.Proofs.Hex
import Kmip.Proofs.JsonText

/-!
# Scanning JSON atoms

A quoted text is scanned as the text that it quotes, and the digits of a whole number as the number.
-/

namespace Kmip.Json

/-- The number of a control character is spelled by four digits. -/
lemma hexUnit?_control {code : Nat} (control : code < 0x20) :
    hexUnit? '0' '0' (Hex.lowerDigit (code / 16)) (Hex.lowerDigit (code % 16)) = some code := by
  have high := Hex.digitValue?_lowerDigit (by omega : code / 16 < 16)
  have low := Hex.digitValue?_lowerDigit (by omega : code % 16 < 16)
  have zero : Hex.digitValue? 48 = some 0 := rfl
  simp [hexUnit?, zero, high, low, Nat.div_add_mod']

/-- A character of a quoted text is scanned as itself. -/
lemma quoted?_escape (c : Char) (held rest : List Char) :
    quoted? held (escape c ++ rest) = quoted? (c :: held) rest := by
  -- one case for each way to spell a character, in the order in which they are tried
  unfold escape
  split
  · next mark => rcases mark with rfl | rfl <;> rfl
  split
  · next same => subst same; rfl
  split
  · next same => subst same; rfl
  split
  · next same => subst same; rfl
  split
  · next same => subst same; rfl
  split
  · next same => subst same; rfl
  split
  · next control =>
    have low : c.toNat < 0xD800 ∨ 0xDFFF < c.toNat := .inl (control.trans (by decide))
    simp only [List.cons_append, List.nil_append]
    rw [quoted?, hexUnit?_control control]
    simp only [if_pos low, Char.ofNat_toNat]
  · next mark _ _ _ _ _ plain =>
    rw [List.singleton_append, quoted?]
    · rw [if_neg plain]
    all_goals simp_all

/-- A quoted text is scanned as the text that it quotes. -/
lemma quoted?_flatMap (text held rest : List Char) :
    quoted? held (text.flatMap escape ++ '"' :: rest) = some (held.reverse ++ text, rest) := by
  induction text generalizing held with
  | nil => simp [quoted?]
  | cons c text ih =>
    rw [List.flatMap_cons, List.append_assoc, quoted?_escape, ih]
    simp

/-- Nothing at the front of the text goes on with a number. -/
def Ends (text : List Char) : Prop :=
  ∀ c ∈ text.head?, isDigit c = false ∧ c ≠ '.' ∧ c ≠ 'e' ∧ c ≠ 'E'

lemma digits?_append {digits rest : List Char} (all : ∀ c ∈ digits, isDigit c) (some : digits ≠ [])
    (ends : Ends rest) : digits? (digits ++ rest) = .some (digits, rest) := by
  have taken : (digits ++ rest).takeWhile isDigit = digits := by
    rw [List.takeWhile_append_of_pos all]
    cases rest with
    | nil => simp
    | cons c rest => simp [(ends c rfl).1]
  simp [digits?, taken, some]

/-- The digits of a whole number are scanned as its whole part. -/
lemma whole?_ofNat (n : Nat) {rest : List Char} (ends : Ends rest) :
    whole? (Decimal.ofNat n ++ rest) = some (Decimal.ofNat n, rest) := by
  have found := digits?_append (Decimal.isSome_digitValue?_ofNat n) (Decimal.ofNat_ne_nil n) ends
  have leading : (Decimal.ofNat n).length = 1 ∨ (Decimal.ofNat n).head? ≠ some '0' := by
    rcases Nat.eq_zero_or_pos n with rfl | positive
    · left
      simp [Decimal.ofNat, Decimal.digitsOnto]
    · exact .inr (Decimal.head?_ofNat_ne_zero positive)
  simp [whole?, found, leading]

lemma fraction?_of_ends {rest : List Char} (ends : Ends rest) :
    fraction? rest = some (none, rest) := by
  unfold fraction?
  split
  · exact absurd rfl (ends '.' rfl).2.1
  · rfl

lemma exponent?_of_ends {rest : List Char} (ends : Ends rest) :
    exponent? rest = some (none, rest) := by
  unfold exponent?
  split
  · exact absurd rfl (ends 'e' rfl).2.2.1
  · exact absurd rfl (ends 'E' rfl).2.2.2
  · rfl

lemma exists_head_ofNat (n : Nat) : ∃ c rest, Decimal.ofNat n = c :: rest ∧ isDigit c := by
  cases spelled : Decimal.ofNat n with
  | nil => exact absurd spelled (Decimal.ofNat_ne_nil n)
  | cons c rest =>
    exact ⟨c, rest, rfl, Decimal.isSome_digitValue?_ofNat n c (spelled ▸ List.mem_cons_self)⟩

/-- A whole number is scanned as a numeral without fraction and exponent. -/
lemma numeral?_ofInt (n : Int) {rest : List Char} (ends : Ends rest) :
    numeral? (Decimal.ofInt n ++ rest) =
      some (⟨n < 0, Decimal.ofNat n.natAbs, none, none⟩, rest) := by
  have whole := whole?_ofNat n.natAbs ends
  have point := fraction?_of_ends ends
  have letter := exponent?_of_ends ends
  unfold Decimal.ofInt
  split
  · next negative => simp [numeral?, whole, point, letter, negative]
  · next positive =>
    obtain ⟨c, more, spelled, digit⟩ := exists_head_ofNat n.natAbs
    have unsigned : c ≠ '-' := by
      rintro rfl
      cases digit
    rw [spelled] at whole ⊢
    simp only [List.cons_append] at whole ⊢
    simp [numeral?, unsigned, whole, point, letter, positive]

/-- A whole number of 64 bits is scanned as itself. -/
lemma number_ofInt {n : Int} (atom : (integer n).IsAtom) {rest : List Char} (ends : Ends rest) :
    Scan.number (Decimal.ofInt n ++ rest) = .ok (.integer n, rest) := by
  obtain ⟨low, high⟩ := atom
  have value : (⟨n < 0, Decimal.ofNat n.natAbs, none, none⟩ : Numeral).value? =
      some (.integer n) := by
    rw [Numeral.value?, if_neg (by simp), Decimal.valueFrom?_ofNat]
    by_cases negative : n < 0
    · have fits : 0 < n.natAbs ∧ n.natAbs ≤ wordLimit / 2 := by
        unfold wordLimit
        omega
      have same : -(n.natAbs : Int) = n := by omega
      simp only [negative, decide_true, Option.bind_eq_bind, Option.bind_some, if_true, if_pos fits,
        same]
      rfl
    · have fits : n.natAbs < wordLimit := by omega
      have same : (n.natAbs : Int) = n := by omega
      simp only [negative, decide_false, Option.bind_eq_bind, Option.bind_some, if_pos fits, same,
        Bool.false_eq_true, if_false]
      rfl
  simp [Scan.number, numeral?_ofInt n ends, value]

namespace Scan

variable {α β : Type}

/-- A step that succeeds is followed by the next one. -/
lemma bind_of_ok {step : Scan α} {next : α → Scan β} {text rest : List Char} {value : α}
    (done : step text = .ok (value, rest)) : (step >>= next) text = next value rest := by
  simp only [bind, StateT.bind, done, Except.bind]

/-- A step that fails is not followed by any other. -/
lemma bind_of_error {step : Scan α} {next : α → Scan β} {text : List Char} {fault : Fault}
    (failed : step text = .error fault) : (step >>= next) text = .error fault := by
  simp only [bind, StateT.bind, failed, Except.bind]

lemma quoted_append (text : String) (rest : List Char) :
    quoted (quote text ++ rest) = .ok (text, rest) := by
  have spelled := quoted?_flatMap text.toList [] rest
  rw [List.reverse_nil, List.nil_append] at spelled
  simp only [quote, List.cons_append, List.append_assoc, List.nil_append]
  simp [quoted, spelled]

/-- Blanks are passed over up to the next character that is none. -/
lemma next?_append {gap : List Char} {c : Char} (blank : IsGap gap) (dark : isSpace c = false)
    (rest : List Char) : next? (gap ++ c :: rest) = .ok (some c, c :: rest) := by
  have dropped : (gap ++ c :: rest).dropWhile isSpace = c :: rest := by
    rw [List.dropWhile_append_of_pos blank]
    simp [dark]
  simp only [next?, dropped, List.head?_cons]

end Scan

/-- A character with which an atom starts. -/
def StartsAtom (c : Char) : Prop :=
  c = 'n' ∨ c = 't' ∨ c = 'f' ∨ c = '"' ∨ Scan.startsNumber c

/-- An atom starts neither like a gap, nor like an array or an object, nor like their ends. -/
lemma StartsAtom.other {c : Char} (starts : StartsAtom c) :
    isSpace c = false ∧ c ≠ '[' ∧ c ≠ '\x7b' ∧ c ≠ ']' := by
  rcases starts with rfl | rfl | rfl | rfl | number
  · decide
  · decide
  · decide
  · decide
  · refine ⟨?_, ?_, ?_, ?_⟩
    · by_contra space
      simp only [isSpace, Bool.not_eq_false, Bool.or_eq_true, beq_iff_eq] at space
      rcases space with ((rfl | rfl) | rfl) | rfl <;> exact absurd number (by decide)
    all_goals
      rintro rfl
      exact absurd number (by decide)

/-- A whole number starts with a sign or a digit. -/
lemma exists_head_ofInt (n : Int) :
    ∃ c tail, Decimal.ofInt n = c :: tail ∧ Scan.startsNumber c := by
  unfold Decimal.ofInt
  split
  · exact ⟨'-', _, rfl, rfl⟩
  · obtain ⟨c, tail, spelled, digit⟩ := exists_head_ofNat n.natAbs
    exact ⟨c, tail, spelled, by simp [Scan.startsNumber, digit]⟩

lemma atom_of_startsNumber {c : Char} (number : Scan.startsNumber c) : Scan.atom c = Scan.number := by
  have other {letter : Char} (none : Scan.startsNumber letter = false) : c ≠ letter := by
    rintro rfl
    exact absurd number (by simp [none])
  rw [Scan.atom, if_neg (other rfl), if_neg (other rfl), if_neg (other rfl), if_neg (other rfl),
    if_pos number]

/-- The text of an atom starts with such a character, and the atom is scanned by it. -/
lemma exists_atom {json : Json} (single : json.IsAtom) :
    ∃ c tail, json.atom = c :: tail ∧ StartsAtom c ∧
      ∀ rest, Ends rest → Scan.atom c (json.atom ++ rest) = .ok (json, rest) := by
  cases json with
  | null => exact ⟨'n', _, rfl, .inl rfl, fun rest _ => rfl⟩
  | bool value =>
    cases value with
    | true => exact ⟨'t', _, rfl, .inr (.inl rfl), fun rest _ => rfl⟩
    | false => exact ⟨'f', _, rfl, .inr (.inr (.inl rfl)), fun rest _ => rfl⟩
  | integer n =>
    obtain ⟨c, tail, spelled, number⟩ := exists_head_ofInt n
    refine ⟨c, tail, spelled, .inr (.inr (.inr (.inr number))), fun rest ends => ?_⟩
    rw [atom_of_startsNumber number]
    exact number_ofInt single ends
  | string text =>
    refine ⟨'"', _, rfl, .inr (.inr (.inr (.inl rfl))), fun rest _ => ?_⟩
    exact Scan.bind_of_ok (Scan.quoted_append text rest)
  | float value => exact single.elim
  | array items => exact single.elim
  | object members => exact single.elim

end Kmip.Json
