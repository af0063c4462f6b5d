import Kmip.Content
import Kmip.Proofs.BigInteger

/-!
# Groups of a big integer

Bytes that denote an integer go on doing so behind bytes that only repeat their sign, and there is no
other way to denote it by more bytes (`eq_extended`). So what is read from groups of eight bytes is
written as these groups without the leading ones that can be spared (`encode_decode_eq_trimmed`), and the
written form is the shortest run of bytes at all, filled up to whole groups
(`encode_eq_of_isMinimal`).
-/

namespace Kmip.BigInteger

variable {bytes : Bytes} {value : Int}

/-- The byte that repeats the sign of the bytes behind it. -/
def signByte : Bytes → UInt8
  | [] => 0
  | first :: _ => if first.toNat < 128 then 0 else 255

/-- Bytes behind so many others that only repeat their sign. -/
def extended (count : Nat) (bytes : Bytes) : Bytes :=
  List.replicate count (signByte bytes) ++ bytes

@[simp] lemma length_extended (count : Nat) (bytes : Bytes) :
    (extended count bytes).length = count + bytes.length := by
  simp [extended]

lemma extended_succ (count : Nat) (bytes : Bytes) :
    extended (count + 1) bytes = signByte bytes :: extended count bytes := by
  rw [extended, List.replicate_succ, List.cons_append, extended]

lemma extended_add (first second : Nat) (bytes : Bytes) :
    extended (first + second) bytes =
      List.replicate first (signByte bytes) ++ extended second bytes := by
  rw [extended, List.replicate_add, List.append_assoc, extended]

lemma extended_ne_nil (some : bytes ≠ []) (count : Nat) : extended count bytes ≠ [] :=
  List.append_ne_nil_of_right_ne_nil _ some

/-- Bytes that repeat a sign have this sign. -/
@[simp] lemma signByte_extended (count : Nat) (bytes : Bytes) :
    signByte (extended count bytes) = signByte bytes := by
  cases count with
  | zero => rfl
  | succ count =>
    rw [extended_succ]
    cases bytes with
    | nil => rfl
    | cons first rest =>
      simp only [signByte]
      split <;> decide

/-- A byte that repeats the sign changes nothing. -/
lemma decode_signByte (some : bytes ≠ []) : decode (signByte bytes :: bytes) = decode bytes := by
  cases bytes with
  | nil => exact absurd rfl some
  | cons first rest =>
    have number (sign : UInt8) := Bytes.toNat_cons sign (first :: rest)
    have power : Nat.pow 256 (rest.length + 1 + 1) = 256 * Nat.pow 256 (rest.length + 1) :=
      Nat.pow_succ'
    have same : 256 ^ (first :: rest).length = Nat.pow 256 (rest.length + 1) := rfl
    rw [same] at number
    by_cases positive : first.toNat < 128
    · have zero : (0 : UInt8).toNat = 0 := rfl
      simp [decode, signByte, positive, number, zero]
    · have ones : (255 : UInt8).toNat = 255 := rfl
      simp only [decode, signByte, positive, if_false, number, ones, List.length_cons, power]
      push_cast
      omega

/-- Bytes that repeat the sign change nothing. -/
lemma decode_extended (some : bytes ≠ []) (count : Nat) :
    decode (extended count bytes) = decode bytes := by
  induction count with
  | zero => rfl
  | succ count ih =>
    rw [extended_succ, ← signByte_extended count, decode_signByte (extended_ne_nil some count), ih]

/-- A longer run of bytes that denotes the same integer repeats the sign in front. -/
lemma eq_extended {short long : Bytes} (some : short ≠ []) (hs : short.TwosComplement value)
    (hl : long.TwosComplement value) (shorter : short.length ≤ long.length) :
    long = extended (long.length - short.length) short := by
  apply hl.eq_of_length
  · rw [← decode_eq_iff, decode_extended some, decode_eq_iff]
    exact hs
  · rw [length_extended]
    omega

/-- The first group of eight bytes only repeats the sign of those behind it. -/
def HasSpareGroup (bytes : Bytes) : Prop :=
  bytes.drop 8 ≠ [] ∧ bytes.take 8 = List.replicate 8 (signByte (bytes.drop 8))

instance : DecidablePred HasSpareGroup := fun _ => inferInstanceAs (Decidable (_ ∧ _))

lemma HasSpareGroup.extended_drop (spare : HasSpareGroup bytes) :
    extended 8 (bytes.drop 8) = bytes := by
  rw [extended, ← spare.2, List.take_append_drop]

/-- A sign that is repeated over one group or more can be spared there. -/
lemma hasSpareGroup_extended (some : bytes ≠ []) {count : Nat} (enough : 8 ≤ count) :
    HasSpareGroup (extended count bytes) := by
  obtain ⟨more, rfl⟩ := Nat.exists_eq_add_of_le enough
  have length : (List.replicate 8 (signByte bytes)).length = 8 := List.length_replicate
  rw [HasSpareGroup, extended_add, List.drop_left' length, List.take_left' length,
    signByte_extended]
  exact ⟨extended_ne_nil some more, rfl⟩

/-- The bytes without the leading groups that only repeat the sign. -/
def trimmed (bytes : Bytes) : Bytes :=
  if HasSpareGroup bytes then trimmed (bytes.drop 8) else bytes
termination_by bytes.length
decreasing_by
  rename_i spare
  have behind := List.length_pos_iff.2 spare.1
  rw [List.length_drop] at behind ⊢
  omega

lemma length_trimmed_le (bytes : Bytes) : (trimmed bytes).length ≤ bytes.length := by
  fun_induction trimmed bytes with
  | case1 bytes spare ih =>
    rw [List.length_drop] at ih
    omega
  | case2 bytes needed => exact le_rfl

/-- Nothing is left out exactly where no group can be spared. -/
lemma trimmed_eq_self_iff : trimmed bytes = bytes ↔ ¬ HasSpareGroup bytes := by
  rw [trimmed]
  split
  · next spare =>
    have shorter := length_trimmed_le (bytes.drop 8)
    have behind := List.length_pos_iff.2 spare.1
    rw [List.length_drop] at shorter behind
    refine iff_of_false (fun same => ?_) (not_not_intro spare)
    rw [same] at shorter
    omega
  · next needed => exact iff_of_true rfl needed

/-- Groups of which the first one is needed are the written form of their value. -/
lemma encode_of_needed (some : bytes ≠ []) (whole : bytes.length % 8 = 0)
    (needed : ¬ HasSpareGroup bytes) : encode (decode bytes) = bytes := by
  have denoted := twosComplement_decode bytes
  have encoded := twosComplement_encode (decode bytes)
  have shorter := length_encode_le some whole denoted
  have groups := length_encode_mod (decode bytes)
  have nonempty := (isShortest_encode (decode bytes)).ne_nil
  have same := eq_extended nonempty encoded denoted shorter
  -- another length would differ by a group at least, which could then be spared
  apply encoded.eq_of_length denoted
  by_contra different
  rw [same] at needed
  exact needed (hasSpareGroup_extended nonempty (by omega))

/-- Groups of bytes are written without those that can be spared; no bytes at all are written as
eight zeros. -/
lemma encode_decode_eq_trimmed (whole : bytes.length % 8 = 0) :
    encode (decode bytes) = if bytes = [] then Bytes.zeros 8 else trimmed bytes := by
  split
  · next none =>
    rw [none]
    decide
  · next some =>
    fun_induction trimmed bytes with
    | case1 bytes spare ih =>
      have left : (bytes.drop 8).length % 8 = 0 := by
        rw [List.length_drop]
        omega
      rw [← ih left spare.1]
      conv_lhs => rw [← spare.extended_drop, decode_extended spare.1]
    | case2 bytes needed => exact encode_of_needed some whole needed

/-- No fewer bytes than these, in groups or not, denote the value. -/
structure IsMinimal (bytes : Bytes) (value : Int) : Prop where
  denotes : bytes.TwosComplement value
  ne_nil : bytes ≠ []
  le_length : ∀ other : Bytes, other ≠ [] → other.TwosComplement value →
    bytes.length ≤ other.length

/-- The written form is the shortest run of bytes at all, filled up to whole groups with bytes that
repeat the sign. -/
lemma encode_eq_of_isMinimal (minimal : IsMinimal bytes value) :
    encode value = extended (paddingLength bytes.length) bytes := by
  have encoded := twosComplement_encode value
  have filled : (extended (paddingLength bytes.length) bytes).TwosComplement value := by
    rw [← decode_eq_iff, decode_extended minimal.ne_nil, decode_eq_iff]
    exact minimal.denotes
  have whole := add_paddingLength_mod bytes.length
  have small := paddingLength_lt bytes.length
  have groups := length_encode_mod value
  have upper := length_encode_le (extended_ne_nil minimal.ne_nil _)
    (by rw [length_extended]; omega) filled
  have lower := minimal.le_length _ (isShortest_encode value).ne_nil encoded
  apply encoded.eq_of_length filled
  rw [length_extended] at upper ⊢
  omega

/-- The length of an item is checked before its content is read, with the same result. -/
lemma checkLength_decode_eq_ofBytes (bytes : Bytes) :
    (do
      ScalarType.bigInteger.checkLength bytes.length
      ScalarType.bigInteger.decode bytes) = ofBytes bytes := by
  unfold ofBytes
  split
  · next whole =>
    have admitted : ScalarType.bigInteger.checkLength bytes.length = .ok () :=
      if_neg fun refused => refused.2 whole
    rw [admitted]
    rfl
  · next part =>
    have refused : ScalarType.bigInteger.checkLength bytes.length =
        .error (.invalidBigIntegerLength bytes.length) := if_pos ⟨rfl, part⟩
    rw [refused]
    rfl

/-- Big integers are carried exactly, and by as few groups of eight bytes as possible: what is written
for a value denotes it, is the shortest that does so, and is read as this value; what is read from
bytes is written as these bytes without the groups that can be spared. Bytes that are no groups are
refused. -/
theorem carries (value : Int) (bytes : Bytes) :
    ((encode value).TwosComplement value ∧ 0 < (encode value).length ∧
      (encode value).length % 8 = 0 ∧ IsShortest (encode value) value ∧
      ofBytes (encode value) = .ok value ∧
      ∀ minimal, IsMinimal minimal value →
        encode value = extended (paddingLength minimal.length) minimal) ∧
    (bytes.length % 8 ≠ 0 → ofBytes bytes = .error (.invalidBigIntegerLength bytes.length)) ∧
    (bytes.length % 8 = 0 → ∃ read, ofBytes bytes = .ok read ∧
      encode read = (if bytes = [] then Bytes.zeros 8 else trimmed bytes) ∧
      (encode read = bytes ↔ bytes ≠ [] ∧ ¬ HasSpareGroup bytes)) ∧
    (do
      ScalarType.bigInteger.checkLength bytes.length
      ScalarType.bigInteger.decode bytes) = ofBytes bytes := by
  have encoded := twosComplement_encode value
  have shortest := isShortest_encode value
  have groups := length_encode_mod value
  refine ⟨⟨encoded, List.length_pos_iff.2 shortest.ne_nil, groups, shortest, ?_,
    fun minimal => encode_eq_of_isMinimal⟩, fun part => if_neg part, fun whole => ?_,
    checkLength_decode_eq_ofBytes bytes⟩
  · rw [ofBytes, if_pos groups, decode_eq_iff.2 encoded]
  · refine ⟨decode bytes, if_pos whole, encode_decode_eq_trimmed whole, ?_⟩
    rw [encode_decode_eq_trimmed whole]
    split
    · next none =>
      rw [none]
      decide
    · next some => rw [trimmed_eq_self_iff, and_iff_right some]

/-- Two groups stand for `2 ^ 63`, whose first byte is needed for the sign; of the three groups that
stand for its negation, the first two are spared. Four bytes are refused. -/
theorem carries_pow_63 :
    let negated : Bytes := List.replicate 16 0xFF ++ [0x80, 0, 0, 0, 0, 0, 0, 0]
    encode (2 ^ 63) = Bytes.zeros 8 ++ [0x80, 0, 0, 0, 0, 0, 0, 0] ∧
      ofBytes (encode (2 ^ 63)) = .ok (2 ^ 63) ∧
      (∃ read, ofBytes negated = .ok read ∧ encode read = [0x80, 0, 0, 0, 0, 0, 0, 0]) ∧
      ofBytes [1, 2, 3, 4] = .error (.invalidBigIntegerLength 4) := by
  intro negated
  obtain ⟨⟨-, -, -, -, read, -⟩, -, behind, -⟩ := carries (2 ^ 63) negated
  obtain ⟨value, held, again, -⟩ := behind (by decide)
  refine ⟨by decide, read, ⟨value, held, again.trans ?_⟩,
    (carries 0 [1, 2, 3, 4]).2.1 (by decide)⟩
  rw [if_neg (by decide), trimmed, if_pos (by decide), trimmed, if_pos (by decide), trimmed,
    if_neg (by decide)]
  rfl

end Kmip.BigInteger
