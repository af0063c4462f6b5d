import Kmip.Content
import Kmip.Proofs.BigInteger

/-!
# The content of scalar items

`ScalarType.Denotes` says of each scalar type which bytes denote which value, in terms of the
numbers that the bytes spell. Reading a content is exactly that relation (`denotes_iff`), writing a
value gives bytes that denote it (`denotes_encode`), and bytes that denote a value are what is
written for it (`Denotes.encode_eq`), big integers with superfluous groups excepted.
-/

namespace Kmip

/-- Bytes denote the integer of a word exactly if they spell the word. -/
lemma Bytes.twosComplement_toInt_iff {bytes : Bytes} {width : Nat} (word : BitVec width)
    (length : width = 8 * bytes.length) :
    bytes.TwosComplement word.toInt ↔ bytes.toNat = word.toNat := by
  have power : 256 ^ bytes.length = 2 ^ width := by rw [length, Nat.pow_mul]
  have below := Bytes.toNat_lt bytes
  have small := word.isLt
  rw [Bytes.twosComplement_iff_bmod, power, BitVec.toInt_eq_toNat_bmod]
  rw [power] at below
  constructor
  · intro same
    have residues := congrArg (· % ((2 ^ width : Nat) : Int)) same
    simp only [Int.bmod_emod] at residues
    rw [← Int.natCast_mod, ← Int.natCast_mod, Nat.mod_eq_of_lt below,
      Nat.mod_eq_of_lt small] at residues
    omega
  · intro same
    rw [same]

namespace ScalarType

/-- The bytes denote the value. -/
def Denotes : (type : ScalarType) → Bytes → type.Content → Prop
  | integer, bytes, value => bytes.length = 4 ∧ bytes.TwosComplement value.toInt
  | longInteger, bytes, value => bytes.length = 8 ∧ bytes.TwosComplement value.toInt
  | bigInteger, bytes, value => bytes.length % 8 = 0 ∧ bytes.TwosComplement value
  | enumeration, bytes, code => bytes.length = 4 ∧ bytes.toNat = code.toNat
  | boolean, bytes, value => bytes.length = 8 ∧ bytes.toNat = value.toNat
  | textString, bytes, text => bytes = Utf8.encode text
  | byteString, bytes, content => bytes = content
  | dateTime, bytes, time =>
    bytes.length = 8 ∧ bytes.TwosComplement time.seconds ∧
      (DateTime.earliest ≤ time.seconds ∧ time.seconds ≤ DateTime.latest) ∧
      time = .ofSeconds time.seconds
  | interval, bytes, seconds => bytes.length = 4 ∧ bytes.toNat = seconds.toNat
  | dateTimeExtended, bytes, micros => bytes.length = 8 ∧ bytes.TwosComplement micros.toInt

/-- The value as it is read back: a date-time is cut to its whole second and shown in UTC. -/
def normal : (type : ScalarType) → type.Content → type.Content
  | dateTime, time => time.floor
  | integer, value | longInteger, value | bigInteger, value | enumeration, value | boolean, value
  | textString, value | byteString, value | interval, value | dateTimeExtended, value => value

/-- A date-time lies within the years that can be read. -/
def InRange : (type : ScalarType) → type.Content → Prop
  | dateTime, time => DateTime.earliest ≤ time.seconds ∧ time.seconds ≤ DateTime.latest
  | integer, _ | longInteger, _ | bigInteger, _ | enumeration, _ | boolean, _ | textString, _
  | byteString, _ | interval, _ | dateTimeExtended, _ => True

/-- The bytes of a big integer are as short as their value allows. -/
def IsShortest : ScalarType → Bytes → Prop
  | bigInteger, bytes => ∀ value, bytes.TwosComplement value → BigInteger.IsShortest bytes value
  | _, _ => True

/-- Four bytes spell the word that is made of their number. -/
lemma toNat_ofNat32 {bytes : Bytes} (length : bytes.length = 4) :
    (UInt32.ofNat bytes.toNat).toNat = bytes.toNat := by
  have below := Bytes.toNat_lt bytes
  rw [length] at below
  exact UInt32.toNat_ofNat_of_lt' below

/-- Eight bytes spell the word that is made of their number. -/
lemma toNat_ofNat64 {bytes : Bytes} (length : bytes.length = 8) :
    (UInt64.ofNat bytes.toNat).toNat = bytes.toNat := by
  have below := Bytes.toNat_lt bytes
  rw [length] at below
  exact UInt64.toNat_ofNat_of_lt' below

/-- Four bytes denote an integer exactly if they are read as it. -/
lemma twosComplement_int32_iff {bytes : Bytes} {value : Int32} (length : bytes.length = 4) :
    bytes.TwosComplement value.toInt ↔ (UInt32.ofNat bytes.toNat).toInt32 = value := by
  have word : bytes.TwosComplement value.toBitVec.toInt ↔ bytes.toNat = value.toBitVec.toNat :=
    Bytes.twosComplement_toInt_iff _ (by rw [length])
  rw [Int32.toInt, word, ← Int32.toBitVec_inj, ← BitVec.toNat_inj, UInt32.toBitVec_toInt32,
    UInt32.toNat_toBitVec (UInt32.ofNat _), toNat_ofNat32 length]

/-- Eight bytes denote an integer exactly if they are read as it. -/
lemma twosComplement_int64_iff {bytes : Bytes} {value : Int64} (length : bytes.length = 8) :
    bytes.TwosComplement value.toInt ↔ longOf bytes = value := by
  have word : bytes.TwosComplement value.toBitVec.toInt ↔ bytes.toNat = value.toBitVec.toNat :=
    Bytes.twosComplement_toInt_iff _ (by rw [length])
  rw [Int64.toInt, word, longOf, ← Int64.toBitVec_inj, ← BitVec.toNat_inj, UInt64.toBitVec_toInt64,
    UInt64.toNat_toBitVec (UInt64.ofNat _), toNat_ofNat64 length]

/-- Reading a content of admitted length is exactly what `Denotes` says. -/
lemma denotes_iff {type : ScalarType} {bytes : Bytes} {value : type.Content} :
    type.Denotes bytes value ↔
      type.checkLength bytes.length = .ok () ∧ type.decode bytes = .ok value := by
  have fixed (width : Nat) : (if bytes.length = width then pure ()
      else throw (.unexpectedLength width bytes.length) : Except Fault Unit) = .ok () ↔
        bytes.length = width := by
    split <;> simp_all [pure, Except.pure, throw, throwThe, MonadExceptOf.throw]
  cases type with
  | integer =>
    simp only [Denotes, checkLength, width?, fixed, decode, Except.ok.injEq]
    exact and_congr_right twosComplement_int32_iff
  | longInteger =>
    simp only [Denotes, checkLength, width?, fixed, decode, Except.ok.injEq]
    exact and_congr_right twosComplement_int64_iff
  | bigInteger =>
    have whole : checkLength bigInteger bytes.length = .ok () ↔ bytes.length % 8 = 0 := by
      simp only [checkLength, width?, true_and, ne_eq]
      split <;> simp_all [pure, Except.pure, throw, throwThe, MonadExceptOf.throw]
    simp only [Denotes, whole, decode, Except.ok.injEq, BigInteger.decode_eq_iff]
  | enumeration | interval =>
    simp only [Denotes, checkLength, width?, fixed, decode, Except.ok.injEq]
    refine and_congr_right fun length => ?_
    rw [← UInt32.toNat_inj, toNat_ofNat32 length]
  | boolean =>
    simp only [Denotes, checkLength, width?, fixed, decode]
    refine and_congr_right fun length => ?_
    cases value <;> split <;> simp_all
  | textString =>
    simp only [Denotes, checkLength, width?, decode]
    constructor
    · rintro rfl
      simp [pure, Except.pure, Except.mapError]
    · rintro ⟨-, read⟩
      cases text : Utf8.decode bytes with
      | error flaw => simp [text, Except.mapError] at read
      | ok text' =>
        obtain rfl : text' = value := by simpa [text, Except.mapError] using read
        exact (Utf8.encode_of_decode text).symm
  | byteString =>
    simp [Denotes, checkLength, width?, decode, pure, Except.pure]
  | dateTime =>
    simp only [Denotes, checkLength, width?, fixed, decode, DateTime.ofUnix?]
    refine and_congr_right fun length => ?_
    have seconds : ∀ second, bytes.TwosComplement second ↔ (longOf bytes).toInt = second := by
      intro second
      have denoted : bytes.TwosComplement (longOf bytes).toInt :=
        (twosComplement_int64_iff length).2 rfl
      exact ⟨fun h => denoted.unique h, fun h => h ▸ denoted⟩
    rw [seconds]
    constructor
    · rintro ⟨read, range, whole⟩
      rw [read, if_pos range]
      exact congrArg Except.ok whole.symm
    · intro read
      split at read
      · next range =>
        obtain rfl : DateTime.ofSeconds (longOf bytes).toInt = value := by simpa using read
        exact ⟨rfl, range, rfl⟩
      · simp at read
  | dateTimeExtended =>
    simp only [Denotes, checkLength, width?, fixed, decode, Except.ok.injEq]
    exact and_congr_right twosComplement_int64_iff

/-- The big-endian form of a number that fits spells it. -/
lemma toNat_bigEndian_of_lt {width n : Nat} (fits : n < 256 ^ width) :
    (Bytes.bigEndian width n).toNat = n := by
  rw [Bytes.toNat_bigEndian, Nat.mod_eq_of_lt fits]

/-- The four bytes of a signed word denote it. -/
lemma twosComplement_int32 (value : Int32) :
    (Bytes.bigEndian 4 value.toUInt32.toNat).TwosComplement value.toInt := by
  rw [Int32.toInt, Bytes.twosComplement_toInt_iff _ (by simp)]
  exact toNat_bigEndian_of_lt value.toUInt32.toNat_lt

/-- The eight bytes of a signed word denote it. -/
lemma twosComplement_int64 (value : Int64) :
    (Bytes.bigEndian 8 value.toUInt64.toNat).TwosComplement value.toInt := by
  rw [Int64.toInt, Bytes.twosComplement_toInt_iff _ (by simp)]
  exact toNat_bigEndian_of_lt value.toUInt64.toNat_lt

/-- What is written for a value denotes it, but for the fraction and the offset of a date-time. -/
lemma denotes_encode {type : ScalarType} {value : type.Content} (range : type.InRange value) :
    type.Denotes (type.encode value) (type.normal value) := by
  cases type with
  | integer => exact ⟨by simp [encode], twosComplement_int32 value⟩
  | longInteger | dateTimeExtended => exact ⟨by simp [encode], twosComplement_int64 value⟩
  | bigInteger => exact ⟨BigInteger.length_encode_mod value, BigInteger.twosComplement_encode value⟩
  | enumeration | interval =>
    exact ⟨by simp [encode], toNat_bigEndian_of_lt (UInt32.toNat_lt value)⟩
  | boolean =>
    refine ⟨by simp [encode], toNat_bigEndian_of_lt ?_⟩
    cases value <;> decide
  | textString | byteString => rfl
  | dateTime =>
    refine ⟨by simp [encode], ?_, range, rfl⟩
    obtain ⟨lower, upper⟩ := range
    unfold DateTime.earliest at lower
    unfold DateTime.latest at upper
    -- the seconds of the years that can be read fit eight bytes
    have second : (Int64.ofInt value.seconds).toInt = value.seconds :=
      Int64.toInt_ofInt_of_le (by omega) (by omega)
    have denoted := twosComplement_int64 (Int64.ofInt value.seconds)
    rw [second] at denoted
    exact denoted

@[simp] lemma encode_normal (type : ScalarType) (value : type.Content) :
    type.encode (type.normal value) = type.encode value := by
  cases type <;> rfl

/-- A value that bytes denote lies in the range of its type. -/
lemma Denotes.inRange {type : ScalarType} {bytes : Bytes} {value : type.Content}
    (denoted : type.Denotes bytes value) : type.InRange value := by
  cases type with
  | dateTime => exact denoted.2.2.1
  | _ => trivial

/-- A value that bytes denote is read back as it is. -/
lemma Denotes.normal_eq {type : ScalarType} {bytes : Bytes} {value : type.Content}
    (denoted : type.Denotes bytes value) : type.normal value = value := by
  cases type with
  | dateTime => exact denoted.2.2.2.symm
  | _ => rfl

/-- Only a big integer has several forms. -/
lemma Denotes.eq_of_ne {type : ScalarType} {left right : Bytes} {value : type.Content}
    (small : type ≠ bigInteger) (hl : type.Denotes left value) (hr : type.Denotes right value) :
    left = right := by
  cases type with
  | integer | longInteger | dateTimeExtended =>
    exact hl.2.eq_of_length hr.2 (hl.1.trans hr.1.symm)
  | bigInteger => exact absurd rfl small
  | enumeration | interval | boolean =>
    exact Bytes.eq_of_toNat_eq (hl.1.trans hr.1.symm) (hl.2.trans hr.2.symm)
  | textString | byteString => exact hl.trans hr.symm
  | dateTime => exact hl.2.1.eq_of_length hr.2.1 (hl.1.trans hr.1.symm)

/-- Bytes that denote a value are what is written for it, if they are as short as can be. -/
lemma Denotes.encode_eq {type : ScalarType} {bytes : Bytes} {value : type.Content}
    (denoted : type.Denotes bytes value) (shortest : type.IsShortest bytes) :
    type.encode value = bytes := by
  have encoded := denotes_encode denoted.inRange
  rw [denoted.normal_eq] at encoded
  rcases eq_or_ne type bigInteger with rfl | small
  · exact ((shortest value denoted.2).eq_encode denoted.1 denoted.2).symm
  · exact encoded.eq_of_ne small denoted

end ScalarType

end Kmip
