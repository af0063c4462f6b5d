import Kmip.Proofs.Decoding
import Kmip.Proofs.Form
import Kmip.Proofs.FormResults

/-!
# From texts of items to bytes and back

What is written for an item that has been read from a text is read back as its normal form, unless a
date-time of it is later than the last second of the year 9999 (`Item.exists_decode_iff_of_form`). A
text can name such a date-time, because it has the year at an offset and not in UTC.
-/

namespace Kmip

namespace ScalarType

/-- A date-time near the years that can be read is written as bytes of no other date-time. -/
lemma inRange_of_denotes {type : ScalarType} {content other : type.Content}
    (near : type.NearRange content) (denoted : type.Denotes (type.encode content) other) :
    type.InRange content := by
  cases type with
  | dateTime =>
    obtain ⟨low, high⟩ := near
    unfold DateTime.earliest at low
    unfold DateTime.latest at high
    have second : (Int64.ofInt content.seconds).toInt = content.seconds :=
      Int64.toInt_ofInt_of_le (by omega) (by omega)
    have written := twosComplement_int64 (Int64.ofInt content.seconds)
    rw [second] at written
    obtain ⟨-, read, range, -⟩ := denoted
    have same : other.seconds = content.seconds := read.unique written
    rw [same] at range
    exact range
  | _ => trivial

end ScalarType

namespace Layout

/-- What is written for items that follow each other are layouts, one for each of them. -/
lemma exists_forall₂_of_concat {p : Layout → Item → Prop} {items : List Item} {content : Bytes}
    (one : ∀ item ∈ items, ∀ bytes, item.encode = .ok bytes →
      ∃ layout : Layout, layout.bytes = bytes ∧ p layout item)
    (written : Encoded.concat (items.map Item.encode) = .ok content) :
    ∃ layouts, bytesOfAll layouts = content ∧ List.Forall₂ p layouts items := by
  induction items generalizing content with
  | nil =>
    obtain rfl := Except.ok.inj written
    exact ⟨[], rfl, .nil⟩
  | cons item rest ih =>
    obtain ⟨head, tail, first, others, rfl⟩ := Encoded.concat_cons_eq_ok.1 written
    obtain ⟨one, more⟩ := List.forall_mem_cons.1 one
    obtain ⟨layout, rfl, held⟩ := one head first
    obtain ⟨layouts, rfl, holds⟩ := ih more others
    exact ⟨layout :: layouts, rfl, .cons held holds⟩

/-- The layout denotes nothing if a date-time of the item, near the years that can be read, does not
lie within them. -/
def Tells (layout : Layout) (item : Item) : Prop :=
  ∀ other, layout.Denotes other → item.NearRange → item.InRange

/-- Layouts that tell their items do so together. -/
lemma inRange_of_forall₂ {layouts : List Layout} {items others : List Item}
    (tell : List.Forall₂ Tells layouts items) (denoted : DenotesAll layouts others)
    (near : ∀ item ∈ items, item.NearRange) : ∀ item ∈ items, item.InRange := by
  induction tell generalizing others with
  | nil => exact List.forall_mem_nil _
  | cons tells _ ih =>
    obtain ⟨other, rest, rfl, head, tail⟩ := denoted
    obtain ⟨first, more⟩ := List.forall_mem_cons.1 near
    exact List.forall_mem_cons.2 ⟨tells other head first, ih tail more⟩

end Layout

/-- What is written for a value under a tag tells whether its date-times can be read. -/
lemma Value.exists_tells_of_encode {value : Value} : ∀ {text : String} {tag : Tag} {bytes : Bytes},
    Tag.ofText text = .ok tag → value.encode tag = .ok bytes →
      ∃ layout : Layout, layout.bytes = bytes ∧ layout.Fits ∧ layout.Tells ⟨text, value⟩ := by
  induction value with
  | scalar type content =>
    intro text tag bytes named written
    obtain ⟨fits, rfl⟩ := Encoded.scalar_eq_ok.1 written
    refine ⟨_, rfl, fits, ?_⟩
    rintro _ ⟨other, rfl, denoted⟩ near
    have near := Item.nearRange_scalar.1 near
    exact Item.inRange_scalar.2 (ScalarType.inRange_of_denotes near denoted)
  | structured items ih =>
    intro text tag bytes named written
    rw [encode, Item.encodeEach_eq] at written
    obtain ⟨content, items_written, fits, rfl⟩ := Encoded.structured_eq_ok.1 written
    have one : ∀ item ∈ items, ∀ bytes, item.encode = .ok bytes →
        ∃ layout : Layout, layout.bytes = bytes ∧ layout.Fits ∧ layout.Tells item := by
      rintro ⟨text, value⟩ mem bytes written
      obtain ⟨tag, named, written⟩ := Item.encode_eq_ok.1 written
      exact ih _ mem named written
    obtain ⟨layouts, rfl, each⟩ := Layout.exists_forall₂_of_concat one items_written
    obtain ⟨all_fit, tell⟩ := (List.forall₂_and_left _ _).1 each
    refine ⟨.structured tag layouts, rfl, Layout.fits_structured.2 ⟨fits, all_fit⟩, ?_⟩
    rintro _ ⟨others, rfl, denoted⟩ near
    have near := Item.nearRange_structured.1 near
    exact Item.inRange_structured.2 (Layout.inRange_of_forall₂ tell denoted near)

namespace Item

variable {config : Config} {item decoded : Item} {bytes : Bytes}

/-- What is written for an item is read back only if its date-times can be read. -/
lemma inRange_of_decode (written : item.encode = .ok bytes) (near : item.NearRange)
    (read : decode config bytes = .ok decoded) : item.InRange := by
  obtain ⟨text, value⟩ := item
  obtain ⟨tag, named, spelled⟩ := encode_eq_ok.1 written
  obtain ⟨layout, rfl, fits, tells⟩ := Value.exists_tells_of_encode named spelled
  obtain ⟨other, same, also_fits, -, -, denoted⟩ := decode_eq_ok.1 read
  obtain rfl := Layout.eq_of_bytes_eq also_fits fits same
  exact tells decoded denoted near

/-- What is written for an item is read back as its normal form, if its date-times can be read and
the settings admit it. -/
lemma decode_of_inRange (written : item.encode = .ok bytes) (range : item.InRange)
    (within : item.Within config.maxValueLength) (depth : item.value.nesting ≤ config.maxDepth) :
    decode config bytes = .ok item.normal := by
  obtain ⟨layout, rfl, writes⟩ := exists_layout_of_encode written
  have denoted := writes.denotes range
  have nesting := denoted.nesting_eq
  rw [normal, Value.nesting_normal] at nesting
  exact decode_eq_ok.2
    ⟨layout, rfl, writes.fits, writes.within _ within, nesting ▸ depth, denoted⟩

/-- No value of an item that is written is longer than four bytes can tell. -/
lemma within_of_encode (written : item.encode = .ok bytes) : item.Within (2 ^ 32 - 1) := by
  intro inner mem type content held
  have short := (exists_encode_iff.1 ⟨bytes, written⟩ inner mem).2
  rw [held, Value.contentLength] at short
  omega

/-- Near the years that can be read, a date-time lies within them up to their last second. -/
lemma inRange_iff_of_near (near : item.NearRange) :
    item.InRange ↔ ∀ inner ∈ item.all, ∀ time : DateTime, inner.value = .scalar .dateTime time →
      time.seconds ≤ DateTime.latest := by
  constructor
  · intro range inner mem time held
    exact (range inner mem .dateTime time held).2
  · intro late inner mem type content held
    cases type with
    | dateTime => exact ⟨(near inner mem .dateTime content held).1, late inner mem content held⟩
    | _ => trivial

/-- What is written for an item that has been read from a text, directly or by way of a value, is
read back under settings that admit every length, and written as the same bytes, exactly if no
date-time of the item is later than the last second of the year 9999. -/
theorem exists_decode_iff_of_form {text : String} (policy : UnknownTags)
    (formed : ofFormText text = .ok item ∨ ofFormValue text = .ok item)
    (written : item.encode = .ok bytes) :
    (∃ decoded, decode { unknownTags := policy, maxValueLength := 2 ^ 32 - 1 } bytes = .ok decoded ∧
        decoded.encode = .ok bytes) ↔
      ∀ inner ∈ item.all, ∀ time : DateTime, inner.value = .scalar .dateTime time →
        time.seconds ≤ DateTime.latest := by
  have known : item.Formed Json.depthLimit :=
    formed.elim formed_of_ofFormText formed_of_ofFormValue
  rw [← inRange_iff_of_near known.near]
  constructor
  · rintro ⟨decoded, read, -⟩
    exact inRange_of_decode written known.near read
  · intro range
    have depth : item.value.nesting ≤ 64 := by
      have levels := known.nesting
      have limit : Json.depthLimit = 127 := rfl
      omega
    refine ⟨item.normal, decode_of_inRange written range (within_of_encode written) depth, ?_⟩
    rw [encode_normal, written]

/-- The form of a time stamp. -/
def timeStampForm (text : String) : Json :=
  .object [("tag", .string "TimeStamp"), ("type", .string (ItemType.scalar .dateTime).name),
    ("value", .string text)]

/-- A time stamp is read from its form. -/
lemma ofFormText_timeStampForm {text : String} {time : DateTime}
    (parsed : DateTime.Rfc3339.parse text = some time) :
    ofFormText (String.ofList (timeStampForm text).compact) =
      .ok ⟨"TimeStamp", .scalar .dateTime time⟩ := by
  have plain : (timeStampForm text).IsPlain := ⟨trivial, trivial, trivial, trivial⟩
  have taken : ScalarType.dateTime.ofForm (Json.string text).primitive = .ok time := by
    refine Encoded.bind_eq_ok.2 ⟨text, rfl, ?_⟩
    rw [parsed]
    rfl
  have read : ofForm (timeStampForm text) = .ok ⟨"TimeStamp", .scalar .dateTime time⟩ :=
    ofForm_members _ _ _ _ (Encoded.bind_eq_ok.2 ⟨time, taken, rfl⟩)
  exact (Json.spells_compact _ plain).ofFormText_eq read

/-- A time stamp in the last second of the year 9999, an hour ahead of UTC, is read back. -/
theorem exists_decode_of_form_ahead :
    let text := "\x7b\"tag\":\"TimeStamp\",\"type\":\"DateTime\"," ++
      "\"value\":\"9999-12-31T23:59:59+01:00\"\x7d"
    let item : Item := ⟨"TimeStamp", .scalar .dateTime ⟨253402297199, .zero, 3600⟩⟩
    let bytes : Bytes := [0x42, 0, 0x92, 9, 0, 0, 0, 8, 0, 0, 0, 0x3A, 0xFF, 0xF4, 0x33, 0x6F]
    ofFormText text = .ok item ∧ item.encode = .ok bytes ∧
      ∃ decoded, decode { maxValueLength := 2 ^ 32 - 1 } bytes = .ok decoded ∧
        decoded.encode = .ok bytes := by
  intro text item bytes
  have formed : ofFormText text = .ok item := by
    have spelled : text =
        String.ofList (timeStampForm "9999-12-31T23:59:59+01:00").compact := by
      decide +kernel
    rw [spelled]
    exact ofFormText_timeStampForm (by decide +kernel)
  have written : item.encode = .ok bytes := by decide +kernel
  refine ⟨formed, written, (exists_decode_iff_of_form .reject (.inl formed) written).2 ?_⟩
  rw [forall_mem_all_scalar]
  rintro _ ⟨⟩
  decide

/-- A time stamp in the last second of the year 9999, almost a day behind UTC, is written and not
read back. -/
theorem decode_of_form_behind :
    let text := "\x7b\"tag\":\"TimeStamp\",\"type\":\"DateTime\"," ++
      "\"value\":\"9999-12-31T23:59:59-23:59\"\x7d"
    let item : Item := ⟨"TimeStamp", .scalar .dateTime ⟨253402387139, .zero, -86340⟩⟩
    let bytes : Bytes := [0x42, 0, 0x92, 9, 0, 0, 0, 8, 0, 0, 0, 0x3A, 0xFF, 0xF5, 0x92, 0xC3]
    ofFormText text = .ok item ∧ item.encode = .ok bytes ∧
      decode { maxValueLength := 2 ^ 32 - 1 } bytes = .error (.invalidDateTime 253402387139) := by
  intro text item bytes
  have formed : ofFormText text = .ok item := by
    have spelled : text =
        String.ofList (timeStampForm "9999-12-31T23:59:59-23:59").compact := by
      decide +kernel
    rw [spelled]
    exact ofFormText_timeStampForm (by decide +kernel)
  have refused : (decode { maxValueLength := 2 ^ 32 - 1 } bytes).map encode =
      .error (.invalidDateTime 253402387139) := by
    decide +kernel
  refine ⟨formed, by decide +kernel, ?_⟩
  cases read : decode { maxValueLength := 2 ^ 32 - 1 } bytes with
  | ok decoded =>
    rw [read] at refused
    cases refused
  | error fault =>
    rw [read] at refused
    exact congrArg Except.error (Except.error.inj refused)

end Item

end Kmip
