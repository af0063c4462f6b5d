import Kmip.CommandLine
import Kmip.Proofs.Form
import Kmip.Proofs.Message

/-!
# Inspecting what can be decoded

A message is inspected by way of its items and of their JSON form, so that more is asked of it than
to be decoded as a record. It is displayed exactly if it is decoded as an item every date-time of
which has a text (`Inspection.message_iff`). Where nothing unknown may stand, only the texts matter
(`Inspection.displayable_iff`): dates before the year 0 have none. Whether a run ends with success
is known from every text that it inspects (`CommandLine.exitCode_of_messages`).
-/

namespace Kmip

/-- What holds of every digit holds of those of bytes. -/
lemma Hex.forall_mem_encodeWith {p : Char → Prop} {bytes : Bytes}
    (each : ∀ value < 16, p (upperDigit value)) : ∀ c ∈ encodeWith upperDigit bytes, p c := by
  induction bytes with
  | nil => exact List.forall_mem_nil _
  | cons byte bytes ih =>
    obtain ⟨high, low⟩ := digits_lt byte
    rw [encodeWith_cons]
    exact List.forall_mem_cons.2 ⟨each _ high, List.forall_mem_cons.2 ⟨each _ low, ih⟩⟩

namespace DateTime.Rfc3339

/-- An instant has a text only if it has a local year of four digits and an offset of whole minutes,
which is less than a day. -/
lemma isWritable_of_format {time : DateTime} {text : String} (written : format time = .ok text) :
    time.IsWritable := by
  simp only [format] at written
  split at written
  · cases written
  · next years =>
    split at written
    · cases written
    · next hours =>
      split at written
      · cases written
      · next minutes => exact ⟨by omega, by omega, by omega, not_not.1 minutes⟩

end DateTime.Rfc3339

/-- A value has a form only if it is writable. -/
lemma ScalarType.isWritable_of_form {type : ScalarType} {content : type.Content} {json : Json}
    (formed : type.form content = .ok json) : type.IsWritable content := by
  cases type with
  | dateTime =>
    unfold form at formed
    simp only at formed
    split at formed
    · next written => exact DateTime.Rfc3339.isWritable_of_format written
    · cases formed
  | _ => trivial

namespace Item

mutual

/-- An item has a form only if it is writable. -/
lemma isWritable_of_form (item : Item) {json : Json} (formed : item.form = .ok json) :
    item.IsWritable := by
  cases item with
  | mk tag value =>
    cases value with
    | structured items =>
      rw [Item.form] at formed
      obtain ⟨forms, formed, -⟩ := Encoded.bind_eq_ok.1 formed
      exact isWritable_structured.2 (isWritable_of_forms items formed)
    | scalar type content =>
      rw [Item.form] at formed
      obtain ⟨value, formed, -⟩ := Encoded.bind_eq_ok.1 formed
      exact isWritable_scalar.2 (ScalarType.isWritable_of_form formed)

/-- Items have forms only if each of them is writable. -/
lemma isWritable_of_forms (items : List Item) {forms : List Json}
    (formed : Item.forms items = .ok forms) : ∀ item ∈ items, item.IsWritable := by
  cases items with
  | nil => exact List.forall_mem_nil _
  | cons item rest =>
    rw [Item.forms] at formed
    obtain ⟨json, first, formed⟩ := Encoded.bind_eq_ok.1 formed
    obtain ⟨more, others, -⟩ := Encoded.bind_eq_ok.1 formed
    exact List.forall_mem_cons.2 ⟨isWritable_of_form item first, isWritable_of_forms rest others⟩

end

/-- An item has a form exactly if it is writable. -/
theorem exists_form_iff {item : Item} : (∃ json, item.form = .ok json) ↔ item.IsWritable := by
  constructor
  · rintro ⟨json, formed⟩
    exact isWritable_of_form item formed
  · intro writable
    obtain ⟨json, has⟩ := exists_hasForm item writable
    exact ⟨json, has.form⟩

end Item

namespace Record

/-- The record is that of a message. -/
def IsMessage (record : Record) : Prop :=
  record = Records.requestMessage ∨ record = Records.responseMessage

lemma IsMessage.mem {record : Record} (isMessage : record.IsMessage) : record ∈ Records.all := by
  rcases isMessage with rfl | rfl
  · exact List.mem_of_getElem? (by rfl : Records.all[36]? = _)
  · exact List.mem_of_getElem? (by rfl : Records.all[39]? = _)

variable {record : Record} {config : Config} {bytes : Bytes} {value : record.Val} {item : Item}

/-- An item that is read from the bytes of a record has the tag of the record. -/
lemma tag_of_decode (mem : record ∈ Records.all) (read : record.decode config bytes = .ok value)
    (decoded : Item.decode config bytes = .ok item) : item.tag = record.tag.text := by
  obtain ⟨mixed, spelled, ⟨spells, fits, -, -⟩, -⟩ := (decode_eq_ok_of_mixed mem).1 read
  obtain ⟨layout, rfl, fit, -, -, denoted⟩ := Item.decode_eq_ok.1 decoded
  -- the bytes start with one header, whatever follows
  have front : layout.header.bytes <+: layout.bytes := by
    rw [layout.bytes_eq]
    exact List.prefix_append _ _
  have other : mixed.header.bytes <+: layout.bytes := spelled ▸ mixed.header_prefix
  have same := Header.eq_of_prefix fit.header fits.header front other
  obtain ⟨parts, rfl, -, -⟩ := spells
  rw [denoted.tag_eq, ← layout.tag_header, same]
  rfl

end Record

/-- A step that displays nothing succeeds, and what follows it, or nothing does. -/
lemma Display.lift_bind_eq_ok {α β : Type} {step : Except Failure α} {next : α → Display β}
    {result : β} {shown more : List Char} :
    (lift step >>= next) shown = .ok result more ↔
      ∃ value, step = .ok value ∧ next value shown = .ok result more := by
  cases step with
  | error failure =>
    have failed : (lift (.error failure) >>= next) shown = .error failure shown := rfl
    simp [failed]
  | ok value =>
    have passed : (lift (.ok value) >>= next) shown = next value shown := rfl
    simp [passed]

namespace Inspection

variable {config : Config} {text : String} {record : Record} {value : record.Val}

/-- The text gives the bytes of a message in hexadecimal digits, and they are decoded as its record.
-/
structure Holds (config : Config) (text : String) (record : Record) (value : record.Val) :
    Prop where
  isMessage : record.IsMessage
  decoded : ∃ bytes, Hex.decode (cleaned text) = .ok bytes ∧ record.decode config bytes = .ok value

/-- Digits give the bytes that they were made of. -/
lemma decode_cleaned_encodeUpper (bytes : Bytes) :
    Hex.decode (cleaned (Hex.encodeUpper bytes)) = .ok bytes := by
  have plain : ∀ c ∈ Hex.encodeWith Hex.upperDigit bytes, ¬ Text.isBlank c ∧ c ≠ '|' := by
    refine Hex.forall_mem_encodeWith fun value small => ?_
    interval_cases value <;> decide
  have same : cleaned (Hex.encodeUpper bytes) = Hex.encodeUpper bytes := by
    rw [cleaned, Hex.encodeUpper, String.toList_ofList, List.filter_eq_self.2]
    simpa using plain
  rw [same, Hex.decode_encodeUpper]

/-- The digits of a message that can be decoded give it. -/
lemma holds_encodeUpper {bytes : Bytes} (isMessage : record.IsMessage)
    (read : record.decode config bytes = .ok value) :
    Holds config (Hex.encodeUpper bytes) record value :=
  ⟨isMessage, bytes, decode_cleaned_encodeUpper bytes, read⟩

/-- The text gives the bytes of an item in hexadecimal digits, every date-time of which has a text.
-/
def Displayable (config : Config) (text : String) : Prop :=
  ∃ bytes item, Hex.decode (cleaned text) = .ok bytes ∧ Item.decode config bytes = .ok item ∧
    item.IsWritable

/-- Whatever is displayed has been decoded as an item, and has a form. -/
lemma displayable_of_message {shown more : List Char}
    (displayed : message config text shown = .ok () more) : Displayable config text := by
  simp only [message, Display.lift_bind_eq_ok, Encoded.mapError_eq_ok] at displayed
  obtain ⟨bytes, digits, item, decoded, form, formed, -⟩ := displayed
  exact ⟨bytes, item, digits, decoded, Item.exists_form_iff.1 ⟨form, formed⟩⟩

/-- What is decoded as a record can be displayed as one. -/
lemma record_of_decode {bytes : Bytes} (read : record.decode config bytes = .ok value)
    (heading : String) (shown : List Char) :
    ∃ more, Inspection.record config heading record bytes shown = .ok () more := by
  unfold Inspection.record
  rw [read]
  exact ⟨_, rfl⟩

/-- Of an item with the tag of a message, the record is displayed too. -/
lemma message_of_form {bytes : Bytes} {item : Item} {form : Json}
    (isMessage : record.IsMessage) (digits : Hex.decode (cleaned text) = .ok bytes)
    (read : record.decode config bytes = .ok value)
    (decoded : Item.decode config bytes = .ok item) (formed : item.form = .ok form)
    (shown : List Char) : ∃ more, message config text shown = .ok () more := by
  have tag := record.tag_of_decode isMessage.mem read decoded
  simp only [message, Display.lift_bind_eq_ok, Encoded.mapError_eq_ok]
  rcases isMessage with rfl | rfl
  · obtain ⟨more, displayed⟩ := record_of_decode read "Request" _
    refine ⟨more, bytes, digits, item, decoded, form, formed, ?_⟩
    rw [if_pos tag]
    exact displayed
  · have other : item.tag ≠ Records.requestMessage.tag.text := by
      rw [tag]
      exact fun same => absurd (Tag.text_injective same) (by decide)
    obtain ⟨more, displayed⟩ := record_of_decode read "Response" _
    refine ⟨more, bytes, digits, item, decoded, form, formed, ?_⟩
    rw [if_neg other, if_pos tag]
    exact displayed

/-- A message that is decoded as a record is displayed exactly if it is decoded as an item that has
a form. -/
theorem message_iff (holds : Holds config text record value) (shown : List Char) :
    (∃ more, message config text shown = .ok () more) ↔ Displayable config text := by
  obtain ⟨isMessage, bytes, digits, read⟩ := holds
  constructor
  · rintro ⟨more, displayed⟩
    exact displayable_of_message displayed
  · rintro ⟨_, item, same, decoded, writable⟩
    obtain rfl := Except.ok.inj (digits.symm.trans same)
    obtain ⟨form, formed⟩ := Item.exists_form_iff.2 writable
    exact message_of_form isMessage digits read decoded formed shown

/-- Where nothing unknown may stand, a message is displayed exactly if every date-time of its record
has a text. -/
theorem displayable_iff (reject : config.unknownTags = .reject)
    (holds : Holds config text record value) :
    Displayable config text ↔ (record.item value).IsWritable := by
  obtain ⟨isMessage, bytes, digits, read⟩ := holds
  obtain ⟨layout, spelled, fits, within, depth, denoted, -⟩ :=
    (Record.decode_eq_ok isMessage.mem reject).1 read
  have decoded : Item.decode config bytes = .ok (record.item value) :=
    Item.decode_eq_ok.2 ⟨layout, spelled, fits, within, depth, denoted⟩
  constructor
  · rintro ⟨_, item, same, other, writable⟩
    obtain rfl := Except.ok.inj (digits.symm.trans same)
    obtain rfl := Except.ok.inj (decoded.symm.trans other)
    exact writable
  · intro writable
    exact ⟨bytes, record.item value, digits, decoded, writable⟩

end Inspection

namespace CommandLine

variable {config : Config}

/-- The texts of the lines that are not blank, without blanks at their ends, if every line is a
text. -/
def nonblank? : List Bytes → Option (List String)
  | [] => some []
  | line :: rest => do
    let text ← (Utf8.decode line).toOption
    let texts ← nonblank? rest
    let trimmed := Text.trim text.toList
    pure (if trimmed.isEmpty then texts else String.ofList trimmed :: texts)

/-- The texts that a run inspects: the one that is given, or the lines of the input. -/
def texts? (message : Option String) (input : Bytes) : Option (List String) :=
  match message with
  | some message => some [message]
  | none => nonblank? (linesFrom [] input)

/-- A text is inspected without a failure exactly if it is displayed. -/
lemma inspected_iff {text : String} :
    (inspected config text).2 = true ↔ ∃ more, Inspection.message config text [] = .ok () more := by
  unfold inspected
  split
  · next displayed shown => simp [shown]
  · next failed shown => simp [shown]

/-- Lines are inspected without a failure exactly if each of them is that is not blank. -/
lemma inspectLines_iff {lines : List Bytes} {texts : List String}
    (given : nonblank? lines = some texts) :
    (inspectLines config lines).2 = true ↔ ∀ text ∈ texts, (inspected config text).2 = true := by
  induction lines generalizing texts with
  | nil =>
    obtain rfl := Option.some.inj given
    simp [inspectLines]
  | cons line rest ih =>
    cases decoded : Utf8.decode line with
    | error flaw => simp [nonblank?, decoded, Except.toOption] at given
    | ok text =>
      cases others : nonblank? rest with
      | none => simp [nonblank?, decoded, others, Except.toOption] at given
      | some more =>
        have ih := ih others
        simp only [nonblank?, decoded, others, Except.toOption, Option.bind_eq_bind,
          Option.bind_some, Option.pure_def, Option.some.injEq] at given
        subst given
        simp only [inspectLines, decoded]
        split
        · next blank => simp [ih]
        · next some => simp [ih]

/-- A run ends with success exactly if every text that it inspects is inspected without a failure.
-/
lemma exitCode_eq_zero_iff {arguments : List String} {environment : Environment} {input : Bytes}
    {message : Option String} {texts : List String}
    (asked : requestFrom environment {} arguments = .inspect config message)
    (given : texts? message input = some texts) :
    (run arguments environment input).exitCode = 0 ↔
      ∀ text ∈ texts, (inspected config text).2 = true := by
  cases message with
  | none =>
    rw [← inspectLines_iff given]
    simp [run, asked]
  | some message =>
    obtain rfl := Option.some.inj given
    simp [run, asked]

/-- Where everything that a run inspects is decoded as a message, it ends with success exactly if
all of that is decoded as an item with a text for every date-time; where nothing unknown may stand,
that is so if every date-time of the messages has one. -/
theorem exitCode_of_messages {arguments : List String} {environment : Environment} {input : Bytes}
    {message : Option String} {texts : List String}
    (asked : requestFrom environment {} arguments = .inspect config message)
    (given : texts? message input = some texts)
    (decoded : ∀ text ∈ texts, ∃ record value, Inspection.Holds config text record value) :
    ((run arguments environment input).exitCode = 0 ↔
        ∀ text ∈ texts, Inspection.Displayable config text) ∧
      (config.unknownTags = .reject →
        ((run arguments environment input).exitCode = 0 ↔ ∀ text ∈ texts, ∀ record value,
          Inspection.Holds config text record value → (record.item value).IsWritable)) := by
  have displayed : (run arguments environment input).exitCode = 0 ↔
      ∀ text ∈ texts, Inspection.Displayable config text := by
    rw [exitCode_eq_zero_iff asked given]
    refine forall₂_congr fun text mem => ?_
    obtain ⟨record, value, holds⟩ := decoded text mem
    rw [inspected_iff, Inspection.message_iff holds]
  refine ⟨displayed, fun reject => displayed.trans (forall₂_congr fun text mem => ?_)⟩
  obtain ⟨record, value, holds⟩ := decoded text mem
  constructor
  · intro shown record value holds
    exact (Inspection.displayable_iff reject holds).1 shown
  · intro writable
    exact (Inspection.displayable_iff reject holds).2 (writable record value holds)

/-- The request for the versions that a server speaks is inspected with success. -/
theorem exitCode_of_discoverVersions :
    ∃ bytes, Records.requestMessage.encode Request.discoverVersions = .ok bytes ∧
      (run ["--", Hex.encodeUpper bytes] {} []).exitCode = 0 := by
  have isMessage : Records.requestMessage.IsMessage := .inl rfl
  have arrives : Records.requestMessage.Arrives Request.discoverVersions := by
    have sendable : ∀ item ∈ [RequestItem.discoverVersions],
        Records.requestBatchItem.Sendable item :=
      List.forall_mem_singleton.2 RequestItem.sendable_discoverVersions
    have size : Records.requestMessage.size Request.discoverVersions < 2 ^ 32 := by
      decide +kernel
    exact (Message.arrives_iff_of_header isMessage.mem (by decide) rfl rfl
      (Request.sendable_header (.ofNumbers 1 4) 1) sendable size).2 (List.cons_ne_nil _ _)
  obtain ⟨bytes, written, read⟩ := arrives
  have holds := Inspection.holds_encodeUpper isMessage read
  have writable : (Records.requestMessage.item
      (Records.requestMessage.inUtc Request.discoverVersions)).IsWritable := by
    have spelled : Records.requestMessage.item
        (Records.requestMessage.inUtc Request.discoverVersions) =
        ⟨Tag.requestMessage.text, .structured
          [⟨Tag.requestHeader.text, .structured
            [⟨Tag.protocolVersion.text, .structured
              [⟨Tag.protocolVersionMajor.text, .scalar .integer 1⟩,
                ⟨Tag.protocolVersionMinor.text, .scalar .integer 4⟩]⟩,
              ⟨Tag.batchCount.text, .scalar .integer 1⟩]⟩,
            ⟨Tag.batchItem.text, .structured
              [⟨Tag.operation.text, .scalar .enumeration 30⟩,
                ⟨Tag.requestPayload.text, .structured []⟩]⟩]⟩ := by
      rfl
    rw [spelled]
    simp [Item.isWritable_structured, Item.isWritable_scalar, ScalarType.IsWritable]
  have asked : requestFrom {} {} ["--", Hex.encodeUpper bytes] =
      .inspect .strict (some (Hex.encodeUpper bytes)) := rfl
  have displayed := (@exitCode_of_messages _ _ _ [] _ _ asked rfl
    (List.forall_mem_singleton.2 ⟨_, _, holds⟩)).1
  refine ⟨bytes, written, displayed.2 (List.forall_mem_singleton.2 ?_)⟩
  exact (Inspection.displayable_iff rfl holds).2 writable

/-- Bytes that are not decoded as an item with a form are not inspected with success. -/
lemma exitCode_ne_zero {arguments : List String} {bytes : Bytes}
    (asked : requestFrom {} {} arguments = .inspect config (some (Hex.encodeUpper bytes)))
    (dark : ((Item.decode config bytes).toOption.bind fun item => item.form.toOption) = none) :
    (run arguments {} []).exitCode ≠ 0 := by
  intro success
  have inspected := (exitCode_eq_zero_iff asked rfl).1 success _ List.mem_cons_self
  obtain ⟨more, displayed⟩ := inspected_iff.1 inspected
  obtain ⟨_, item, digits, decoded, writable⟩ := Inspection.displayable_of_message displayed
  obtain ⟨form, formed⟩ := Item.exists_form_iff.2 writable
  obtain rfl := Except.ok.inj ((Inspection.decode_cleaned_encodeUpper bytes).symm.trans digits)
  simp [decoded, formed, Except.toOption] at dark

/-- Of two requests for the versions that a server speaks, each of which is decoded, the inspection
fails: one is stamped with the last second before the year 0, and the other one ends with an item of
no known type, which is passed over in its record. -/
theorem exitCode_of_undisplayable :
    let stamped : Bytes :=
      [0x42, 0, 0x78, 1, 0, 0, 0, 0x70, 0x42, 0, 0x77, 1, 0, 0, 0, 0x48, 0x42, 0, 0x69, 1, 0, 0, 0,
       0x20, 0x42, 0, 0x6A, 2, 0, 0, 0, 4, 0, 0, 0, 1, 0, 0, 0, 0, 0x42, 0, 0x6B, 2, 0, 0, 0, 4, 0,
       0, 0, 4, 0, 0, 0, 0, 0x42, 0, 0x92, 9, 0, 0, 0, 8, 0xFF, 0xFF, 0xFF, 0xF1, 0x86, 0x8B, 0x83,
       0xFF, 0x42, 0, 0x0D, 2, 0, 0, 0, 4, 0, 0, 0, 1, 0, 0, 0, 0, 0x42, 0, 0x0F, 1, 0, 0, 0, 0x18,
       0x42, 0, 0x5C, 5, 0, 0, 0, 4, 0, 0, 0, 0x1E, 0, 0, 0, 0, 0x42, 0, 0x79, 1, 0, 0, 0, 0]
    let foreign : Bytes :=
      [0x42, 0, 0x78, 1, 0, 0, 0, 0x68, 0x42, 0, 0x77, 1, 0, 0, 0, 0x38, 0x42, 0, 0x69, 1, 0, 0, 0,
       0x20, 0x42, 0, 0x6A, 2, 0, 0, 0, 4, 0, 0, 0, 1, 0, 0, 0, 0, 0x42, 0, 0x6B, 2, 0, 0, 0, 4, 0,
       0, 0, 4, 0, 0, 0, 0, 0x42, 0, 0x0D, 2, 0, 0, 0, 4, 0, 0, 0, 1, 0, 0, 0, 0, 0x42, 0, 0x0F, 1,
       0, 0, 0, 0x18, 0x42, 0, 0x5C, 5, 0, 0, 0, 4, 0, 0, 0, 0x1E, 0, 0, 0, 0, 0x42, 0, 0x79, 1, 0,
       0, 0, 0, 0x54, 0, 1, 0x0C, 0, 0, 0, 0]
    ((∃ value, Records.requestMessage.decode .strict stamped = .ok value) ∧
      (run ["--", Hex.encodeUpper stamped] {} []).exitCode ≠ 0) ∧
    (∃ value, Records.requestMessage.decode .lenient foreign = .ok value) ∧
      (run ["--lenient", "--", Hex.encodeUpper foreign] {} []).exitCode ≠ 0 := by
  intro stamped foreign
  have decoded {config : Config} {bytes : Bytes}
      (some : (Records.requestMessage.decode config bytes).toOption.isSome = true) :
      ∃ value, Records.requestMessage.decode config bytes = .ok value := by
    cases read : Records.requestMessage.decode config bytes with
    | error fault => simp [read, Except.toOption] at some
    | ok value => exact ⟨value, rfl⟩
  refine ⟨⟨decoded ?_, exitCode_ne_zero rfl ?_⟩, decoded ?_, exitCode_ne_zero rfl ?_⟩
  all_goals decide +kernel

end CommandLine

end Kmip
