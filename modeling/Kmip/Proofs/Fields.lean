import Kmip.Proofs.Regular
import Kmip.Proofs.Row
import Kmip.Proofs.Spelling

/-!
# Which bytes are read as fields

A shape is read exactly if its reading succeeds where an item that spells a value comes next, and
nowhere else (`Shape.IsExact`); fields are so if such items come next in a row (`Fields.IsExact`).
Each kind of field is read exactly if its parts are. So every regular shape is
(`Shape.isExact_of_isRegular`).
-/

namespace Kmip

open Read

namespace Leaf

/-- Seconds are read as the span of as many. -/
lemma ofSeconds_eq_iff {seconds : UInt32} {span : Span} :
    Span.ofSeconds seconds.toNat = span ↔
      UInt32.ofNat span.seconds = seconds ∧ span.nanos = .zero ∧ span.seconds < 2 ^ 32 := by
  obtain ⟨count, nanos⟩ := span
  have small := seconds.toNat_lt
  simp only [Span.ofSeconds, Span.mk.injEq]
  constructor
  · rintro ⟨rfl, rfl⟩
    exact ⟨UInt32.ofNat_toNat, rfl, small⟩
  · rintro ⟨rfl, rfl, fits⟩
    exact ⟨UInt32.toNat_ofNat_of_lt' fits, rfl⟩

/-- A code is read as the member that it belongs to. -/
lemma memberOf_eq_ok {domain : Domain} {code : UInt32} {member : domain.Member} :
    memberOf domain code = .ok member ↔ member.code = code := by
  constructor
  · intro found
    cases known : domain.member? code with
    | none => simp [memberOf, known] at found
    | some other =>
      obtain rfl : other = member := by simpa [memberOf, known] using found
      exact Domain.code_of_member? known
  · rintro rfl
    simp [memberOf]

/-- Another way to say what an item that is read as a whole means. -/
lemma reads_of_iff {leaf : Leaf} {tag : Tag} {step : Read leaf.Val}
    {Means : Layout → leaf.Val → Prop}
    (reads : Reads tag step fun item value => ∃ layout, item = .plain layout ∧ Means layout value)
    (same : ∀ (layout : Layout) value,
      Means layout value ↔ layout.Denotes ⟨tag.text, leaf.tree value⟩ ∧ leaf.Valid value) :
    Reads tag step fun item value => leaf.Spells tag value item := by
  refine reads.congr fun item value => ?_
  simp only [Spells, same]

/-- A leaf is read exactly where an item that spells it comes next. -/
lemma reads (leaf : Leaf) (tag : Tag) :
    Reads tag (leaf.read tag) fun item value => leaf.Spells tag value item := by
  cases leaf with
  | integer => exact reads_of_iff (reads_scalar .integer tag) fun _ _ => (and_iff_left trivial).symm
  | longInteger =>
    exact reads_of_iff (reads_scalar .longInteger tag) fun _ _ => (and_iff_left trivial).symm
  | bigInteger =>
    exact reads_of_iff (reads_scalar .bigInteger tag) fun _ _ => (and_iff_left trivial).symm
  | boolean => exact reads_of_iff (reads_scalar .boolean tag) fun _ _ => (and_iff_left trivial).symm
  | text => exact reads_of_iff (reads_scalar .textString tag) fun _ _ => (and_iff_left trivial).symm
  | bytes =>
    exact reads_of_iff (reads_scalar .byteString tag) fun _ _ => (and_iff_left trivial).symm
  | dateTime | timeStamp =>
    exact reads_of_iff (reads_scalar .dateTime tag) fun _ _ => (and_iff_left trivial).symm
  | interval =>
    refine ((reads_scalar .interval tag).bind_pure _).congr fun item span => ?_
    simp only [ofSeconds_eq_iff, Spells, tree, Valid]
    grind
  | enumeration domain =>
    refine ((reads_scalar .enumeration tag).bind_lift _).congr fun item member => ?_
    simp only [memberOf_eq_ok, Spells, tree, Valid]
    grind
  | usageMask =>
    refine ((reads_scalar .integer tag).bind_pure _).congr fun item mask => ?_
    constructor
    · rintro ⟨bits, ⟨layout, rfl, denoted⟩, rfl⟩
      exact ⟨layout, rfl, by simpa [tree] using denoted, trivial⟩
    · rintro ⟨layout, rfl, denoted, -⟩
      exact ⟨_, ⟨layout, rfl, denoted⟩, by simp⟩
  | anything => exact reads_of_iff (reads_valueAs tag) fun _ _ => (and_iff_left trivial).symm

end Leaf

namespace Selection

/-- A value has the variant that is selected. -/
lemma check_eq_ok {selection : Selection} {variants : Variants} {value : variants.Val} :
    selection.check variants value = .ok () ↔
      selection.variant? = some (variants.labelOf value) := by
  cases selected : selection.variant? with
  | none => simp [check, selected]
  | some label =>
    by_cases same : label = variants.labelOf value <;> simp [check, selected, same]

/-- The value that stands where none is given has the variant that is selected. -/
lemma blank_eq_ok {selection : Selection} {variants : Variants} (nodup : variants.labels.Nodup)
    {blank : variants.Val} :
    selection.blank variants = .ok blank ↔
      selection.variant? = some (variants.labelOf blank) ∧ variants.blankLike blank = blank := by
  cases selected : selection.variant? with
  | none => simp [Selection.blank, selected]
  | some label =>
    have found := variants.blankOf?_eq_some label nodup blank
    cases stored : variants.blankOf? label with
    | none => simp_all [Selection.blank]
    | some other =>
      rw [stored] at found
      simp only [Selection.blank, selected, Option.bind_some, stored, Option.elim_some,
        Except.ok.injEq, Option.some.injEq] at found ⊢
      rw [found, eq_comm (a := label)]

/-- A value is read in the variant that is selected if each variant is read from the value that
stands where none is given. -/
lemma reads {variants : Variants} (nodup : variants.labels.Nodup) (selection : Selection)
    {tag : Tag} {Means : Mixed → variants.Val → Prop}
    (each : ∀ blank, variants.blankLike blank = blank →
      Reads tag (variants.read tag blank) fun item value =>
        variants.blankLike value = blank ∧ Means item value) :
    Reads tag (do
      let blank ← Read.lift (selection.blank variants)
      variants.read tag blank) fun item value =>
        selection.check variants value = .ok () ∧ Means item value where
  tag_eq means := (each _ (variants.blankLike_blankLike _)).tag_eq ⟨rfl, means.2⟩
  sound settled look read := by
    obtain ⟨blank, _, lifted, rest⟩ := bind_eq_ok.1 read
    obtain ⟨chosen, rfl⟩ := lift_eq_ok.1 lifted
    obtain ⟨selected, like⟩ := (blank_eq_ok nodup).1 chosen
    obtain ⟨item, finds, admits, ⟨rfl, means⟩, rfl⟩ := (each blank like).sound settled look rest
    rw [variants.labelOf_blankLike] at selected
    exact ⟨item, finds, admits, ⟨check_eq_ok.2 selected, means⟩, rfl⟩
  complete {reader seen item value} settled finds means look := by
    obtain ⟨selected, means⟩ := means
    have like := variants.blankLike_blankLike value
    rw [check_eq_ok, ← variants.labelOf_blankLike] at selected
    have chosen : Read.lift (selection.blank variants) seen = .ok (variants.blankLike value) seen :=
      lift_eq_ok.2 ⟨(blank_eq_ok nodup).2 ⟨selected, like⟩, rfl⟩
    rw [bind_of_ok chosen]
    exact (each _ like).complete settled finds ⟨rfl, means⟩ look

end Selection

/-- A shape is read, from nothing, exactly where an item that spells a value comes next. -/
def Shape.IsExact (shape : Shape) (tag : Tag) : Prop :=
  Reads tag (shape.read tag shape.blank) fun item value => shape.Spells tag value item

/-- Fields are read, from nothing, exactly where items that spell them come next in a row. -/
def Fields.IsExact (fields : Fields) (record : String) (known : List Tag) : Prop :=
  FreeRow known fields.tags (fields.read record known fields.blank) fun items values =>
    fields.Spells values items

/-- A variant is read, from the value that stands where none is given, exactly where an item that
spells a value of this variant comes next. -/
def Variants.IsExact (variants : Variants) (tag : Tag) : Prop :=
  ∀ blank, variants.blankLike blank = blank →
    Reads tag (variants.read tag blank) fun item value =>
      variants.blankLike value = blank ∧ variants.Spells tag value item

/-- A record is read exactly if its fields are. -/
lemma Shape.isExact_record {fields : Fields} {name : String} (own tag : Tag)
    (exact : fields.IsExact name fields.tags) : (Shape.record name own fields).IsExact tag :=
  Row.reads_structure exact tag

namespace Fields

variable {record : String} {known : List Tag} {tag : Tag} {shape : Shape} {rest : Fields}

/-- Without fields nothing is read. -/
lemma isExact_nil (record : String) (known : List Tag) : nil.IsExact record known :=
  (row_pure ()).congr fun _ _ => and_iff_left rfl

/-- A field that stands at most once is read exactly if its item and the fields behind it are. -/
lemma isExact_one (presence : Presence) (label : String) (first : shape.IsExact tag)
    (others : rest.IsExact record known) (mem : tag ∈ known)
    (admitted : ∀ tag ∈ rest.tags, tag ∈ known) (fresh : tag ∉ rest.tags) :
    (one presence tag label shape rest).IsExact record known := by
  have head : OwnRow known [tag] _ _ := row_presence record _ _ first presence
  have both := head.bind (fun value => others.bind_pure fun values => (value, values)) admitted
    fun _ mem same => fresh (List.mem_singleton.1 same ▸ mem)
  refine (both.skipUnknown_bind record (List.forall_mem_cons.2 ⟨mem, admitted⟩)).congr
    fun items (value, values) => ?_
  simp only [Spells]
  grind

/-- A field that is repeated is read exactly if its items and the fields behind it are. -/
lemma isExact_many (atLeastOne : Bool) (label : String) (first : shape.IsExact tag)
    (others : rest.IsExact record known) (mem : tag ∈ known)
    (admitted : ∀ tag ∈ rest.tags, tag ∈ known) (fresh : tag ∉ rest.tags) :
    (many atLeastOne tag label shape rest).IsExact record known := by
  have head := first.row_repeated record mem
  -- the check for a missing item stands in front of the other fields, and reads nothing
  have both := head.bind (fun more => (others.bind_pure fun values => ([] ++ more, values)).guard
    (more.isEmpty && atLeastOne) (.missingField record tag) fun _ : PUnit => do
      let values ← rest.read record known rest.blank
      pure ([] ++ more, values)) admitted
    fun _ mem same => fresh (List.mem_singleton.1 same ▸ mem)
  refine (both.skipUnknown_bind record (List.forall_mem_cons.2 ⟨mem, admitted⟩)).congr
    fun items (all, values) => ?_
  simp only [Spells]
  constructor
  · rintro ⟨_, front, back, rfl, spelled, there, _, further, same⟩
    obtain ⟨rfl, rfl⟩ := Prod.mk.inj same
    exact ⟨there, front, back, rfl, spelled, further⟩
  · rintro ⟨there, front, back, rfl, spelled, further⟩
    exact ⟨all, front, back, rfl, spelled, there, values, further, rfl⟩

/-- Embedded fields are read exactly if they and the fields behind them are. -/
lemma isExact_embedded {fields : Fields} (label name : String) (own : Tag)
    (first : fields.IsExact name known) (others : rest.IsExact record known)
    (mine : ∀ tag ∈ fields.tags, tag ∈ known) (admitted : ∀ tag ∈ rest.tags, tag ∈ known)
    (apart : ∀ tag ∈ rest.tags, tag ∉ fields.tags) :
    (embedded label name own fields rest).IsExact record known := by
  have both := Row.bind first (fun inner => others.bind_pure fun values => (inner, values)) admitted
    apart
  refine ((both.mono fun _ _ => trivial).skipUnknown_bind record
    (List.forall_mem_append.2 ⟨mine, admitted⟩)).congr fun items (inner, values) => ?_
  simp only [Spells]
  grind

/-- A field whose form is selected is read exactly if its variants are, the field that selects it
comes first, and the fields between and behind them are read exactly too. -/
lemma isExact_keyed {between : Fields} {variants : Variants} (selector : Selector) {keyTag : Tag}
    (keyLabel : String) (presence : Presence) (label : String)
    (inners : between.IsExact record known) (labels : variants.labels.Nodup)
    (each : variants.IsExact tag) (others : rest.IsExact record known)
    (admitted : ∀ other ∈ keyTag :: (between.tags ++ tag :: rest.tags), other ∈ known)
    (nodup : (keyTag :: (between.tags ++ tag :: rest.tags)).Nodup) :
    (keyed selector keyTag keyLabel between presence tag label variants rest).IsExact record
      known := by
  obtain ⟨fresh, nodup⟩ := List.nodup_cons.1 nodup
  obtain ⟨-, nodup, apart⟩ := List.nodup_append.1 nodup
  obtain ⟨absent, -⟩ := List.nodup_cons.1 nodup
  obtain ⟨-, behindKey⟩ := List.forall_mem_cons.1 admitted
  obtain ⟨-, behindInner⟩ := List.forall_mem_append.1 behindKey
  obtain ⟨-, behindValue⟩ := List.forall_mem_cons.1 behindInner
  -- four rows behind each other: what selects, what is between, what is selected, and the rest
  have keys : OwnRow known [keyTag] _ _ := row_presence record (fun _ => selector.leaf.read keyTag)
    selector.leaf.blank (selector.leaf.reads keyTag) .required
  have choices (key : selector.leaf.Val) : OwnRow known [tag] _ _ := row_presence record (fun _ => do
    let blank ← Read.lift ((Selection.of selector key).blank variants)
    variants.read tag blank) variants.blank ((Selection.of selector key).reads labels each) presence
  have afterInner := fun (key : selector.leaf.Val) (inner : between.Val) => ((choices key).bind
    (fun value => others.bind_pure fun values => (key, inner, value, values)) behindValue
    fun _ mem same => absent (List.mem_singleton.1 same ▸ mem)).skipUnknown_bind record behindInner
  have afterKey := fun (key : selector.leaf.Val) => Row.bind inners (afterInner key) behindInner
    fun tag mem same => apart tag same tag mem rfl
  have all := (keys.bind afterKey behindKey
    fun _ mem same => fresh (List.mem_singleton.1 same ▸ mem)).skipUnknown_bind record admitted
  refine all.congr fun items (key, inner, value, values) => ?_
  simp only [Spells]
  constructor
  · rintro ⟨_, front, _, rfl, keys, _, middle, _, rfl, spelled, _, chosen, back, rfl, selected, _,
      further, same⟩
    obtain ⟨rfl, rfl, rfl, rfl⟩ := same
    cases keys with
    | cons selects none =>
      cases none
      exact ⟨_, middle, chosen, back, rfl, selects, spelled, selected, further⟩
  · rintro ⟨first, middle, chosen, back, rfl, selects, spelled, selected, further⟩
    exact ⟨key, [first], _, rfl, .cons selects .nil, inner, middle, _, rfl, spelled, value, chosen,
      back, rfl, selected, values, further, rfl⟩

end Fields

namespace Variants

variable {tag : Tag} {shape : Shape}

/-- A single variant is read exactly if its shape is. -/
lemma isExact_only (label : String) (exact : shape.IsExact tag) :
    (only label shape).IsExact tag := by
  intro blank like
  obtain rfl : shape.blank = blank := like
  exact Reads.congr exact fun item value => (and_iff_right rfl).symm

/-- One variant more is read exactly if its shape and the others are. -/
lemma isExact_or {rest : Variants} (label : String) (first : shape.IsExact tag)
    (others : rest.IsExact tag) : (Variants.or label shape rest).IsExact tag := by
  intro blank like
  cases blank with
  | inl blank =>
    -- this variant is read in place of the blank value of its own shape
    obtain rfl : shape.blank = blank := Sum.inl.inj like
    refine (Reads.bind_pure first Sum.inl).congr fun item value => ?_
    cases value <;> simp [blankLike, Spells]
  | inr blank =>
    have like : rest.blankLike blank = blank := Sum.inr.inj like
    refine ((others blank like).bind_pure Sum.inr).congr fun item value => ?_
    cases value <;> simp [blankLike, Spells]

end Variants

mutual

/-- A regular shape is read exactly. -/
lemma Shape.isExact_of_isRegular (shape : Shape) (regular : shape.isRegular = true) (tag : Tag) :
    shape.IsExact tag := by
  cases shape with
  | leaf leaf => exact leaf.reads tag
  | choice variants => cases regular
  | record name own fields =>
    obtain ⟨nodup, regular⟩ := (Bool.and_eq_true _ _).mp regular
    exact Shape.isExact_record own tag
      (fields.isExact_of_isRegular regular name (fun _ mem => mem) (of_decide_eq_true nodup))

/-- Regular fields with different tags are read exactly. -/
lemma Fields.isExact_of_isRegular (fields : Fields) (regular : fields.isRegular = true)
    (record : String) {known : List Tag} (admitted : ∀ tag ∈ fields.tags, tag ∈ known)
    (nodup : fields.tags.Nodup) : fields.IsExact record known := by
  cases fields with
  | nil => exact Fields.isExact_nil record known
  | one presence tag label shape rest =>
    obtain ⟨first, others⟩ := (Bool.and_eq_true _ _).mp regular
    obtain ⟨fresh, nodup⟩ := List.nodup_cons.1 nodup
    obtain ⟨mem, admitted⟩ := List.forall_mem_cons.1 admitted
    exact Fields.isExact_one presence label (shape.isExact_of_isRegular first tag)
      (rest.isExact_of_isRegular others record admitted nodup) mem admitted fresh
  | many atLeastOne tag label shape rest =>
    obtain ⟨first, others⟩ := (Bool.and_eq_true _ _).mp regular
    obtain ⟨fresh, nodup⟩ := List.nodup_cons.1 nodup
    obtain ⟨mem, admitted⟩ := List.forall_mem_cons.1 admitted
    exact Fields.isExact_many atLeastOne label (shape.isExact_of_isRegular first tag)
      (rest.isExact_of_isRegular others record admitted nodup) mem admitted fresh
  | embedded label name tag fields rest =>
    obtain ⟨first, others⟩ := (Bool.and_eq_true _ _).mp regular
    obtain ⟨inner, nodup, apart⟩ := List.nodup_append.1 nodup
    obtain ⟨mine, admitted⟩ := List.forall_mem_append.1 admitted
    exact Fields.isExact_embedded label name tag (fields.isExact_of_isRegular first name mine inner)
      (rest.isExact_of_isRegular others record admitted nodup) mine admitted
      fun tag mem same => apart tag same tag mem rfl
  | keyed selector keyTag keyLabel between presence tag label variants rest =>
    obtain ⟨regular, last⟩ := (Bool.and_eq_true _ _).mp regular
    obtain ⟨regular, each⟩ := (Bool.and_eq_true _ _).mp regular
    obtain ⟨first, labels⟩ := (Bool.and_eq_true _ _).mp regular
    obtain ⟨inner, behind, -⟩ := List.nodup_append.1 (List.nodup_cons.1 nodup).2
    obtain ⟨-, after⟩ := List.forall_mem_cons.1 admitted
    obtain ⟨mine, after⟩ := List.forall_mem_append.1 after
    obtain ⟨-, others⟩ := List.forall_mem_cons.1 after
    exact Fields.isExact_keyed selector keyLabel presence label
      (between.isExact_of_isRegular first record mine inner) (of_decide_eq_true labels)
      (variants.isExact_of_isRegular each tag)
      (rest.isExact_of_isRegular last record others (List.nodup_cons.1 behind).2) admitted nodup

/-- Regular variants are read exactly. -/
lemma Variants.isExact_of_isRegular (variants : Variants) (regular : variants.isRegular = true)
    (tag : Tag) : variants.IsExact tag := by
  cases variants with
  | only label shape => exact Variants.isExact_only label (shape.isExact_of_isRegular regular tag)
  | or label shape rest =>
    obtain ⟨first, others⟩ := (Bool.and_eq_true _ _).mp regular
    exact Variants.isExact_or label (shape.isExact_of_isRegular first tag)
      (rest.isExact_of_isRegular others tag)

end

end Kmip
