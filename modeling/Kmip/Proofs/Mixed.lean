import Kmip.Proofs.Ahead

/-!
# Items with foreign items in them

What a reader finds where foreign items stand among the items of a record. A `Mixed` item is an
item in bytes of which it is known which structures are read as records; such a structure has its
own items and foreign ones as its parts, in any order. `Mixed.stripped` is the item without the
foreign ones, `Mixed.kept` is the layout of that, and `Mixed.foreigns` are the headers of these.

`Reader.Finds` and `Reader.FindsAll` say that mixed items come next. For a record that means that it
can be entered, with its parts one after the other (`Reader.finds_record_iff`).
-/

namespace Kmip

mutual

/-- An item as it stands in bytes, foreign items in its records included. -/
inductive Mixed where
  /-- An item that is read as a whole. -/
  | plain (layout : Layout)
  /-- A structure that is read as a record, and the tags that this declares. -/
  | record (tag : Tag) (known : List Tag) (parts : List Part)

/-- What stands in a record. -/
inductive Part where
  /-- An item of the record. -/
  | own (item : Mixed)
  /-- A foreign item, with any bytes behind its header. -/
  | foreign (header : Header) (body : Bytes)

end

/-- What holds of a record when it holds of its own items holds of every item. -/
@[induction_eliminator]
theorem Mixed.induction {motive : Mixed → Prop} (plain : ∀ layout, motive (.plain layout))
    (record : ∀ tag known parts, (∀ item, .own item ∈ parts → motive item) →
      motive (.record tag known parts))
    (item : Mixed) : motive item := by
  refine @Mixed.rec motive (fun part => ∀ item, part = .own item → motive item)
    (fun parts => ∀ item, .own item ∈ parts → motive item) plain record ?_ ?_ ?_ ?_ item
  · rintro item held _ ⟨⟩
    exact held
  · rintro _ _ _ ⟨⟩
  · rintro _ ⟨⟩
  · intro first rest head tail item mem
    cases mem with
    | head => exact head item rfl
    | tail _ mem => exact tail item mem

mutual

/-- The bytes of an item, those of foreign items included. -/
def Mixed.bytes : Mixed → Bytes
  | .plain layout => layout.bytes
  | .record tag _ parts =>
    Header.bytes ⟨tag, ItemType.structured.byte, (Part.bytesOfAll parts).length⟩ ++
      Part.bytesOfAll parts

/-- The bytes of parts that follow each other. -/
def Part.bytesOfAll : List Part → Bytes
  | [] => []
  | .own item :: rest => item.bytes ++ Part.bytesOfAll rest
  | .foreign header body :: rest => header.bytes ++ body ++ Part.bytesOfAll rest

end

mutual

/-- The item without foreign items. -/
def Mixed.kept : Mixed → Layout
  | .plain layout => layout
  | .record tag _ parts => .structured tag (Part.keptOfAll parts)

/-- The own items of a record, without foreign items in them. -/
def Part.keptOfAll : List Part → List Layout
  | [] => []
  | .own item :: rest => item.kept :: Part.keptOfAll rest
  | .foreign _ _ :: rest => Part.keptOfAll rest

end

mutual

/-- The headers of the foreign items in an item. -/
def Mixed.foreigns : Mixed → List Header
  | .plain _ => []
  | .record _ _ parts => Part.foreignsOfAll parts

/-- The headers of the foreign items among parts, and in these. -/
def Part.foreignsOfAll : List Part → List Header
  | [] => []
  | .own item :: rest => item.foreigns ++ Part.foreignsOfAll rest
  | .foreign header _ :: rest => header :: Part.foreignsOfAll rest

end

mutual

/-- The item with the same records in it, but without the foreign items in these. -/
def Mixed.stripped : Mixed → Mixed
  | .plain layout => .plain layout
  | .record tag known parts => .record tag known (Part.strippedAll parts)

/-- The own items of a record, and these with the same records in them. -/
def Part.strippedAll : List Part → List Part
  | [] => []
  | .own item :: rest => .own item.stripped :: Part.strippedAll rest
  | .foreign _ _ :: rest => Part.strippedAll rest

end

mutual

/-- No foreign item has a tag that the record around it declares. -/
def Mixed.Strange : Mixed → Prop
  | .plain _ => True
  | .record _ known parts => Part.AllStrange known parts

/-- No foreign item among the parts has one of these tags, and in the items of the record none has a
tag that the record around it declares. -/
def Part.AllStrange (known : List Tag) : List Part → Prop
  | [] => True
  | .own item :: rest => item.Strange ∧ Part.AllStrange known rest
  | .foreign header _ :: rest => header.tag ∉ known ∧ Part.AllStrange known rest

end

mutual

/-- Every tag and every length fits its place in a header, and behind the header of a foreign item
there are as many bytes as it declares, with their padding. -/
def Mixed.Fits : Mixed → Prop
  | .plain layout => layout.Fits
  | .record tag _ parts =>
    Header.Fits ⟨tag, ItemType.structured.byte, (Part.bytesOfAll parts).length⟩ ∧ Part.FitAll parts

/-- The same for each of several parts. -/
def Part.FitAll : List Part → Prop
  | [] => True
  | .own item :: rest => item.Fits ∧ Part.FitAll rest
  | .foreign header body :: rest => (header.Fits ∧ body.length = header.span) ∧ Part.FitAll rest

end

namespace Mixed

/-- The tag of an item. -/
def tag : Mixed → Tag
  | plain layout => layout.tag
  | record tag _ _ => tag

/-- The header of an item. -/
def header : Mixed → Header
  | plain layout => layout.header
  | record tag _ parts => ⟨tag, ItemType.structured.byte, (Part.bytesOfAll parts).length⟩

/-- No item declares more than so many bytes, other than structures. -/
def Within (limit : Nat) (item : Mixed) : Prop :=
  item.kept.Within limit ∧
    ∀ header ∈ item.foreigns, header.isStructure = false → header.length ≤ limit

@[simp] lemma tag_header (item : Mixed) : item.header.tag = item.tag := by
  cases item with
  | plain layout => exact layout.tag_header
  | record => rfl

/-- The header stands in front. -/
lemma header_prefix (item : Mixed) : item.header.bytes <+: item.bytes := by
  cases item with
  | plain layout =>
    rw [bytes, Layout.bytes_eq]
    exact List.prefix_append _ _
  | record =>
    rw [bytes]
    exact List.prefix_append _ _

/-- An item has a header at least. -/
lemma length_bytes_ge (item : Mixed) : 8 ≤ item.bytes.length := by
  have header := item.header_prefix.length_le
  rwa [Header.length_bytes] at header

/-- The header of an item that fits does so too. -/
lemma Fits.header {item : Mixed} (fits : item.Fits) : item.header.Fits := by
  cases item with
  | plain layout => exact Layout.Fits.header fits
  | record => exact fits.1

/-- The header of an item within a limit keeps to it. -/
lemma Within.header {limit : Nat} {item : Mixed} (within : item.Within limit) :
    item.header.isStructure = false → item.header.length ≤ limit := by
  cases item with
  | plain layout => exact Layout.Within.header within.1
  | record => exact nofun

end Mixed

namespace Part

/-- The tag of a part. -/
def tag : Part → Tag
  | own item => item.tag
  | foreign header _ => header.tag

/-- The bytes of a part. -/
def bytes : Part → Bytes
  | own item => item.bytes
  | foreign header body => header.bytes ++ body

/-- The items of the record among its parts. -/
def owned (parts : List Part) : List Mixed :=
  parts.filterMap fun
    | own item => some item
    | foreign _ _ => none

/-- What is foreign among the parts has none of these tags. -/
def ForeignTo (known : List Tag) (parts : List Part) : Prop :=
  ∀ header body, foreign header body ∈ parts → header.tag ∉ known

/-- Nothing foreign comes first. -/
def StartsOwn (parts : List Part) : Prop :=
  ∀ header body rest, parts ≠ foreign header body :: rest

/-- No item declares more than so many bytes, other than structures. -/
def WithinAll (limit : Nat) (parts : List Part) : Prop :=
  (∀ layout ∈ keptOfAll parts, layout.Within limit) ∧
    ∀ header ∈ foreignsOfAll parts, header.isStructure = false → header.length ≤ limit

variable {parts left right rest : List Part} {known : List Tag}

lemma bytesOfAll_cons (first : Part) (rest : List Part) :
    bytesOfAll (first :: rest) = first.bytes ++ bytesOfAll rest := by
  cases first <;> rfl

lemma bytesOfAll_append (left right : List Part) :
    bytesOfAll (left ++ right) = bytesOfAll left ++ bytesOfAll right := by
  induction left with
  | nil => rfl
  | cons first rest ih =>
    rw [List.cons_append, bytesOfAll_cons, bytesOfAll_cons, ih, List.append_assoc]

@[simp] lemma owned_nil : owned [] = [] := rfl

@[simp] lemma owned_own (item : Mixed) (rest : List Part) :
    owned (own item :: rest) = item :: owned rest := rfl

@[simp] lemma owned_foreign (header : Header) (body : Bytes) (rest : List Part) :
    owned (foreign header body :: rest) = owned rest := rfl

@[simp] lemma owned_append (left right : List Part) :
    owned (left ++ right) = owned left ++ owned right :=
  List.filterMap_append

lemma keptOfAll_eq (parts : List Part) : keptOfAll parts = (owned parts).map Mixed.kept := by
  induction parts with
  | nil => rfl
  | cons first rest ih => cases first <;> simp [keptOfAll, ih]

@[simp] lemma mem_owned {item : Mixed} : item ∈ owned parts ↔ own item ∈ parts := by
  induction parts with
  | nil => simp
  | cons first rest ih => cases first <;> simp [ih]

lemma owned_strippedAll (parts : List Part) :
    owned (strippedAll parts) = (owned parts).map Mixed.stripped := by
  induction parts with
  | nil => rfl
  | cons first rest ih => cases first <;> simp [strippedAll, ih]

@[simp] lemma foreignsOfAll_append (left right : List Part) :
    foreignsOfAll (left ++ right) = foreignsOfAll left ++ foreignsOfAll right := by
  induction left with
  | nil => rfl
  | cons first rest ih => cases first <;> simp [foreignsOfAll, ih]

@[simp] lemma foreignTo_nil (known : List Tag) : ForeignTo known [] := nofun

@[simp] lemma foreignTo_own {item : Mixed} :
    ForeignTo known (own item :: rest) ↔ ForeignTo known rest := by
  simp [ForeignTo]

@[simp] lemma foreignTo_foreign {header : Header} {body : Bytes} :
    ForeignTo known (foreign header body :: rest) ↔
      header.tag ∉ known ∧ ForeignTo known rest := by
  simp only [ForeignTo, List.mem_cons, foreign.injEq]
  constructor
  · intro strange
    exact ⟨strange header body (.inl ⟨rfl, rfl⟩), fun other body mem => strange other body (.inr mem)⟩
  · rintro ⟨strange, others⟩ other body (⟨rfl, -⟩ | mem)
    · exact strange
    · exact others other body mem

@[simp] lemma foreignTo_append :
    ForeignTo known (left ++ right) ↔ ForeignTo known left ∧ ForeignTo known right := by
  simp only [ForeignTo, List.mem_append]
  grind

/-- Items of a record alone. -/
@[simp] lemma owned_map_own (items : List Mixed) : owned (items.map own) = items := by
  induction items with
  | nil => rfl
  | cons item rest ih => simp [ih]

lemma foreignTo_map_own (known : List Tag) (items : List Mixed) :
    ForeignTo known (items.map own) := by
  simp [ForeignTo]

lemma allStrange_iff :
    AllStrange known parts ↔ ForeignTo known parts ∧ ∀ item ∈ owned parts, item.Strange := by
  induction parts with
  | nil => simp [AllStrange]
  | cons first rest ih =>
    cases first with
    | own item => simp [AllStrange, ih, and_left_comm]
    | foreign header body => simp [AllStrange, ih, and_assoc]

lemma startsOwn_own (item : Mixed) (rest : List Part) : StartsOwn (own item :: rest) := nofun

/-- Parts of which none is foreign at the front start with an item of the record, if with any. -/
lemma StartsOwn.eq_nil_or_own (starts : StartsOwn parts) :
    parts = [] ∨ ∃ item rest, parts = own item :: rest := by
  match parts with
  | [] => exact .inl rfl
  | own item :: rest => exact .inr ⟨item, rest, rfl⟩
  | foreign header body :: rest => exact absurd rfl (starts header body rest)

/-- Each of several parts has a header. -/
lemma length_le_bytesOfAll (parts : List Part) : 8 * parts.length ≤ (bytesOfAll parts).length := by
  induction parts with
  | nil => exact le_rfl
  | cons first rest ih =>
    have header : 8 ≤ first.bytes.length := by
      cases first with
      | own item => exact item.length_bytes_ge
      | foreign header body => simp [bytes]
    rw [bytesOfAll_cons, List.length_append, List.length_cons]
    omega

lemma withinAll_own {limit : Nat} {item : Mixed} :
    WithinAll limit (own item :: rest) ↔ item.Within limit ∧ WithinAll limit rest := by
  simp only [WithinAll, Mixed.Within, keptOfAll, foreignsOfAll, List.forall_mem_cons,
    List.forall_mem_append]
  grind

lemma withinAll_foreign {limit : Nat} {header : Header} {body : Bytes} :
    WithinAll limit (foreign header body :: rest) ↔
      (header.isStructure = false → header.length ≤ limit) ∧ WithinAll limit rest := by
  simp only [WithinAll, keptOfAll, foreignsOfAll, List.forall_mem_cons]
  grind

end Part

namespace Mixed

open Kmip.Part

@[simp] lemma kept_stripped (item : Mixed) : item.stripped.kept = item.kept := by
  induction item with
  | plain layout => rfl
  | record tag known parts ih =>
    have each : ∀ item ∈ owned parts, item.stripped.kept = item.kept :=
      fun item mem => ih item (mem_owned.1 mem)
    rw [stripped, kept, kept, keptOfAll_eq, keptOfAll_eq, owned_strippedAll, List.map_map]
    exact congrArg _ (List.map_congr_left each)

/-- The item is the layout, with nothing foreign in it. -/
structure IsPure (item : Mixed) (layout : Layout) : Prop where
  foreigns : item.foreigns = []
  kept : item.kept = layout

/-- A record of items with nothing foreign in them is one with nothing foreign in it. -/
lemma isPure_record {tag : Tag} {known : List Tag} {items : List Mixed} {layouts : List Layout}
    (pure : List.Forall₂ IsPure items layouts) :
    (record tag known (items.map .own)).IsPure (.structured tag layouts) := by
  have each : foreignsOfAll (items.map .own) = [] ∧ keptOfAll (items.map .own) = layouts := by
    induction pure with
    | nil => exact ⟨rfl, rfl⟩
    | cons head _ ih => simp [foreignsOfAll, keptOfAll, head.foreigns, head.kept, ih]
  exact ⟨each.1, congrArg (Layout.structured tag) each.2⟩

/-- Without foreign items in it, an item takes no more bytes. -/
lemma length_bytes_kept_le (item : Mixed) : item.kept.bytes.length ≤ item.bytes.length := by
  induction item with
  | plain layout => exact le_rfl
  | record tag known parts ih =>
    have fewer : (Layout.bytesOfAll (keptOfAll parts)).length ≤ (bytesOfAll parts).length := by
      induction parts with
      | nil => exact le_rfl
      | cons first rest more =>
        have others := more fun item mem => ih item (List.mem_cons_of_mem _ mem)
        cases first with
        | own item =>
          have head := ih item List.mem_cons_self
          simp only [keptOfAll, Layout.bytesOfAll, bytesOfAll, List.length_append]
          omega
        | foreign header body =>
          simp only [keptOfAll, bytesOfAll, List.length_append]
          omega
    simpa only [kept, Layout.bytes, bytes, List.length_append, Header.length_bytes,
      Nat.add_le_add_iff_left] using fewer

/-- Without foreign items in it, an item that fits does so too. -/
lemma Fits.kept {item : Mixed} (fits : item.Fits) : item.kept.Fits := by
  induction item with
  | plain layout => exact fits
  | record tag known parts ih =>
    obtain ⟨header, fits⟩ := fits
    have each : ∀ layout ∈ keptOfAll parts, layout.Fits := by
      clear header
      induction parts with
      | nil => exact List.forall_mem_nil _
      | cons first rest more =>
        have others := more fun item mem => ih item (List.mem_cons_of_mem _ mem)
        cases first with
        | own item =>
          exact List.forall_mem_cons.2 ⟨ih item List.mem_cons_self fits.1, others fits.2⟩
        | foreign header body => exact others fits.2
    have fewer := (record tag known parts).length_bytes_kept_le
    simp only [Mixed.kept, Layout.bytes, bytes, List.length_append, Header.length_bytes] at fewer
    refine Layout.fits_structured.2 ⟨⟨header.tag, ?_⟩, each⟩
    exact lt_of_le_of_lt (Nat.add_le_add_iff_left.1 fewer) header.length

/-- An item with nothing foreign in it takes the bytes of its layout, and fits if this does. -/
lemma IsPure.bytes_eq {item : Mixed} {layout : Layout} (pure : item.IsPure layout) :
    item.bytes = layout.bytes ∧ (item.Fits ↔ layout.Fits) := by
  obtain ⟨none, rfl⟩ := pure
  induction item with
  | plain layout => exact ⟨rfl, Iff.rfl⟩
  | record tag known parts ih =>
    have each : bytesOfAll parts = Layout.bytesOfAll (keptOfAll parts) ∧
        (FitAll parts ↔ ∀ layout ∈ keptOfAll parts, layout.Fits) := by
      rw [Mixed.foreigns] at none
      induction parts with
      | nil => exact ⟨rfl, by simp [FitAll, keptOfAll]⟩
      | cons first rest more =>
        cases first with
        | own item =>
          obtain ⟨head, tail⟩ := List.append_eq_nil_iff.1 none
          obtain ⟨spelled, fits⟩ := ih item List.mem_cons_self head
          obtain ⟨others, fit⟩ := more (fun item mem => ih item (List.mem_cons_of_mem _ mem)) tail
          rw [bytesOfAll, keptOfAll, Layout.bytesOfAll, FitAll, List.forall_mem_cons, spelled,
            others, fits, fit]
          exact ⟨rfl, Iff.rfl⟩
        | foreign header body => cases none
    obtain ⟨spelled, fits⟩ := each
    rw [Mixed.kept, bytes, Layout.bytes, Fits, Layout.fits_structured, spelled, fits]
    exact ⟨rfl, Iff.rfl⟩

end Mixed

lemma Mixed.within_record {limit : Nat} {tag : Tag} {known : List Tag} {parts : List Part} :
    (Mixed.record tag known parts).Within limit ↔ Part.WithinAll limit parts := by
  rw [Within, kept, foreigns, Layout.within_structured, Part.WithinAll]

namespace Reader

open Kmip.Part

variable {reader : Reader}

/-- The item comes next, and can be read. -/
structure Finds (reader : Reader) (item : Mixed) : Prop where
  inside : reader.atStop = false
  unread : item.bytes <+: reader.source.unread
  fits : item.Fits
  within : item.Within reader.config.maxValueLength
  depth : reader.depth + item.kept.nesting ≤ reader.config.maxDepth
  room : item.header.isStructure = true → ∀ parent ∈ reader.opened.head?,
    reader.offset + item.bytes.length ≤ parent.stop

/-- A foreign item comes next, and can be passed over. -/
structure Meets (reader : Reader) (header : Header) (body : Bytes) : Prop where
  shows : reader.Shows header
  length : body.length = header.span
  unread : body <+: reader.source.unread.drop 8

/-- The parts come next, one after the other. -/
def FindsAll : Reader → List Part → Prop
  | _, [] => True
  | reader, .own item :: rest =>
    reader.Finds item ∧ (reader.advance item.bytes.length).FindsAll rest
  | reader, .foreign header body :: rest =>
    reader.Meets header body ∧ (reader.advance (8 + body.length)).FindsAll rest

/-- The innermost structure is a record with exactly these parts from here on. -/
structure Keeps (reader : Reader) (parts : List Part) : Prop where
  finds : reader.FindsAll parts
  stop : ∃ innermost outer, reader.opened = innermost :: outer ∧
    reader.offset + (bytesOfAll parts).length = innermost.stop

/-- An item that is read as a whole is found where it lies ahead. -/
lemma finds_plain_iff {layout : Layout} : reader.Finds (.plain layout) ↔ reader.Ahead layout := by
  constructor
  · intro finds
    exact ⟨finds.inside, finds.unread, finds.fits, finds.within.1, finds.depth, finds.room⟩
  · intro ahead
    exact ⟨ahead.inside, ahead.unread, ahead.fits, ⟨ahead.within, nofun⟩, ahead.depth, ahead.room⟩

/-- The header of an item that comes next is shown. -/
lemma Finds.shows {item : Mixed} (finds : reader.Finds item) : reader.Shows item.header where
  inside := finds.inside
  unread := item.header_prefix.trans finds.unread
  fits := finds.fits.header
  within := finds.within.header

/-- Parts come next one after the other if both halves of them do. -/
lemma findsAll_append {left right : List Part} :
    reader.FindsAll (left ++ right) ↔
      reader.FindsAll left ∧ (reader.advance (bytesOfAll left).length).FindsAll right := by
  induction left generalizing reader with
  | nil => simp [FindsAll, bytesOfAll]
  | cons first rest ih =>
    cases first with
    | own item => simp [FindsAll, bytesOfAll, ih, and_assoc]
    | foreign header body => simp [FindsAll, bytesOfAll, ih, and_assoc, Nat.add_assoc]

/-- Parts come next in a structure if their bytes do, and they keep to the limits. -/
lemma findsAll_iff (settled : reader.Settled) (parts : List Part) {innermost : OpenStructure}
    {outer : List OpenStructure} (opened : reader.opened = innermost :: outer)
    (room : reader.offset + (bytesOfAll parts).length ≤ innermost.stop) :
    reader.FindsAll parts ↔
      bytesOfAll parts <+: reader.source.unread ∧ FitAll parts ∧
        WithinAll reader.config.maxValueLength parts ∧
        reader.depth + Layout.nestingOfAll (keptOfAll parts) ≤ reader.config.maxDepth := by
  induction parts generalizing reader with
  | nil =>
    simpa [FindsAll, bytesOfAll, FitAll, WithinAll, keptOfAll, foreignsOfAll, Layout.nestingOfAll]
      using settled.depth
  | cons first rest ih =>
    cases first with
    | own item =>
      have length := item.length_bytes_ge
      rw [bytesOfAll, List.length_append] at room
      have inside : reader.atStop = false := by
        simp only [atStop, opened, decide_eq_false_iff_not]
        omega
      have more := ih (settled.advance item.bytes.length) opened (by rw [offset_advance]; omega)
      simp only [FindsAll, more, bytesOfAll, FitAll, keptOfAll, Layout.nestingOfAll, withinAll_own,
        append_prefix_iff, unread_advance, config_advance, depth_advance]
      constructor
      · rintro ⟨finds, unread, fits, within, depth⟩
        have shallow := finds.depth
        exact ⟨⟨finds.unread, unread⟩, ⟨finds.fits, fits⟩, ⟨finds.within, within⟩, by omega⟩
      · rintro ⟨⟨unread, others⟩, ⟨fit, fits⟩, ⟨short, within⟩, depth⟩
        refine ⟨⟨inside, unread, fit, short, by omega, ?_⟩, others, fits, within, by omega⟩
        intro _ parent mem
        obtain rfl : innermost = parent := by simpa [opened] using mem
        omega
    | foreign header body =>
      rw [bytesOfAll, List.length_append, List.length_append, Header.length_bytes] at room
      have inside : reader.atStop = false := by
        simp only [atStop, opened, decide_eq_false_iff_not]
        omega
      have more := ih (settled.advance (8 + body.length)) opened (by rw [offset_advance]; omega)
      simp only [FindsAll, more, bytesOfAll, FitAll, keptOfAll, withinAll_foreign,
        List.append_assoc, append_prefix_iff, unread_advance, config_advance, depth_advance,
        List.drop_drop, Header.length_bytes]
      constructor
      · rintro ⟨⟨shows, length, body⟩, unread, fits, within, depth⟩
        exact ⟨⟨shows.unread, body, unread⟩, ⟨⟨shows.fits, length⟩, fits⟩, ⟨shows.within, within⟩,
          depth⟩
      · rintro ⟨⟨unread, body, others⟩, ⟨⟨fit, length⟩, fits⟩, ⟨short, within⟩, depth⟩
        exact ⟨⟨⟨inside, unread, fit, short⟩, length, body⟩, others, fits, within, depth⟩

/-- A record comes next if its header is shown, it can be entered, and its parts come next in it. -/
lemma finds_record_iff (settled : reader.Settled) {tag : Tag} {known : List Tag}
    {parts : List Part} :
    reader.Finds (.record tag known parts) ↔
      reader.Shows ⟨tag, ItemType.structured.byte, (bytesOfAll parts).length⟩ ∧
        reader.depth < reader.config.maxDepth ∧
        (∀ parent ∈ reader.opened.head?,
          reader.offset + 8 + (bytesOfAll parts).length ≤ parent.stop) ∧
        ((reader.advance 8).entering tag (bytesOfAll parts).length).FindsAll parts := by
  have spelled : (Mixed.record tag known parts).bytes <+: reader.source.unread ↔
      (Mixed.record tag known parts).header.bytes <+: reader.source.unread ∧
        bytesOfAll parts <+: (reader.advance 8).source.unread := by
    rw [Mixed.bytes, append_prefix_iff, Header.length_bytes, unread_advance]
    rfl
  have inner (shallow : reader.depth < reader.config.maxDepth) :=
    findsAll_iff ((settled.advance 8).entering shallow tag (bytesOfAll parts).length) parts rfl
      le_rfl
  have length : (Mixed.record tag known parts).bytes.length = 8 + (bytesOfAll parts).length := by
    rw [Mixed.bytes, List.length_append, Header.length_bytes]
  have nesting : (Mixed.record tag known parts).kept.nesting =
    Layout.nestingOfAll (keptOfAll parts) + 1 := rfl
  simp only [unread_entering, config_entering, depth_entering, config_advance, depth_advance]
    at inner
  constructor
  · intro finds
    have depth := finds.depth
    refine ⟨finds.shows, by omega, ?_, ?_⟩
    · intro parent mem
      have room := finds.room rfl parent mem
      omega
    · rw [inner (by omega)]
      exact ⟨(spelled.1 finds.unread).2, finds.fits.2, Mixed.within_record.1 finds.within, by omega⟩
  · rintro ⟨shows, shallow, room, finds⟩
    obtain ⟨unread, fits, within, depth⟩ := (inner shallow).1 finds
    refine ⟨shows.inside, spelled.2 ⟨shows.unread, unread⟩, ⟨shows.fits, fits⟩,
      Mixed.within_record.2 within, by omega, ?_⟩
    intro _ parent mem
    have room := room parent mem
    omega

/-- A record that holds nothing more has been read to its end. -/
lemma Keeps.atStop (keeps : reader.Keeps []) : reader.atStop = true := by
  obtain ⟨innermost, outer, opened, stop⟩ := keeps.stop
  simp only [bytesOfAll, List.length_nil, Nat.add_zero] at stop
  simp [Reader.atStop, opened, stop]

/-- Behind its first parts, a record holds the others. -/
lemma Keeps.drop {left right : List Part} (keeps : reader.Keeps (left ++ right)) :
    (reader.advance (bytesOfAll left).length).Keeps right := by
  obtain ⟨innermost, outer, opened, stop⟩ := keeps.stop
  refine ⟨(findsAll_append.1 keeps.finds).2, innermost, outer, opened, ?_⟩
  rw [bytesOfAll_append, List.length_append] at stop
  rw [offset_advance]
  omega

/-- As many headers can still come as a record holds parts. -/
lemma Keeps.length_le {parts : List Part} (settled : reader.Settled)
    (keeps : reader.Keeps parts) : parts.length ≤ reader.remaining / 8 := by
  obtain ⟨innermost, outer, opened, stop⟩ := keeps.stop
  obtain ⟨unread, -⟩ := (findsAll_iff settled parts opened stop.le).1 keeps.finds
  have long := unread.length_le
  have groups := length_le_bytesOfAll parts
  simp only [remaining, settled.pending, Option.isSome_none, Bool.false_eq_true, if_false,
    Nat.add_zero]
  omega

/-- A reader in a record is in a structure. -/
lemma Keeps.opened_ne_nil {parts : List Part} (keeps : reader.Keeps parts) :
    reader.opened ≠ [] := by
  obtain ⟨innermost, outer, opened, -⟩ := keeps.stop
  simp [opened]

/-- A record that comes next holds its parts once it is entered. -/
lemma Finds.keeps {tag : Tag} {known : List Tag} {parts : List Part} (settled : reader.Settled)
    (finds : reader.Finds (.record tag known parts)) :
    ((reader.advance 8).entering tag (bytesOfAll parts).length).Keeps parts :=
  ⟨((finds_record_iff settled).1 finds).2.2.2, _, _, rfl, rfl⟩

end Reader

end Kmip
