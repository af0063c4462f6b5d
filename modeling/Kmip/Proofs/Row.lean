import Kmip.Proofs.Lookahead
import Kmip.Proofs.Shape

/-!
# Reading by the next tag

How the steps that records are read with fit together, whatever the settings say of unknown tags.
`Read.Reads` says that a step reads exactly one item, and what it means. `Read.Row` says the same of
a step that reads a row of items, as long as it finds their tags; rows are put one behind the other
(`Read.Row.bind`) when they have no tags in common, because then the next tag tells where the first
one ends.
-/

namespace Kmip

namespace Read

open Reader Kmip.Part

variable {α β : Type} {reader seen final : Reader}

/-- The step reads one item with this tag, and this is what the item means. -/
structure Reads (tag : Tag) (step : Read α) (Means : Mixed → α → Prop) : Prop where
  tag_eq : ∀ {item : Mixed} {value : α}, Means item value → item.tag = tag
  sound : ∀ {reader seen final : Reader} {value : α}, reader.Settled → reader.MayLook seen →
    step seen = .ok value final →
      ∃ item, reader.Finds item ∧ reader.Admits item.foreigns ∧ Means item value ∧
        final = reader.advance item.bytes.length
  complete : ∀ {reader seen : Reader} {item : Mixed} {value : α}, reader.Settled →
    reader.Finds item → Means item value → reader.MayLook seen →
      reader.Admits item.foreigns ∧ step seen = .ok value (reader.advance item.bytes.length) ∨
        reader.Refuses item.foreigns (step seen)

/-- A step that reads items as a whole, and what they mean. -/
lemma reads_plain {tag : Tag} {step : Read α} {Means : Layout → α → Prop}
    (tag_eq : ∀ {layout : Layout} {value : α}, Means layout value → layout.tag = tag)
    (eq_ok : ∀ {reader seen final : Reader} {value : α}, reader.Settled → reader.MayLook seen →
      (step seen = .ok value final ↔
        ∃ layout : Layout, reader.Ahead layout ∧ Means layout value ∧
          final = reader.advance layout.bytes.length)) :
    Reads tag step fun item value => ∃ layout, item = .plain layout ∧ Means layout value where
  tag_eq means := by
    obtain ⟨layout, rfl, means⟩ := means
    exact tag_eq means
  sound settled look read := by
    obtain ⟨layout, ahead, means, rfl⟩ := (eq_ok settled look).1 read
    exact ⟨.plain layout, finds_plain_iff.2 ahead, admits_nil _, ⟨layout, rfl, means⟩, rfl⟩
  complete settled finds means look := by
    obtain ⟨layout, rfl, means⟩ := means
    exact .inl ⟨admits_nil _, (eq_ok settled look).2 ⟨layout, finds_plain_iff.1 finds, means, rfl⟩⟩

/-- Another way to say what an item means. -/
lemma Reads.congr {tag : Tag} {step : Read α} {Means Means' : Mixed → α → Prop}
    (reads : Reads tag step Means)
    (same : ∀ item value, Means item value ↔ Means' item value) : Reads tag step Means' := by
  obtain rfl : Means = Means' := funext fun item => funext fun value => propext (same item value)
  exact reads

/-- The value of an item goes through a further step that does not read. -/
lemma Reads.bind_lift {tag : Tag} {step : Read α} {Means : Mixed → α → Prop}
    (reads : Reads tag step Means) (next : α → Except Fault β) :
    Reads tag (step >>= fun value => lift (next value)) fun item result =>
      ∃ value, Means item value ∧ next value = .ok result where
  tag_eq means := by
    obtain ⟨value, means, -⟩ := means
    exact reads.tag_eq means
  sound settled look read := by
    obtain ⟨value, middle, first, kept⟩ := bind_eq_ok.1 read
    obtain ⟨done, rfl⟩ := lift_eq_ok.1 kept
    obtain ⟨item, finds, admits, means, rfl⟩ := reads.sound settled look first
    exact ⟨item, finds, admits, ⟨value, means, done⟩, rfl⟩
  complete settled finds means look := by
    obtain ⟨value, means, done⟩ := means
    obtain ⟨admits, read⟩ | refused := reads.complete settled finds means look
    · exact .inl ⟨admits, bind_eq_ok.2 ⟨value, _, read, lift_eq_ok.2 ⟨done, rfl⟩⟩⟩
    · exact .inr (refused.bind _)

/-- The value of an item is turned into another one. -/
lemma Reads.bind_pure {tag : Tag} {step : Read α} {Means : Mixed → α → Prop}
    (reads : Reads tag step Means) (next : α → β) :
    Reads tag (step >>= fun value => pure (next value)) fun item result =>
      ∃ value, Means item value ∧ next value = result :=
  (reads.bind_lift fun value => .ok (next value)).congr (by simp)

/-- A single value is read as it is denoted. -/
lemma reads_scalar (type : ScalarType) (tag : Tag) :
    Reads tag (scalar type tag) fun item value =>
      ∃ layout, item = .plain layout ∧ layout.Denotes ⟨tag.text, .scalar type value⟩ := by
  refine reads_plain (fun means => Tag.text_injective means.tag_eq.symm) ?_
  intro reader seen final value settled look
  have same : scalar type tag seen = scalar type tag reader :=
    bind_congr (bind_congr (bind_congr (look.header?_eq settled.pending)))
  rw [same]
  simp only [scalar, sized, bind_eq_ok, expect_eq_ok settled.pending, content_eq_ok, pure_eq_ok]
  constructor
  · rintro ⟨⟨_, _⟩, _, ⟨_, _, ⟨shows, rfl⟩, value, _, ⟨content, rfl, unread, denoted, rfl⟩, same,
      rfl⟩, rfl, rfl⟩
    obtain ⟨rfl, rfl⟩ := Prod.mk.inj same
    refine ⟨.scalar tag type content, (ahead_scalar_iff settled).2 ⟨shows, unread⟩,
      ⟨value, rfl, denoted⟩, ?_⟩
    simp [Layout.length_bytes, Layout.body]
  · rintro ⟨layout, ahead, denoted, rfl⟩
    obtain ⟨content, rfl, held⟩ := Layout.denotes_scalar_iff.1 denoted
    obtain ⟨shows, unread⟩ := (ahead_scalar_iff settled).1 ahead
    refine ⟨(value, _), _, ⟨_, _, ⟨shows, rfl⟩, value, _, ⟨content, rfl, unread, held, rfl⟩, rfl,
      rfl⟩, rfl, ?_⟩
    simp [Layout.length_bytes, Layout.body]

/-- A value of any type is read as it is denoted. -/
lemma reads_valueAs (tag : Tag) :
    Reads tag (valueAs tag) fun item value =>
      ∃ layout, item = .plain layout ∧ layout.Denotes ⟨tag.text, value⟩ := by
  refine reads_plain (fun means => Tag.text_injective means.tag_eq.symm) ?_
  intro reader seen final value settled look
  have same : valueAs tag seen = valueAs tag reader := by
    rw [valueAs, headersLeft_bind, headersLeft_bind, look.remaining_eq settled.pending]
    exact bind_congr (bind_congr (look.header?_eq settled.pending))
  rw [same, valueAs_eq_ok settled]
  constructor
  · rintro ⟨layout, -, ahead, denoted, rfl⟩
    exact ⟨layout, ahead, denoted, rfl⟩
  · rintro ⟨layout, ahead, denoted, rfl⟩
    exact ⟨layout, Tag.text_injective denoted.tag_eq.symm, ahead, denoted, rfl⟩

/-- The step reads a row of items with these tags, and this is what they mean, provided that what is
left of the record starts so. It ends where the next tag is known, and is none of these. -/
structure Row (Starts : List Part → Prop) (known tags : List Tag) (step : Read α)
    (Means : List Mixed → α → Prop) : Prop where
  mem_tags : ∀ {items : List Mixed} {value : α}, Means items value →
    ∀ item ∈ items, item.tag ∈ tags
  sound : ∀ {reader seen final : Reader} {value : α}, reader.Settled → reader.opened ≠ [] →
    reader.MayLook seen → step seen = .ok value final →
      ∃ parts, reader.Accepts known parts ∧ Means (owned parts) value ∧
        (reader.advance (bytesOfAll parts).length).MayLook final
  complete : ∀ {reader seen : Reader} {parts : List Part} {mine others : List Mixed} {value : α},
    reader.Settled → reader.Keeps parts → Starts parts → ForeignTo known parts →
      owned parts = mine ++ others → Means mine value →
        (∀ item ∈ others, item.tag ∈ known ∧ item.tag ∉ tags) → reader.MayLook seen →
          reader.Gets parts mine value (step seen)

/-- A row of a record that may start with foreign items. -/
abbrev FreeRow (known tags : List Tag) (step : Read α) (Means : List Mixed → α → Prop) : Prop :=
  Row (fun _ => True) known tags step Means

/-- A row of a record in front of which foreign items have been dealt with. -/
abbrev OwnRow (known tags : List Tag) (step : Read α) (Means : List Mixed → α → Prop) : Prop :=
  Row StartsOwn known tags step Means

section Row

variable {Starts Starts' : List Part → Prop} {known tags : List Tag} {step : Read α}
  {Means : List Mixed → α → Prop}

/-- Another way to say what a row means. -/
lemma Row.congr {Means' : List Mixed → α → Prop} (row : Row Starts known tags step Means)
    (same : ∀ items value, Means items value ↔ Means' items value) :
    Row Starts known tags step Means' := by
  obtain rfl : Means = Means' := funext fun items => funext fun value => propext (same items value)
  exact row

/-- A row that may start in one way may start in a more special one. -/
lemma Row.mono (row : Row Starts known tags step Means)
    (special : ∀ parts, Starts' parts → Starts parts) : Row Starts' known tags step Means where
  mem_tags := row.mem_tags
  sound := row.sound
  complete settled keeps starts := row.complete settled keeps (special _ starts)

/-- A step that does nothing reads the empty row. -/
lemma row_pure (result : α) :
    Row Starts known [] (pure result) fun items value => items = [] ∧ result = value where
  mem_tags means := by
    obtain ⟨rfl, -⟩ := means
    exact List.forall_mem_nil _
  sound {reader seen final value} settled inner look read := by
    obtain ⟨rfl, rfl⟩ := pure_eq_ok.1 read
    exact ⟨[], accepts_nil _ _, ⟨rfl, rfl⟩, advance_zero.symm ▸ look⟩
  complete {reader seen parts mine others value} settled keeps starts strange mixed means after
      look := by
    obtain ⟨rfl, rfl⟩ := means
    exact .inl ⟨[], parts, seen, rfl, rfl, admits_nil _, pure_eq_ok.2 ⟨rfl, rfl⟩,
      advance_zero.symm ▸ look⟩

/-- A step that fails reads no row. -/
lemma row_throw (fault : Fault) :
    Row Starts known [] (throw fault : Read α) fun _ _ => False where
  mem_tags means := means.elim
  sound _ _ _ read := (throw_eq_ok.1 read).elim
  complete _ _ _ _ _ means := means.elim

/-- A row behind another one, if they have no tags in common. -/
lemma Row.bind {more : List Tag} {next : α → Read β} {MeansNext : α → List Mixed → β → Prop}
    (row : Row Starts known tags step Means)
    (rows : ∀ value, FreeRow known more (next value) (MeansNext value))
    (admitted : ∀ tag ∈ more, tag ∈ known) (apart : ∀ tag ∈ more, tag ∉ tags) :
    Row Starts known (tags ++ more) (step >>= next) fun items result =>
      ∃ value front back, items = front ++ back ∧ Means front value ∧
        MeansNext value back result where
  mem_tags means := by
    obtain ⟨value, front, back, rfl, means, further⟩ := means
    intro item mem
    rcases List.mem_append.1 mem with mem | mem
    · exact List.mem_append_left _ (row.mem_tags means item mem)
    · exact List.mem_append_right _ ((rows value).mem_tags further item mem)
  sound settled inner look read := by
    obtain ⟨value, middle, read, rest⟩ := bind_eq_ok.1 read
    obtain ⟨front, accepts, means, look⟩ := row.sound settled inner look read
    obtain ⟨back, others, further, look⟩ :=
      (rows value).sound (settled.advance _) inner look rest
    refine ⟨front ++ back, accepts.append others,
      ⟨value, _, _, owned_append front back, means, further⟩, ?_⟩
    rwa [bytesOfAll_append, List.length_append, ← advance_advance]
  complete {reader seen parts mine others result} settled keeps starts strange mixed means after
      look := by
    obtain ⟨value, front, back, rfl, means, further⟩ := means
    rw [List.append_assoc] at mixed
    -- the items behind the first row are known and none of its own, so it ends in front of them
    have ends : ∀ item ∈ back ++ others, item.tag ∈ known ∧ item.tag ∉ tags := by
      intro item mem
      rcases List.mem_append.1 mem with mem | mem
      · have tag := (rows value).mem_tags further item mem
        exact ⟨admitted _ tag, apart _ tag⟩
      · obtain ⟨known, other⟩ := after item mem
        exact ⟨known, fun tag => other (List.mem_append_left _ tag)⟩
    apply (row.complete settled keeps starts strange mixed means ends look).bind
    rintro gone left middle rfl rfl look
    rw [owned_append, List.append_cancel_left_eq] at mixed
    obtain ⟨-, strange⟩ := foreignTo_append.1 strange
    apply (rows value).complete (settled.advance _) keeps.drop trivial strange mixed further _ look
    intro item mem
    obtain ⟨known, other⟩ := after item mem
    exact ⟨known, fun tag => other (List.mem_append_right _ tag)⟩

/-- The value of a row is turned into another one. -/
lemma Row.bind_pure (row : Row Starts known tags step Means) (next : α → β) :
    Row Starts known tags (step >>= fun value => pure (next value)) fun items result =>
      ∃ value, Means items value ∧ next value = result where
  mem_tags means := by
    obtain ⟨value, means, -⟩ := means
    exact row.mem_tags means
  sound settled inner look read := by
    obtain ⟨value, _, first, kept⟩ := bind_eq_ok.1 read
    obtain ⟨rfl, rfl⟩ := pure_eq_ok.1 kept
    obtain ⟨parts, accepts, means, look⟩ := row.sound settled inner look first
    exact ⟨parts, accepts, ⟨value, means, rfl⟩, look⟩
  complete settled keeps starts strange mixed means after look := by
    obtain ⟨value, means, rfl⟩ := means
    exact (row.complete settled keeps starts strange mixed means after look).bind_pure next

/-- A row behind a check. -/
lemma Row.guard (row : Row Starts known tags step Means) (refused : Prop) [Decidable refused]
    (fault : Fault) (stuck : β → Read α) :
    Row Starts known tags (if refused then throw fault >>= stuck else step) fun items value =>
      ¬ refused ∧ Means items value where
  mem_tags means := row.mem_tags means.2
  sound settled inner look read := by
    obtain ⟨allowed, read⟩ := guard_eq_ok.1 read
    obtain ⟨parts, accepts, means, look⟩ := row.sound settled inner look read
    exact ⟨parts, accepts, ⟨allowed, means⟩, look⟩
  complete settled keeps starts strange mixed means after look := by
    rw [if_neg means.1]
    exact row.complete settled keeps starts strange mixed means.2 after look

/-- A row behind what deals with foreign items. -/
lemma Row.skipUnknown_bind (row : OwnRow known tags step Means) (record : String)
    (admitted : ∀ tag ∈ tags, tag ∈ known) :
    FreeRow known tags (skipUnknown record known >>= fun _ => step) Means where
  mem_tags := row.mem_tags
  sound settled inner look read := by
    obtain ⟨_, middle, skipped, rest⟩ := bind_eq_ok.1 read
    obtain ⟨front, accepts, none, look⟩ := skipUnknown_sound settled inner look skipped
    obtain ⟨back, others, means, look⟩ := row.sound (settled.advance _) inner look rest
    refine ⟨front ++ back, accepts.append others, ?_, ?_⟩
    · rwa [owned_append, none]
    · rwa [bytesOfAll_append, List.length_append, ← advance_advance]
  complete {reader seen parts mine others value} settled keeps starts strange mixed means after
      look := by
    have familiar : ∀ item ∈ owned parts, item.tag ∈ known := by
      intro item mem
      rw [mixed] at mem
      rcases List.mem_append.1 mem with mem | mem
      · exact admitted _ (row.mem_tags means item mem)
      · exact (after item mem).1
    rcases skipUnknown_complete record settled keeps strange familiar look
      with ⟨gone, left, middle, rfl, none, starts, admits, skipped, look⟩ | refused
    · rw [owned_append, none, List.nil_append] at mixed
      obtain ⟨-, strange⟩ := foreignTo_append.1 strange
      have rest := row.complete (settled.advance _) keeps.drop starts strange mixed means after look
      simpa only [none, List.nil_append] using Gets.behind admits skipped rest
    · exact .inr (refused.bind _)

end Row

section Reads

variable {known : List Tag} {tag : Tag} {item : Read α} {Means : Mixed → α → Prop}

/-- The items of a row that one step reads have its tag. -/
lemma Reads.mem_tags (reads : Reads tag item Means) {items : List Mixed} {values : List α}
    (means : List.Forall₂ Means items values) : ∀ item ∈ items, item.tag ∈ [tag] := by
  induction means with
  | nil => exact List.forall_mem_nil _
  | cons head _ ih =>
    exact List.forall_mem_cons.2 ⟨List.mem_singleton.2 (reads.tag_eq head), ih⟩

/-- Parts that start with an item of the record start with another tag if all these have one. -/
lemma head?_tag_ne {parts : List Part} (starts : StartsOwn parts)
    (other : ∀ item ∈ owned parts, item.tag ≠ tag) :
    parts.head?.map Part.tag ≠ some tag := by
  obtain rfl | ⟨item, rest, rfl⟩ := starts.eq_nil_or_own
  · exact (Option.some_ne_none tag).symm
  · have first := other item List.mem_cons_self
    simpa [Part.tag] using first

/-- The first item of a record is the first one of its parts, if none of these is foreign. -/
lemma eq_own_of_starts {parts : List Part} {items : List Mixed} {first : Mixed}
    (starts : StartsOwn parts) (spelled : owned parts = first :: items) :
    ∃ rest, parts = .own first :: rest ∧ owned rest = items := by
  obtain rfl | ⟨item, rest, rfl⟩ := starts.eq_nil_or_own
  · cases spelled
  · obtain ⟨rfl, rfl⟩ := List.cons.inj spelled
    exact ⟨rest, rfl, rfl⟩

/-- The item that comes next in a record is read by what reads it. -/
lemma Reads.gets (reads : Reads tag item Means) {rest : List Part} {first : Mixed} {value : α}
    (settled : reader.Settled) (keeps : reader.Keeps (.own first :: rest))
    (means : Means first value) (look : reader.MayLook seen) :
    reader.Gets (.own first :: rest) [first] value (item seen) := by
  have length : (bytesOfAll [.own first]).length = first.bytes.length := by simp [bytesOfAll]
  rcases reads.complete settled keeps.finds.1 means look with ⟨admits, read⟩ | refused
  · refine .inl ⟨[.own first], rest, _, rfl, rfl, ?_, read, length ▸ .refl⟩
    rwa [foreignsOfAll, foreignsOfAll, List.append_nil]
  · exact .inr (refused.mono (List.subset_append_left _ _))

/-- A row of at most one item, where the tag that comes next decides whether it is there. What
follows from its absence reads nothing. -/
lemma Reads.row_ifTag (reads : Reads tag item Means) {absent : Read α}
    {Absent : List Mixed → α → Prop} (row : OwnRow known [] absent Absent) :
    OwnRow known [tag] (do if (← tag?) = some tag then item else absent) fun items value =>
      List.Forall₂ Means items [value] ∨ Absent items value where
  mem_tags means := by
    rcases means with means | means
    · exact reads.mem_tags means
    · intro item mem
      exact absurd (row.mem_tags means item mem) List.not_mem_nil
  sound {reader seen final value} settled inner look read := by
    obtain ⟨found, middle, looked, rest⟩ := bind_eq_ok.1 read
    have look := mayLook_of_tag? settled inner look looked
    split at rest
    · obtain ⟨item, finds, admits, means, rfl⟩ := reads.sound settled look rest
      have alone : foreignsOfAll [.own item] = item.foreigns := List.append_nil _
      refine ⟨[.own item], ⟨⟨finds, trivial⟩, by simp, alone ▸ admits⟩, .inl (.cons means .nil), ?_⟩
      rw [bytesOfAll, bytesOfAll, List.append_nil]
      exact .refl
    · obtain ⟨parts, accepts, means, look⟩ := row.sound settled inner look rest
      exact ⟨parts, accepts, .inr means, look⟩
  complete {reader seen parts mine others value} settled keeps starts strange mixed means after
      look := by
    obtain ⟨middle, looked, look⟩ := tag?_of_keeps settled keeps look
    rcases means with means | means
    · cases means with
      | @cons first _ _ _ head tail =>
        cases tail
        obtain ⟨rest, rfl, rfl⟩ := eq_own_of_starts starts mixed
        have same : some first.tag = some tag := congrArg some (reads.tag_eq head)
        rw [bind_if_pos looked same]
        exact reads.gets settled keeps head look
    · -- nothing of this row is there, so the next item is one of the others, if there is any
      have none : mine = [] := List.eq_nil_iff_forall_not_mem.2 fun item mem =>
        absurd (row.mem_tags means item mem) List.not_mem_nil
      subst none
      rw [List.nil_append] at mixed
      have other := head?_tag_ne starts fun item mem same =>
        (after item (mixed ▸ mem)).2 (List.mem_singleton.2 same)
      rw [bind_if_neg looked other]
      exact row.complete settled keeps starts strange mixed means
        (fun item mem => ⟨(after item mem).1, List.not_mem_nil⟩) look

/-- A field is read where its tag comes next, by a step that goes on from what is there before. -/
lemma row_presence (record : String) (item : α → Read α) (blank : α)
    (reads : Reads tag (item blank) Means) (presence : Presence) :
    OwnRow known [tag] (presence.read record tag item blank (presence.blank blank))
      fun items value => List.Forall₂ Means items (presence.values value) := by
  cases presence with
  | required =>
    exact (reads.row_ifTag (row_throw _)).congr fun items value => or_iff_left id
  | optional =>
    refine ((reads.bind_pure some).row_ifTag (row_pure none)).congr fun items value => ?_
    cases value with
    | none => simp [Presence.values, Presence.toOption, List.forall₂_cons_right_iff]
    | some value => simp [Presence.values, Presence.toOption, List.forall₂_cons_right_iff]

/-- Items of one tag are read as long as they come. -/
lemma repeatedWithin_sound (reads : Reads tag item Means) {record : String} (fuel : Nat)
    {values : List α} (settled : reader.Settled) (inner : reader.opened ≠ [])
    (look : reader.MayLook seen)
    (read : repeatedWithin tag item (skipUnknown record known) fuel seen = .ok values final) :
    ∃ parts, reader.Accepts known parts ∧ List.Forall₂ Means (owned parts) values ∧
      (reader.advance (bytesOfAll parts).length).MayLook final := by
  induction fuel generalizing reader seen values with
  | zero =>
    obtain ⟨rfl, rfl⟩ := pure_eq_ok.1 read
    exact ⟨[], accepts_nil _ _, .nil, advance_zero.symm ▸ look⟩
  | succ fuel ih =>
    obtain ⟨found, middle, looked, rest⟩ := bind_eq_ok.1 read
    have look := mayLook_of_tag? settled inner look looked
    split at rest
    · obtain ⟨rfl, rfl⟩ := pure_eq_ok.1 rest
      exact ⟨[], accepts_nil _ _, .nil, advance_zero.symm ▸ look⟩
    · obtain ⟨value, _, first, rest⟩ := bind_eq_ok.1 rest
      obtain ⟨item, finds, admits, means, rfl⟩ := reads.sound settled look first
      obtain ⟨_, middle, skipped, rest⟩ := bind_eq_ok.1 rest
      obtain ⟨between, passed, none, look⟩ :=
        skipUnknown_sound (settled.advance _) inner .refl skipped
      obtain ⟨values, _, more, kept⟩ := bind_eq_ok.1 rest
      obtain ⟨rfl, rfl⟩ := pure_eq_ok.1 kept
      obtain ⟨parts, others, meaning, look⟩ :=
        ih ((settled.advance _).advance _) inner look more
      have single : reader.Accepts known [.own item] := by
        refine ⟨⟨finds, trivial⟩, by simp, ?_⟩
        rwa [foreignsOfAll, foreignsOfAll, List.append_nil]
      have length : (bytesOfAll [.own item]).length = item.bytes.length := by simp [bytesOfAll]
      rw [← length] at passed others look
      refine ⟨[.own item] ++ (between ++ parts), single.append (passed.append others), ?_, ?_⟩
      · simpa [none] using And.intro means meaning
      · simpa only [bytesOfAll_append, List.length_append, advance_advance, Nat.add_assoc] using look

/-- Items of one tag are read up to the last one, if as many headers can still come. -/
lemma repeatedWithin_complete (reads : Reads tag item Means) (record : String) (mem : tag ∈ known)
    {parts : List Part} {mine others : List Mixed} {values : List α}
    (means : List.Forall₂ Means mine values)
    (after : ∀ item ∈ others, item.tag ∈ known ∧ item.tag ≠ tag) (fuel : Nat)
    (enough : mine.length < fuel) (settled : reader.Settled) (keeps : reader.Keeps parts)
    (starts : StartsOwn parts) (strange : ForeignTo known parts)
    (mixed : owned parts = mine ++ others) (look : reader.MayLook seen) :
    reader.Gets parts mine values
      (repeatedWithin tag item (skipUnknown record known) fuel seen) := by
  -- the fuel counts headers, and each item that is read has one
  induction means generalizing reader seen parts fuel with
  | nil =>
    obtain ⟨fuel, rfl⟩ := Nat.exists_eq_add_one.2 enough
    obtain ⟨middle, looked, look⟩ := tag?_of_keeps settled keeps look
    rw [List.nil_append] at mixed
    have other := head?_tag_ne starts fun item mem => (after item (mixed ▸ mem)).2
    exact .inl ⟨[], parts, middle, rfl, rfl, admits_nil _, bind_if_pos looked other,
      advance_zero.symm ▸ look⟩
  | @cons first value items values head tail ih =>
    obtain ⟨fuel, rfl⟩ := Nat.exists_eq_add_one.2 (Nat.zero_lt_of_lt enough)
    obtain ⟨rest, rfl, mixed⟩ := eq_own_of_starts starts mixed
    obtain ⟨middle, looked, look⟩ := tag?_of_keeps settled keeps look
    have same : ¬ some first.tag ≠ some tag := not_not.2 (congrArg some (reads.tag_eq head))
    rw [repeatedWithin, bind_if_neg looked same]
    apply (reads.gets settled keeps head look).bind
    intro gone left middle spelled own look
    rw [spelled] at keeps strange
    replace mixed : owned left = items ++ others := by
      rw [spelled, owned_append, own] at mixed
      exact (List.cons.inj mixed).2
    have familiar : ∀ item ∈ owned left, item.tag ∈ known := by
      intro item among
      rw [mixed] at among
      rcases List.mem_append.1 among with among | among
      · rwa [List.mem_singleton.1 (reads.mem_tags tail item among)]
      · exact (after item among).1
    have strange := (foreignTo_append.1 strange).2
    rcases skipUnknown_complete record (settled.advance _) keeps.drop strange familiar look
      with ⟨passed, left, middle, rfl, none, starts, admits, skipped, look⟩ | refused
    · rw [owned_append, none, List.nil_append] at mixed
      have more := ih fuel (Nat.lt_of_succ_lt_succ enough) ((settled.advance _).advance _)
        keeps.drop.drop starts (foreignTo_append.1 strange).2 mixed look
      simpa only [none, List.nil_append] using
        Gets.behind admits skipped (more.bind_pure fun values => value :: values)
    · exact .inr (refused.bind _)

/-- A field is read as often as its tag comes next. -/
lemma Reads.row_repeated (reads : Reads tag item Means) (record : String) (mem : tag ∈ known) :
    OwnRow known [tag] (repeated tag item (skipUnknown record known)) (List.Forall₂ Means) where
  mem_tags means := reads.mem_tags means
  sound settled inner look read := by
    rw [repeated, headersLeft_bind] at read
    exact repeatedWithin_sound reads _ settled inner look read
  complete {reader seen parts mine others values} settled keeps starts strange mixed means after
      look := by
    have enough : mine.length < reader.remaining / 8 + 1 := by
      have room := keeps.length_le settled
      have fewer : (owned parts).length ≤ parts.length := List.length_filterMap_le _ _
      rw [mixed, List.length_append] at fewer
      omega
    rw [repeated, headersLeft_bind, look.remaining_eq settled.pending]
    exact repeatedWithin_complete reads record mem means
      (fun item mem => ⟨(after item mem).1, by simpa using (after item mem).2⟩) _ enough
      settled keeps starts strange mixed look

end Reads

/-- Behind the last field nothing but foreign items is left. -/
lemma noFurtherField_sound {record : String} {known : List Tag} {result : Unit}
    (settled : reader.Settled) (inner : reader.opened ≠ []) (look : reader.MayLook seen)
    (read : noFurtherField record known seen = .ok result final) :
    ∃ parts, reader.Accepts known parts ∧ owned parts = [] ∧
      final = reader.advance (bytesOfAll parts).length := by
  obtain ⟨_, middle, skipped, rest⟩ := bind_eq_ok.1 read
  obtain ⟨parts, accepts, none, look⟩ := skipUnknown_sound settled inner look skipped
  obtain ⟨found, middle, looked, rest⟩ := bind_eq_ok.1 rest
  obtain ⟨rfl, -, rfl⟩ | ⟨header, -, rfl, rfl⟩ :=
    (tag?_eq_ok (settled.advance _) inner look).1 looked
  · obtain ⟨-, rfl⟩ := pure_eq_ok.1 rest
    exact ⟨parts, accepts, none, rfl⟩
  · exact (throw_eq_ok.1 rest).elim

/-- Where a record holds nothing but foreign items any more, these are passed over, or the first one
is refused. -/
lemma noFurtherField_complete {known : List Tag} {parts : List Part} (record : String)
    (settled : reader.Settled) (keeps : reader.Keeps parts) (strange : ForeignTo known parts)
    (none : owned parts = []) (look : reader.MayLook seen) :
    reader.Admits (foreignsOfAll parts) ∧ noFurtherField record known seen =
        .ok () (reader.advance (bytesOfAll parts).length) ∨
      reader.Refuses (foreignsOfAll parts) (noFurtherField record known seen) := by
  rcases skipUnknown_complete record settled keeps strange (none ▸ List.forall_mem_nil _) look
    with ⟨gone, left, middle, rfl, -, starts, admits, skipped, look⟩ | refused
  · -- what is left starts with an item of the record, of which there are no more
    obtain rfl : left = [] := by
      obtain rfl | ⟨item, rest, rfl⟩ := starts.eq_nil_or_own
      · rfl
      · simp at none
    rw [List.append_nil] at keeps ⊢
    have behind := (show reader.Keeps (gone ++ []) from (List.append_nil gone).symm ▸ keeps).drop
    have looked : tag? middle = .ok Option.none (reader.advance (bytesOfAll gone).length) :=
      (tag?_eq_ok (settled.advance _) keeps.opened_ne_nil look).2 (.inl ⟨rfl, behind.atStop, rfl⟩)
    exact .inl ⟨admits, bind_eq_ok.2 ⟨(), middle, skipped, bind_eq_ok.2 ⟨_, _, looked, rfl⟩⟩⟩
  · exact .inr (refused.bind _)

/-- A structure is entered where its header is shown, if it is not too deep and ends within the one
around it. -/
lemma structureStart_eq_ok {tag : Tag} {result : Unit} (settled : reader.Settled)
    (look : reader.MayLook seen) :
    structureStart tag seen = .ok result final ↔
      ∃ length, reader.Shows ⟨tag, ItemType.structured.byte, length⟩ ∧
        reader.depth < reader.config.maxDepth ∧
        (∀ parent ∈ reader.opened.head?, reader.offset + 8 + length ≤ parent.stop) ∧
        final = (reader.advance 8).entering tag length := by
  have same : structureStart tag seen = structureStart tag reader :=
    bind_congr (bind_congr (look.header?_eq settled.pending))
  rw [same]
  simp only [structureStart, bind_eq_ok, expect_eq_ok settled.pending, enter_eq_ok]
  constructor
  · rintro ⟨length, _, ⟨shows, rfl⟩, shallow, room, rfl⟩
    exact ⟨length, shows, shallow, room, rfl⟩
  · rintro ⟨length, shows, shallow, room, rfl⟩
    exact ⟨length, _, ⟨shows, rfl⟩, shallow, room, rfl⟩

/-- A structure is read by what reads the row of its items, if nothing but foreign items is left of
it behind them. -/
lemma Row.reads_structure {record : String} {known tags : List Tag} {step : Read α}
    {Means : List Mixed → α → Prop} (row : FreeRow known tags step Means) (tag : Tag) :
    Reads tag (do
      structureStart tag
      let value ← step
      noFurtherField record known
      structureEnd
      pure value) fun item value =>
        ∃ parts, item = .record tag known parts ∧ ForeignTo known parts ∧
          Means (owned parts) value where
  tag_eq means := by
    obtain ⟨parts, rfl, -⟩ := means
    rfl
  sound {reader seen final value} settled look read := by
    simp only [bind_eq_ok, structureStart_eq_ok settled look, pure_eq_ok] at read
    obtain ⟨_, _, ⟨length, shows, shallow, room, rfl⟩, _, _, read, _, _, ended, _, _, left, rfl,
      rfl⟩ := read
    have entered := (settled.advance 8).entering shallow tag length
    obtain ⟨front, accepts, means, look⟩ := row.sound entered (List.cons_ne_nil _ _) .refl read
    obtain ⟨back, others, none, rfl⟩ :=
      noFurtherField_sound (entered.advance _) (List.cons_ne_nil _ _) look ended
    rw [advance_advance, ← List.length_append, ← bytesOfAll_append,
      structureEnd_entering settled] at left
    obtain ⟨rfl, rfl⟩ := left
    have whole := accepts.append others
    refine ⟨.record tag known (front ++ back), ?_, whole.admits, ⟨_, rfl, whole.strange, ?_⟩, ?_⟩
    · exact (finds_record_iff settled).2 ⟨shows, shallow, room, whole.finds⟩
    · rwa [owned_append, none, List.append_nil]
    · rw [Mixed.bytes, List.length_append, Header.length_bytes]
  complete {reader seen item value} settled finds means look := by
    obtain ⟨parts, rfl, strange, means⟩ := means
    obtain ⟨shows, shallow, room, -⟩ := (finds_record_iff settled).1 finds
    have entered := (settled.advance 8).entering shallow tag (bytesOfAll parts).length
    have keeps := finds.keeps settled
    have started : structureStart tag seen =
        .ok () ((reader.advance 8).entering tag (bytesOfAll parts).length) :=
      (structureStart_eq_ok settled look).2 ⟨_, shows, shallow, room, rfl⟩
    rw [bind_of_ok started]
    rcases row.complete entered keeps trivial strange (List.append_nil _).symm means
      (List.forall_mem_nil _) .refl with ⟨gone, left, middle, rfl, own, admits, read, look⟩ | refused
    · have none : owned left = [] := by
        rw [owned_append, own] at own
        simpa using own
      rw [bind_of_ok read]
      rcases noFurtherField_complete record (entered.advance _) keeps.drop
        (foreignTo_append.1 strange).2 none look with ⟨admitted, ended⟩ | refused
      · refine .inl ⟨?_, ?_⟩
        · rw [Mixed.foreigns, foreignsOfAll_append]
          exact admits_append.2 ⟨admits, admitted⟩
        · rw [bind_of_ok ended, advance_advance, ← List.length_append, ← bytesOfAll_append]
          refine bind_eq_ok.2 ⟨(), _, (structureEnd_entering settled).2 ⟨rfl, rfl⟩, ?_⟩
          rw [Mixed.bytes, List.length_append, Header.length_bytes]
          rfl
      · refine .inr (Refuses.bind (Refuses.mono refused ?_) _)
        rw [Mixed.foreigns, foreignsOfAll_append]
        exact List.subset_append_right _ _
    · exact .inr (Refuses.bind refused _)

end Read

end Kmip
