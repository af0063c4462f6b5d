import Kmip.Proofs.Loop

/-!
# One step on two readers

The same steps on two readers that correspond to each other in some way (`Read.Pairing`). If this is
kept by the steps that go on from one item to the next (`Read.Pairing.Lawful`), it is kept by every
step that reads items and records (`Read.Pairing.Lawful.closed`). What is said of a single reader is
said of a reader beside itself.
-/

namespace Kmip.Read

open Reader

variable {α β : Type} {reader final cut full : Reader}

/-- Looks at the next header, which must be there. -/
def front : Read Header :=
  header? >>= fun found => found.elim (throw .endOfInput) pure

lemma taking_found (found : Option Header) :
    Taking (found.elim (throw .endOfInput) pure : Read Header) := by
  cases found with
  | none => exact taking_throw _
  | some header => exact taking_pure header

/-- A header is taken behind a look at it. -/
lemma header_eq_front : Read.header = (do
    let header ← front
    dropPending
    pure header) := by
  rw [Read.header, front, bind_assoc]
  refine congrArg _ (funext fun found => ?_)
  cases found with
  | none => rfl
  | some header => rw [Option.elim_some, pure_bind]

/-- So is one that is checked. -/
lemma expect_eq_front (tag : Tag) (type : ItemType) : expect tag type = (do
    let header ← front
    if header.tag ≠ tag then throw (.unexpectedTag tag header.tag)
    if header.type ≠ type.byte then throw (.unexpectedType type header.type)
    dropPending
    pure header.length) := by
  rw [expect, front, bind_assoc]
  refine congrArg _ (funext fun found => ?_)
  cases found with
  | none => rfl
  | some header => rw [Option.elim_some, pure_bind]

/-- A header that has been looked at is waiting. -/
lemma front_eq_ok {header : Header} :
    front reader = .ok header final ↔ header? reader = .ok (some header) final := by
  rw [front, bind_eq_ok]
  constructor
  · rintro ⟨found, middle, looked, rest⟩
    cases found with
    | none => exact (throw_eq_ok.1 rest).elim
    | some header =>
      obtain ⟨rfl, rfl⟩ := pure_eq_ok.1 rest
      exact looked
  · exact fun looked => ⟨_, _, looked, rfl⟩

/-- Looking at a header does not change the settings. -/
lemma config_of_header? {found : Option Header} (looked : header? reader = .ok found final) :
    final.config = reader.config := by
  obtain rfl | ⟨header, -, -, -, rfl⟩ | ⟨-, -, -, -, -, rfl⟩ := header?_eq_ok looked <;> rfl

/-- What is said of two runs of one step. -/
structure Pairing where
  /-- The readers stand between two items. -/
  Near : Reader → Reader → Prop
  /-- The readers stand behind a header that has been taken. -/
  Behind : Header → Reader → Reader → Prop
  /-- An item may be asked for. -/
  Ready : Reader → Prop
  /-- Nothing more can be said of the two runs, one of which has failed. -/
  Ended : {α : Type} → EStateM.Result Fault Reader α → EStateM.Result Fault Reader α → Prop

namespace Pairing

variable {pairing : Pairing}

/-- Two runs give the same, and leave readers that are related so; or they have ended. -/
inductive Meets (pairing : Pairing) (related : α → Reader → Reader → Prop) :
    (part whole : EStateM.Result Fault Reader α) → Prop
  | ok {value : α} {cut full : Reader} (held : related value cut full) :
      Meets pairing related (.ok value cut) (.ok value full)
  | ended {part whole : EStateM.Result Fault Reader α} (ended : pairing.Ended part whole) :
      Meets pairing related part whole

/-- A failure between two items is the end of both runs, which no step behind it changes. -/
structure Final (pairing : Pairing) : Prop where
  throw : ∀ {α : Type} {cut full : Reader} (fault : Fault), pairing.Near cut full →
    pairing.Ended (.error fault cut : EStateM.Result Fault Reader α) (.error fault full)
  bind : ∀ {α β : Type} {step : Read α} {next : α → Read β} {cut full : Reader},
    pairing.Ended (step cut) (step full) → (∀ value, Taking (next value)) →
      pairing.Ended ((step >>= next) cut) ((step >>= next) full)

namespace Final

variable (stays : pairing.Final)
include stays

/-- Two runs of two steps meet if those of the first ones do, and those of the second ones on the
same result. -/
lemma meets_bind {step : Read α} {next : α → Read β} {related : α → Reader → Reader → Prop}
    {related' : β → Reader → Reader → Prop}
    (first : pairing.Meets related (step cut) (step full))
    (rest : ∀ value last middle, step cut = .ok value last → step full = .ok value middle →
      related value last middle → pairing.Meets related' (next value last) (next value middle))
    (taking : ∀ value, Taking (next value)) :
    pairing.Meets related' ((step >>= next) cut) ((step >>= next) full) := by
  generalize part : step cut = left, whole : step full = right at first
  cases first with
  | ok held =>
    rw [bind_of_ok part, bind_of_ok whole]
    exact rest _ _ _ part whole held
  | ended ended =>
    rw [← part, ← whole] at ended
    exact .ended (stays.bind ended taking)

/-- What is made of a result does not touch the readers. -/
lemma meets_map {step : Read α} (next : α → β)
    (meets : pairing.Meets (fun _ => pairing.Near) (step cut) (step full)) :
    pairing.Meets (fun _ => pairing.Near) ((step >>= fun value => pure (next value)) cut)
      ((step >>= fun value => pure (next value)) full) :=
  stays.meets_bind meets (fun _ _ _ _ _ near => .ok near) fun _ => taking_pure _

lemma meets_throw (fault : Fault) (near : pairing.Near cut full) :
    pairing.Meets (fun _ => pairing.Near) ((MonadExcept.throw fault : Read α) cut)
      ((MonadExcept.throw fault : Read α) full) :=
  .ended (stays.throw fault near)

lemma meets_lift (found : Except Fault α) (near : pairing.Near cut full) :
    pairing.Meets (fun _ => pairing.Near) (lift found cut) (lift found full) := by
  cases found with
  | ok value => exact .ok near
  | error fault => exact stays.meets_throw fault near

end Final

/-- The steps that go on from one item to the next keep what is said of the readers. -/
structure Lawful (pairing : Pairing) : Prop extends Final pairing where
  config : ∀ {cut full : Reader}, pairing.Near cut full → cut.config = full.config
  ready : ∀ {reader : Reader}, reader.opened ≠ [] → pairing.Ready reader
  stop : ∀ {α : Type} {header : Header} {cut full : Reader} (fault : Fault),
    pairing.Behind header cut full →
      pairing.Ended (.error fault cut : EStateM.Result Fault Reader α) (.error fault full)
  header? : ∀ {cut full : Reader}, pairing.Near cut full → full.opened ≠ [] →
    pairing.Meets (fun _ => pairing.Near) (header? cut) (header? full)
  front : ∀ {cut full : Reader}, pairing.Near cut full → pairing.Ready full →
    pairing.Meets (fun header cut full => pairing.Near cut full ∧
        pairing.Behind header { cut with pending := none } { full with pending := none })
      (front cut) (front full)
  content : ∀ {header : Header} {type : ScalarType} {cut full : Reader} (tag : Tag),
    ItemType.ofByte? header.type = some (.scalar type) → pairing.Behind header cut full →
      pairing.Meets (fun _ => pairing.Near) (content type tag header.length cut)
        (content type tag header.length full)
  pass : ∀ {header : Header} {cut full : Reader}, full.config.unknownTags = .skip →
    pairing.Behind header cut full →
      pairing.Meets (fun _ => pairing.Near) (pass header.span cut) (pass header.span full)
  enter : ∀ {header : Header} {cut full : Reader} (tag : Tag),
    ItemType.ofByte? header.type = some .structured → pairing.Behind header cut full →
      pairing.Meets (fun _ => pairing.Near) (enter tag header.length cut)
        (enter tag header.length full)
  structureEnd : ∀ {cut full : Reader}, pairing.Near cut full →
    pairing.Meets (fun _ => pairing.Near) (structureEnd cut) (structureEnd full)

/-- The step is the same for readers between two items, and leaves them so. -/
def Items (pairing : Pairing) (step : Read α) : Prop :=
  ∀ ⦃cut full : Reader⦄, pairing.Near cut full → pairing.Ready full →
    pairing.Meets (fun _ => pairing.Near) (step cut) (step full)

/-- So it is in a structure. -/
def Rows (pairing : Pairing) (step : Read α) : Prop :=
  ∀ ⦃cut full : Reader⦄, pairing.Near cut full → full.opened ≠ [] →
    pairing.Meets (fun _ => pairing.Near) (step cut) (step full)

namespace Lawful

variable (lawful : pairing.Lawful)
include lawful

lemma rows_of_items {step : Read α} (items : pairing.Items step) : pairing.Rows step :=
  fun _ _ near inner => items near (lawful.ready inner)

omit lawful in
lemma rows_pure (value : α) : pairing.Rows (pure value) :=
  fun _ _ near _ => .ok near

lemma rows_throw (fault : Fault) : pairing.Rows (MonadExcept.throw fault : Read α) :=
  fun _ _ near _ => lawful.meets_throw fault near

/-- A step in a structure behind one that leaves the same structures open. -/
lemma rows_bind {least : Nat} {step : Read α} {next : α → Read β} (rows : pairing.Rows step)
    (steady : Steady least step) (behind : ∀ value, pairing.Rows (next value))
    (taking : ∀ value, Taking (next value)) : pairing.Rows (step >>= next) :=
  fun _ _ near inner => lawful.meets_bind (rows near inner)
    (fun value _ _ _ read near => behind value near (steady.opened read ▸ inner)) taking

/-- What has been found in place of a header may be turned into something else. -/
lemma rows_tag? : pairing.Rows tag? :=
  fun _ _ near inner => lawful.meets_map _ (lawful.header? near inner)

/-- A header is taken. -/
lemma header (near : pairing.Near cut full) (ready : pairing.Ready full) :
    pairing.Meets pairing.Behind (Read.header cut) (Read.header full) := by
  rw [header_eq_front]
  refine lawful.meets_bind (lawful.front near ready) (fun header _ _ _ _ held => ?_)
    fun _ => taking_dropPending.bind fun _ => taking_pure _
  exact .ok held.2

/-- The header that is expected is taken. -/
lemma expect (tag : Tag) (type : ItemType) (near : pairing.Near cut full)
    (ready : pairing.Ready full) :
    pairing.Meets (fun length => pairing.Behind ⟨tag, type.byte, length⟩) (Read.expect tag type cut)
      (Read.expect tag type full) := by
  rw [expect_eq_front]
  refine lawful.meets_bind (lawful.front near ready) (fun header last middle _ _ held => ?_)
    fun header => kept_taking.guard Bool.false_ne_true (kept_taking.guard Bool.false_ne_true
      (taking_dropPending.bind fun _ => taking_pure _))
  obtain ⟨near, behind⟩ := held
  by_cases other : header.tag ≠ tag
  · rw [if_pos other]
    exact .ended (lawful.throw _ near)
  · rw [if_neg other]
    by_cases wrong : header.type ≠ type.byte
    · rw [if_pos wrong]
      exact .ended (lawful.throw _ near)
    · rw [if_neg wrong]
      rw [not_not] at other wrong
      refine .ok ?_
      rw [← other, ← wrong]
      exact behind

/-- A single value is read. -/
lemma items_scalar (type : ScalarType) (tag : Tag) : pairing.Items (scalar type tag) := by
  intro cut full near ready
  refine lawful.meets_map _ (lawful.meets_bind (lawful.expect tag (.scalar type) near ready)
    (fun length last middle _ _ behind => ?_) fun length =>
      (kept_taking.content type tag length).bind fun _ => taking_pure _)
  exact lawful.meets_map _ (lawful.content tag (ItemType.ofByte?_byte _) behind)

/-- A value is read behind its header, if the items of a structure are. -/
lemma value {children : Read (List Item)} {header : Header}
    (behind : pairing.Behind header cut full) (taking : Taking children)
    (each : ∀ last middle, pairing.Near last middle → middle.opened ≠ [] →
      middle.remaining = full.remaining →
        pairing.Meets (fun _ => pairing.Near) (children last) (children middle)) :
    pairing.Meets (fun _ => pairing.Near) (value children header cut)
      (value children header full) := by
  cases known : ItemType.ofByte? header.type with
  | none =>
    simp only [Read.value, known]
    exact .ended (lawful.stop _ behind)
  | some type =>
    cases type with
    | scalar type =>
      simp only [Read.value, known]
      exact lawful.meets_map _ (lawful.content header.tag known behind)
    | structured =>
      simp only [Read.value, known]
      refine lawful.meets_bind (lawful.enter header.tag known behind)
        (fun _ last middle _ entered near => ?_) fun _ => taking.bind fun items =>
          taking_structureEnd.bind fun _ => taking_pure (Value.structured items)
      obtain ⟨-, -, rfl⟩ := enter_eq_ok.1 entered
      refine lawful.meets_bind (each _ _ near (List.cons_ne_nil _ _) rfl)
        (fun items _ _ _ _ near => ?_) fun items =>
          taking_structureEnd.bind fun _ => taking_pure (Value.structured items)
      exact lawful.meets_map _ (lawful.structureEnd near)

/-- A turn is made, and the loop behind it. -/
lemma meets_unroll {turn : Read (Option α)} {stop : β} {add : α → β → β} {loop : Read β}
    (turned : pairing.Meets (fun _ => pairing.Near) (turn cut) (turn full))
    (more : ∀ first last middle, turn full = .ok (some first) middle → pairing.Near last middle →
      pairing.Meets (fun _ => pairing.Near) (loop last) (loop middle)) (taking : Taking loop) :
    pairing.Meets (fun _ => pairing.Near) (unroll turn stop add loop cut)
      (unroll turn stop add loop full) := by
  refine lawful.meets_bind turned (fun found last middle _ done near => ?_) fun found => ?_
  · cases found with
    | none => exact .ok near
    | some first => exact lawful.meets_map (add first) (more first last middle done near)
  · cases found with
    | none => exact taking_pure _
    | some first => exact taking.bind fun _ => taking_pure _

/-- A loop in a structure is made of its turns. -/
lemma rows_loop {turn : Read (Option α)} {stop : β} {add : α → β → β} {loop : Read β}
    (loops : Loops turn stop add loop) (turned : pairing.Rows turn) (steady : Steady 0 turn)
    (taking : Taking loop) : pairing.Rows loop := by
  intro cut full near inner
  induction left : full.remaining using Nat.strongRecOn generalizing cut full with
  | ind left ih =>
    subst left
    rw [loops.unrolled]
    refine lawful.meets_unroll (turned near inner) (fun first last middle done near => ?_) taking
    have fewer := loops.progress done
    exact ih middle.remaining (by omega) near (steady.opened done ▸ inner) rfl

omit lawful in
lemma taking_items : Taking items :=
  kept_taking.headersLeft.bind kept_taking.itemsWithin

/-- An item is read, if the items in it are, which have fewer bytes left. -/
lemma meets_item (near : pairing.Near cut full) (ready : pairing.Ready full)
    (each : ∀ last middle, pairing.Near last middle → middle.opened ≠ [] →
      middle.remaining + 8 ≤ full.remaining →
        pairing.Meets (fun _ => pairing.Near) (items last) (items middle)) :
    pairing.Meets (fun _ => pairing.Near) (item cut) (item full) := by
  rw [item_eq_items]
  refine lawful.meets_bind (lawful.header near ready) (fun header last middle _ taken behind => ?_)
    fun header => (kept_taking.value taking_items header).bind fun _ => taking_pure _
  have fewer := steady_header.remaining taken
  exact lawful.meets_map _ (lawful.value behind taking_items fun last middle near inner same =>
    each last middle near inner (same ▸ fewer))

/-- The items of a structure are read. -/
lemma rows_items : pairing.Rows items := by
  intro cut full near inner
  induction left : full.remaining using Nat.strongRecOn generalizing cut full with
  | ind left ih =>
    subst left
    rw [loops_items.unrolled]
    refine lawful.meets_unroll ?_ (fun first last middle done near => ?_) taking_items
    · refine lawful.meets_bind (lawful.header? near inner)
        (fun found last middle _ looked near => ?_) fun found => ?_
      · have kept := steady_header?.remaining looked
        have inner := steady_header?.opened looked ▸ inner
        cases found with
        | none => exact .ok near
        | some _ =>
          exact lawful.meets_map some (lawful.meets_item near (lawful.ready inner)
            fun last middle near inner fewer => ih middle.remaining (by omega) near inner rfl)
      · cases found with
        | none => exact taking_pure _
        | some _ => exact kept_taking.item.bind fun _ => taking_pure _
    · have fewer := loops_items.progress done
      exact ih middle.remaining (by omega) near (steady_itemTurn.opened done ▸ inner) rfl

lemma items_item : pairing.Items item :=
  fun _ _ near ready => lawful.meets_item near ready fun _ _ near inner _ =>
    lawful.rows_items near inner

lemma items_valueAs (tag : Tag) : pairing.Items (valueAs tag) := by
  intro cut full near ready
  rw [valueAs_eq_items]
  refine lawful.meets_bind (lawful.header near ready) (fun header last middle _ _ behind => ?_)
    fun header => kept_taking.guard Bool.false_ne_true (kept_taking.value taking_items header)
  by_cases other : header.tag ≠ tag
  · rw [if_pos other]
    exact .ended (lawful.stop _ behind)
  · rw [if_neg other]
    exact lawful.value behind taking_items fun _ _ near inner _ => lawful.rows_items near inner

/-- Foreign items are passed over, if that is what is done with them. -/
lemma rows_skipUnknown (record : String) (known : List Tag) :
    pairing.Rows (skipUnknown record known) := by
  have taking : Taking (skipUnknown record known) := kept_taking.skipUnknown record known
  refine lawful.rows_loop (loops_skipUnknown record known) (fun cut full near inner => ?_)
    steady_skipTurn taking
  · refine lawful.meets_bind (lawful.rows_tag? near inner)
      (fun found last middle _ looked near => ?_) fun found => ?_
    · have inner := steady_tag?.opened looked ▸ inner
      cases found with
      | none => exact .ok near
      | some tag =>
        by_cases mem : tag ∈ known
        · simp only [mem, if_true]
          exact .ok near
        · simp only [mem, if_false]
          rw [get_bind, get_bind, lawful.config near]
          cases policy : middle.config.unknownTags with
          | reject => exact .ended (lawful.throw _ near)
          | skip =>
            refine lawful.meets_map some (lawful.meets_bind
              (lawful.header near (lawful.ready inner)) (fun header _ _ _ taken behind => ?_)
                fun header => taking_pass header.span)
            refine lawful.pass ?_ behind
            rw [header_eq_front] at taken
            obtain ⟨found, _, looked, rest⟩ := bind_eq_ok.1 taken
            obtain ⟨_, _, dropped, kept⟩ := bind_eq_ok.1 rest
            obtain ⟨-, rfl⟩ := EStateM.Result.ok.inj dropped
            obtain ⟨-, rfl⟩ := pure_eq_ok.1 kept
            exact (congrArg Config.unknownTags (config_of_header? (front_eq_ok.1 looked))).trans
              policy
    · cases found with
      | none => exact taking_pure _
      | some tag =>
        simp only
        split
        · exact taking_pure _
        · refine taking_get.bind fun reader => ?_
          split
          · exact taking_throw _
          · exact kept_taking.skip.bind fun _ => taking_pure _

lemma rows_noFurtherField (record : String) (known : List Tag) :
    pairing.Rows (noFurtherField record known) := by
  refine lawful.rows_bind (lawful.rows_skipUnknown record known) (steady_skipUnknown record known)
    (fun _ => ?_) fun _ => kept_taking.tag?.bind fun found => ?_
  · refine lawful.rows_bind lawful.rows_tag? steady_tag? (fun found => ?_) fun found => ?_
    all_goals cases found
    · exact rows_pure ()
    · exact lawful.rows_throw _
    · exact taking_pure ()
    · exact taking_throw _
  · cases found with
    | none => exact taking_pure ()
    | some tag => exact taking_throw _

/-- Items of one tag are read. -/
lemma rows_repeated {item : Read α} (tag : Tag) (record : String) (known : List Tag)
    (each : pairing.Items item) (taking : Taking item) (steady : Steady 8 item) :
    pairing.Rows (repeated tag item (skipUnknown record known)) := by
  have gap := steady_skipUnknown record known
  have behind (first : α) : Taking (do
      skipUnknown record known
      pure (some first)) := (kept_taking.skipUnknown record known).bind fun _ => taking_pure _
  refine lawful.rows_loop (loops_repeated tag steady gap) ?_ (steady_repeatTurn tag steady gap)
    (closed_taking.repeated tag record known taking)
  refine lawful.rows_bind lawful.rows_tag? steady_tag? (fun found => ?_) fun found => ?_
  · split
    · exact rows_pure none
    · exact lawful.rows_bind (lawful.rows_of_items each) steady (fun first =>
        lawful.rows_bind (lawful.rows_skipUnknown record known) gap (fun _ => rows_pure (some first))
          fun _ => taking_pure _) behind
  · split
    · exact taking_pure _
    · exact taking.bind behind

omit lawful in
/-- What stands behind the last field is dealt with, and the structure is left. -/
lemma taking_leave (record : String) (known : List Tag) (value : α) : Taking (do
    noFurtherField record known
    Read.structureEnd
    pure value) :=
  (kept_taking.noFurtherField record known).bind fun _ => taking_structureEnd.bind fun _ =>
    taking_pure value

/-- A structure that has been entered is read and left. -/
lemma rows_entered {step : Read α} (record : String) (known : List Tag) (row : pairing.Rows step)
    (steady : Steady 0 step) : pairing.Rows (do
      let value ← step
      noFurtherField record known
      Read.structureEnd
      pure value) := by
  intro cut full near inner
  refine lawful.meets_bind (row near inner) (fun value _ _ _ read near => ?_)
    (taking_leave record known)
  refine lawful.meets_bind (lawful.rows_noFurtherField record known near
    (steady.opened read ▸ inner)) (fun _ _ _ _ _ near => ?_) fun _ =>
      taking_structureEnd.bind fun _ => taking_pure value
  exact lawful.meets_map _ (lawful.structureEnd near)

/-- A structure is entered, read and left. -/
lemma items_structured {step : Read α} (tag : Tag) (record : String) (known : List Tag)
    (row : pairing.Rows step) (taking : Taking step) (steady : Steady 0 step) :
    pairing.Items (do
      structureStart tag
      let value ← step
      noFurtherField record known
      Read.structureEnd
      pure value) := by
  intro cut full near ready
  refine lawful.meets_bind (lawful.meets_bind (lawful.expect tag .structured near ready)
    (fun length _ _ _ _ behind => lawful.enter tag (ItemType.ofByte?_byte .structured) behind)
      fun length => taking_enter tag length) ?_ fun _ => taking.bind (taking_leave record known)
  intro _ last middle _ started near
  refine lawful.rows_entered record known row steady near ?_
  obtain ⟨length, _, -, entered⟩ := bind_eq_ok.1 started
  obtain ⟨-, -, rfl⟩ := enter_eq_ok.1 entered
  exact List.cons_ne_nil _ _

/-- What is said of the readers is kept by everything that reads items, and inside of structures by
everything that reads several of them. -/
lemma closed : Closed (fun _ step => pairing.Items step ∧ Taking step ∧ Steady 8 step)
    (fun _ step => pairing.Rows step ∧ Taking step ∧ Steady 0 step) where
  scalar type tag := ⟨lawful.items_scalar type tag, kept_taking.scalar type tag,
    steady_scalar type tag⟩
  valueAs tag := ⟨lawful.items_valueAs tag, kept_taking.valueAs tag, steady_valueAs tag⟩
  bind_lift next plain item := by
    refine ⟨fun _ _ near ready => ?_, closed_taking.bind_lift next plain item.2.1,
      closed_steady.bind_lift next plain item.2.2⟩
    exact lawful.meets_bind (item.1 near ready)
      (fun value _ _ _ _ near => lawful.meets_lift (next value) near)
      fun value => kept_taking.lift (next value) plain
  lift_bind found next plain each := by
    refine ⟨fun _ _ near ready => ?_, closed_taking.lift_bind found plain fun value => (each value).2.1,
      closed_steady.lift_bind found plain fun value => (each value).2.2⟩
    cases found with
    | ok value => exact (each value).1 near ready
    | error fault => exact lawful.meets_throw fault near
  structured tag record known row := ⟨lawful.items_structured tag record known row.1 row.2.1 row.2.2,
    closed_taking.structured tag record known row.2.1,
    closed_steady.structured tag record known row.2.2⟩
  pure value := ⟨rows_pure value, taking_pure value, steady_pure value⟩
  throw fault _ := ⟨lawful.rows_throw fault, taking_throw fault, steady_throw fault⟩
  bind row rows := ⟨lawful.rows_bind row.1 row.2.2 (fun value => (rows value).1)
      fun value => (rows value).2.1,
    row.2.1.bind fun value => (rows value).2.1, row.2.2.behind fun value => (rows value).2.2⟩
  skipUnknown record known := ⟨lawful.rows_skipUnknown record known,
    kept_taking.skipUnknown record known, steady_skipUnknown record known⟩
  ifTag tag item absent := by
    refine ⟨lawful.rows_bind lawful.rows_tag? steady_tag? (fun found => ?_) fun found => ?_,
      closed_taking.ifTag tag item.2.1 absent.2.1, closed_steady.ifTag tag item.2.2 absent.2.2⟩
    all_goals split
    · exact lawful.rows_of_items item.1
    · exact absent.1
    · exact item.2.1
    · exact absent.2.1
  repeated tag record known item := ⟨lawful.rows_repeated tag record known item.1 item.2.1 item.2.2,
    closed_taking.repeated tag record known item.2.1,
    closed_steady.repeated tag record known item.2.2⟩

end Lawful

end Pairing

end Kmip.Read
