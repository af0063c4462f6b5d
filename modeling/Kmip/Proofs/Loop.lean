import Kmip.Proofs.Lookahead
import Kmip.Proofs.Taking

/-!
# Loops of a reader

Items are read, and foreign ones passed over, in loops. Each of them is the repetition of one turn
that takes a header at least, if another turn follows it (`Read.Loops`): so no more turns are made
than headers can still come, and what a loop does is determined by its turn. The number of turns that
the definitions let through is never reached.
-/

namespace Kmip.Read

open Reader

variable {α β : Type} {reader final : Reader} {turn : Read (Option α)} {stop : β} {add : α → β → β}
  {loop : Read β}

/-- Steps with the same result are followed alike. -/
lemma bind_congr_step {step other : Read α} {next : α → Read β} (same : step reader = other reader) :
    (step >>= next) reader = (other >>= next) reader := by
  simp only [bind, EStateM.bind, same]

/-- A step is followed alike if that is so behind each of its results. -/
lemma bind_congr_next {step : Read α} {next other : α → Read β}
    (same : ∀ value middle, step reader = .ok value middle → next value middle = other value middle) :
    (step >>= next) reader = (step >>= other) reader := by
  cases done : step reader with
  | ok value middle => rw [bind_of_ok done, bind_of_ok done, same value middle done]
  | error fault middle => rw [bind_of_error done, bind_of_error done]

lemma get_bind {next : Reader → Read α} : (get >>= next) reader = next reader reader := rfl

/-- A turn, and behind it the loop if there is something to add to what comes of it. -/
def unroll (turn : Read (Option α)) (stop : β) (add : α → β → β) (loop : Read β) : Read β := do
  match ← turn with
  | none => pure stop
  | some first =>
    let rest ← loop
    pure (add first rest)

/-- So many turns, one behind the other, that go on to a further one. -/
inductive Turns (turn : Read (Option α)) : Nat → Reader → Reader → Prop where
  | zero (reader : Reader) : Turns turn 0 reader reader
  | succ {count : Nat} {reader middle final : Reader} {first : α}
      (one : turn reader = .ok (some first) middle) (more : Turns turn count middle final) :
      Turns turn (count + 1) reader final

/-- The loop repeats the turn as long as it has something to add, which takes a header at least. -/
structure Loops (turn : Read (Option α)) (stop : β) (add : α → β → β) (loop : Read β) : Prop where
  unrolled : loop = unroll turn stop add loop
  /-- Nothing else repeats the turn: it comes to an end, from any reader. -/
  unique : ∀ other : Read β, other = unroll turn stop add other → other = loop
  progress : ∀ {reader final : Reader} {first : α}, turn reader = .ok (some first) final →
    final.remaining + 8 ≤ reader.remaining
  bounded : ∀ {count : Nat} {reader final : Reader}, Turns turn count reader final →
    8 * count + final.remaining ≤ reader.remaining
  /-- Turns come to one that is the last, or fails. -/
  ends : ∀ reader : Reader, ∃ count middle, Turns turn count reader middle ∧
    ∀ first final, turn middle ≠ .ok (some first) final

/-- A turn is followed alike if that is so where it has something to add. -/
lemma unroll_congr {other : Read β}
    (same : ∀ first middle, turn reader = .ok (some first) middle → loop middle = other middle) :
    unroll turn stop add loop reader = unroll turn stop add other reader := by
  refine bind_congr_next fun found middle done => ?_
  cases found with
  | none => rfl
  | some first => exact bind_congr_step (same first middle done)

/-- Turns take the headers of all of them. -/
lemma Turns.remaining {count : Nat} (turns : Turns turn count reader final)
    (progress : ∀ {reader final first}, turn reader = .ok (some first) final →
      final.remaining + 8 ≤ reader.remaining) : 8 * count + final.remaining ≤ reader.remaining := by
  induction turns with
  | zero => omega
  | succ one more ih =>
    have taken := progress one
    omega

/-- What is its own unrolling is a loop, if each turn takes a header. -/
lemma loops_of_unrolled (unrolled : loop = unroll turn stop add loop)
    (progress : ∀ {reader final first}, turn reader = .ok (some first) final →
      final.remaining + 8 ≤ reader.remaining) : Loops turn stop add loop where
  unrolled := unrolled
  unique other same := by
    funext reader
    induction left : reader.remaining using Nat.strongRecOn generalizing reader with
    | ind left ih =>
      subst left
      rw [same, unrolled]
      refine unroll_congr fun first middle done => ?_
      have taken := progress done
      exact ih middle.remaining (by omega) middle rfl
  progress := progress
  bounded turns := turns.remaining progress
  ends reader := by
    induction left : reader.remaining using Nat.strongRecOn generalizing reader with
    | ind left ih =>
      subst left
      by_cases last : ∀ first final, turn reader ≠ .ok (some first) final
      · exact ⟨0, reader, .zero reader, last⟩
      · push Not at last
        obtain ⟨first, middle, one⟩ := last
        have taken := progress one
        obtain ⟨count, final, more, last⟩ := ih middle.remaining (by omega) middle rfl
        exact ⟨count + 1, final, .succ one more, last⟩

/-- A loop succeeds with its last turn, or with the loop behind its first one. -/
lemma Loops.eq_ok (loops : Loops turn stop add loop) {result : β} :
    loop reader = .ok result final ↔ (turn reader = .ok none final ∧ stop = result) ∨
      ∃ first middle rest, turn reader = .ok (some first) middle ∧ loop middle = .ok rest final ∧
        add first rest = result := by
  rw [congrFun loops.unrolled reader, unroll, bind_eq_ok]
  constructor
  · rintro ⟨found, middle, turned, done⟩
    cases found with
    | none =>
      obtain ⟨same, rfl⟩ := pure_eq_ok.1 done
      exact .inl ⟨turned, same⟩
    | some first =>
      obtain ⟨rest, last, more, kept⟩ := bind_eq_ok.1 done
      obtain ⟨same, rfl⟩ := pure_eq_ok.1 kept
      exact .inr ⟨first, middle, rest, turned, more, same⟩
  · rintro (⟨turned, same⟩ | ⟨first, middle, rest, turned, more, same⟩)
    · exact ⟨none, final, turned, pure_eq_ok.2 ⟨same, rfl⟩⟩
    · exact ⟨some first, middle, turned, bind_eq_ok.2 ⟨rest, final, more, pure_eq_ok.2 ⟨same, rfl⟩⟩⟩

section

variable {within : Nat → Read β}

/-- More turns than headers can still come are as good as any number of them. -/
lemma within_eq (turns : ∀ fuel, within (fuel + 1) = unroll turn stop add (within fuel))
    (progress : ∀ {reader final first}, turn reader = .ok (some first) final →
      final.remaining + 8 ≤ reader.remaining) {fuel more : Nat}
    (enough : reader.remaining / 8 < fuel) (also : reader.remaining / 8 < more) :
    within fuel reader = within more reader := by
  induction fuel generalizing more reader with
  | zero => exact absurd enough (Nat.not_lt_zero _)
  | succ fuel ih =>
    obtain ⟨more, rfl⟩ := Nat.exists_eq_add_one.2 (Nat.zero_lt_of_lt also)
    rw [turns, turns]
    refine unroll_congr fun first middle done => ?_
    have taken := progress done
    exact ih (by omega) (by omega)

/-- A loop that lets as many turns through as headers can still come. -/
lemma loops_within (turns : ∀ fuel, within (fuel + 1) = unroll turn stop add (within fuel))
    (progress : ∀ {reader final first}, turn reader = .ok (some first) final →
      final.remaining + 8 ≤ reader.remaining) :
    Loops turn stop add (headersLeft >>= fun left => within (left + 1)) := by
  refine loops_of_unrolled (funext fun reader => ?_) progress
  rw [headersLeft_bind, turns]
  refine unroll_congr fun first middle done => ?_
  have taken := progress done
  rw [headersLeft_bind]
  exact within_eq turns progress (by omega) (Nat.lt_succ_self _)

end

/-- Another turn follows one step if there was something to be read, which the step takes. -/
lemma remaining_of_some {step : Read α} {value : α} (steady : Steady 8 step)
    (done : (do
      let value ← step
      pure (some value)) reader = .ok (some value) final) :
    final.remaining + 8 ≤ reader.remaining := by
  obtain ⟨_, middle, read, kept⟩ := bind_eq_ok.1 done
  obtain ⟨-, rfl⟩ := pure_eq_ok.1 kept
  exact steady.remaining read

section

variable {tag : Tag} {record : String} {known : List Tag}

/-- The next item of a structure, unless it has been read to its end. -/
def itemTurn : Read (Option Item) := do
  let some _ ← header? | pure none
  let item ← item
  pure (some item)

/-- The items up to the end of the innermost structure. -/
def items : Read (List Item) := do
  itemsWithin (← headersLeft)

lemma itemTurn_progress {item : Item} (done : itemTurn reader = .ok (some item) final) :
    final.remaining + 8 ≤ reader.remaining := by
  obtain ⟨found, middle, looked, done⟩ := bind_eq_ok.1 done
  have kept := steady_header?.remaining looked
  cases found with
  | none => cases done
  | some header =>
    have taken := remaining_of_some steady_item done
    omega

lemma steady_itemTurn : Steady 0 itemTurn := by
  refine steady_header?.behind fun found => ?_
  cases found with
  | none => exact steady_pure _
  | some _ => exact (steady_item.mono (Nat.zero_le _)).behind fun _ => steady_pure _

/-- The value of an item depends on what reads the items in it only where a structure is entered. -/
lemma value_congr {children other : Read (List Item)} (header : Header)
    (same : ∀ entered : Reader, entered.remaining = reader.remaining →
      children entered = other entered) : value children header reader = value other header reader := by
  unfold value
  cases ItemType.ofByte? header.type with
  | none => rfl
  | some type =>
    cases type with
    | scalar type => rfl
    | structured =>
      refine bind_congr_next fun _ entered began => ?_
      obtain ⟨-, -, rfl⟩ := enter_eq_ok.1 began
      exact bind_congr_step (same _ rfl)

/-- Items are read as long as headers come, if these are let through. -/
lemma itemsWithin_eq (fuel : Nat) :
    itemsWithin fuel = (header? >>= fun found =>
      match found, fuel with
      | none, _ => pure []
      | some _, 0 => throw .endOfInput
      | some _, fuel + 1 => do
        let header ← header
        let value ← value (itemsWithin fuel) header
        let rest ← itemsWithin fuel
        pure (⟨header.tag.text, value⟩ :: rest) : Read (List Item)) := by
  cases fuel with
  | zero => exact congrArg _ (funext fun found => by cases found <;> rfl)
  | succ fuel => exact congrArg _ (funext fun found => by cases found <;> rfl)

/-- As many headers as can still come are as good as any number of them. -/
lemma itemsWithin_eq_of_le (fuel : Nat) {more : Nat} (enough : reader.remaining / 8 ≤ fuel)
    (also : reader.remaining / 8 ≤ more) : itemsWithin fuel reader = itemsWithin more reader := by
  induction fuel generalizing more reader with
  | zero =>
    rw [itemsWithin_eq 0, itemsWithin_eq more]
    refine bind_congr_next fun found middle looked => ?_
    cases found with
    | none => rfl
    | some header =>
      have waiting : 8 ≤ middle.remaining := by
        simp [remaining, (header?_ok looked).2.2 rfl]
      have kept := steady_header?.remaining looked
      omega
  | succ fuel ih =>
    rw [itemsWithin_eq (fuel + 1), itemsWithin_eq more]
    refine bind_congr_next fun found middle looked => ?_
    have kept := steady_header?.remaining looked
    cases found with
    | none => rfl
    | some header =>
      have waiting : 8 ≤ middle.remaining := by
        simp [remaining, (header?_ok looked).2.2 rfl]
      obtain ⟨more, rfl⟩ : ∃ fewer, more = fewer + 1 := Nat.exists_eq_add_one.2 (by omega)
      refine bind_congr_next fun header behind taken => ?_
      have fewer := steady_header.remaining taken
      have inner : value (itemsWithin fuel) header behind = value (itemsWithin more) header behind :=
        value_congr header fun entered same => ih (by omega) (by omega)
      refine (bind_congr_step inner).trans (bind_congr_next fun value last read => ?_)
      have left := (steady_value (steady_itemsWithin more) header).remaining read
      exact bind_congr_step (ih (by omega) (by omega))

/-- An item is a header and its value, in which the items of a structure are read. -/
lemma item_eq_items : item = (do
    let header ← header
    let value ← value items header
    pure ⟨header.tag.text, value⟩) := by
  funext reader
  rw [item, taggedValue, bind_assoc, headersLeft_bind, bind_assoc]
  refine bind_congr_next fun header middle taken => ?_
  have fewer := steady_header.remaining taken
  have inner : value (itemsWithin (reader.remaining / 8)) header middle =
      value items header middle :=
    value_congr header fun entered same => itemsWithin_eq_of_le _ (by omega) le_rfl
  refine (bind_congr_step (bind_congr_step inner)).trans ?_
  rw [bind_assoc]
  rfl

/-- So is an item under a given tag. -/
lemma valueAs_eq_items (tag : Tag) : valueAs tag = (do
    let header ← header
    if header.tag ≠ tag then throw (.unexpectedTag tag header.tag)
    value items header) := by
  funext reader
  rw [valueAs, headersLeft_bind]
  refine bind_congr_next fun header middle taken => ?_
  have fewer := steady_header.remaining taken
  have inner : value (itemsWithin (reader.remaining / 8)) header middle =
      value items header middle :=
    value_congr header fun entered same => itemsWithin_eq_of_le _ (by omega) le_rfl
  split
  · rfl
  · exact inner

/-- The items of a structure are read in a loop. -/
lemma loops_items : Loops itemTurn [] List.cons items := by
  refine loops_of_unrolled (funext fun reader => ?_) itemTurn_progress
  rw [items, headersLeft_bind, itemsWithin_eq, unroll, itemTurn, bind_assoc]
  refine bind_congr_next fun found middle looked => ?_
  have kept := steady_header?.remaining looked
  cases found with
  | none => rfl
  | some first =>
    have waiting : 8 ≤ middle.remaining := by
      simp [remaining, (header?_ok looked).2.2 rfl]
    obtain ⟨fuel, same⟩ : ∃ fuel, reader.remaining / 8 = fuel + 1 :=
      Nat.exists_eq_add_one.2 (by omega)
    rw [same, item_eq_items]
    simp only [bind_assoc, pure_bind]
    refine bind_congr_next fun header behind taken => ?_
    have fewer := steady_header.remaining taken
    have inner : value (itemsWithin fuel) header behind = value items header behind :=
      value_congr header fun entered same => itemsWithin_eq_of_le _ (by omega) le_rfl
    refine (bind_congr_step inner).trans (bind_congr_next fun value last read => ?_)
    have left := (steady_value (steady_headersLeft.behind steady_itemsWithin) header).remaining read
    exact bind_congr_step (itemsWithin_eq_of_le _ (by omega) le_rfl)

/-- The next item is passed over if its tag is not known, or refused, as the settings say. -/
def skipTurn (record : String) (known : List Tag) : Read (Option Unit) := do
  let some tag ← tag? | pure none
  if tag ∈ known then pure none
  else
    match (← get).config.unknownTags with
    | .reject => throw (.unknownTag record tag)
    | .skip =>
      let passed ← skip
      pure (some passed)

lemma skipTurn_progress {passed : Unit}
    (done : skipTurn record known reader = .ok (some passed) final) :
    final.remaining + 8 ≤ reader.remaining := by
  obtain ⟨found, middle, looked, done⟩ := bind_eq_ok.1 done
  have kept := steady_tag?.remaining looked
  cases found with
  | none => cases done
  | some tag =>
    simp only at done
    split at done
    · cases done
    · rw [get_bind] at done
      cases policy : middle.config.unknownTags with
      | reject =>
        rw [policy] at done
        cases done
      | skip =>
        rw [policy] at done
        have taken := remaining_of_some steady_skip done
        omega

lemma steady_skipTurn : Steady 0 (skipTurn record known) := by
  refine steady_tag?.behind fun found => ?_
  cases found with
  | none => exact steady_pure _
  | some tag =>
    simp only
    split
    · exact steady_pure _
    · refine steady_get.behind fun reader => ?_
      split
      · exact steady_throw _
      · exact (steady_skip.mono (Nat.zero_le _)).behind fun _ => steady_pure _

/-- Foreign items are passed over in a loop. -/
lemma loops_skipUnknown (record : String) (known : List Tag) :
    Loops (skipTurn record known) () (fun _ _ => ()) (skipUnknown record known) := by
  refine loops_within (fun fuel => ?_) skipTurn_progress
  rw [skipUnknownWithin, unroll, skipTurn, bind_assoc]
  refine congrArg _ (funext fun found => ?_)
  cases found with
  | none => rfl
  | some tag =>
    simp only
    split
    · rfl
    · rw [bind_assoc]
      refine congrArg _ (funext fun reader => ?_)
      cases reader.config.unknownTags with
      | reject => rfl
      | skip =>
        simp only [bind_assoc, pure_bind, bind_pure_unit]

/-- A look at the next tag can be repeated. -/
lemma tag?_again {found : Option Tag} (looked : tag? reader = .ok found final) :
    tag? final = .ok found final := by
  obtain ⟨header, middle, seen, kept⟩ := bind_eq_ok.1 looked
  obtain ⟨rfl, rfl⟩ := pure_eq_ok.1 kept
  refine bind_of_ok (?_ : header? middle = .ok header middle)
  obtain rfl | ⟨first, -, -, rfl, rfl⟩ | ⟨rfl, pending, top, unread, closed, rfl⟩ :=
    header?_eq_ok seen
  · exact seen
  · exact header?_of_pending rfl
  · refine (header?_eq_none_top ?_ ?_).2 ⟨?_, ?_, ?_⟩
    · exact pending
    · exact top
    · exact Source.unread_drained _
    · exact closed
    · rfl

/-- Foreign items are dealt with alike after a look at the first tag. -/
lemma skipUnknown_of_looked {found : Option Tag} (looked : tag? reader = .ok found final) :
    skipUnknown record known reader = skipUnknown record known final := by
  obtain ⟨next, unrolled⟩ : ∃ next, skipUnknown record known = tag? >>= next :=
    ⟨_, (loops_skipUnknown record known).unrolled.trans (bind_assoc _ _ _)⟩
  rw [unrolled, bind_of_ok looked, bind_of_ok (tag?_again looked)]

/-- Nothing is foreign at the end or in front of a known tag. -/
lemma skipUnknown_of_known {found : Option Tag} (looked : tag? reader = .ok found final)
    (mem : ∀ tag ∈ found, tag ∈ known) : skipUnknown record known reader = .ok () final := by
  cases found with
  | none => exact skipUnknownWithin_of_none looked
  | some tag => exact skipUnknownWithin_of_mem looked (mem tag rfl)

/-- In front of an unknown tag, another turn follows or the tag is refused. -/
lemma skipTurn_ne_none {middle : Reader} (looked : tag? reader = .ok (some tag) middle)
    (strange : tag ∉ known) : skipTurn record known reader ≠ .ok none final := by
  rw [skipTurn, bind_of_ok looked]
  simp only [strange, if_false]
  rw [get_bind]
  cases middle.config.unknownTags with
  | reject => exact nofun
  | skip =>
    intro turned
    obtain ⟨_, _, -, kept⟩ := bind_eq_ok.1 turned
    cases kept

/-- What follows foreign items that are dealt with is the end or a known tag. -/
lemma known_of_skipUnknown {passed : Unit} (done : skipUnknown record known reader = .ok passed final) :
    ∃ found, tag? final = .ok found final ∧ ∀ tag ∈ found, tag ∈ known := by
  induction left : reader.remaining using Nat.strongRecOn generalizing reader with
  | ind left ih =>
    subst left
    have loops := loops_skipUnknown record known
    obtain ⟨turned, -⟩ | ⟨first, middle, rest, turned, more, -⟩ := loops.eq_ok.1 done
    · obtain ⟨found, middle, looked, kept⟩ := bind_eq_ok.1 turned
      have mem : ∀ tag ∈ found, tag ∈ known := by
        rintro tag rfl
        by_contra strange
        exact skipTurn_ne_none looked strange turned
      have same : middle = final := by
        cases found with
        | none => exact (pure_eq_ok.1 kept).2
        | some tag =>
          simp only [mem tag rfl, if_true] at kept
          exact (pure_eq_ok.1 kept).2
      subst same
      exact ⟨found, tag?_again looked, mem⟩
    · have taken := loops.progress turned
      exact ih middle.remaining (by omega) more rfl

/-- A known tag behind the last field is refused, and foreign items in front of it are dealt with. -/
def tailTurn (record : String) (known : List Tag) : Read (Option Unit) := do
  let some tag ← tag? | pure none
  if tag ∈ known then throw (.unexpectedField record tag)
  let passed ← skipUnknown record known
  pure (some passed)

/-- If foreign items are dealt with in front of the first of them, it is passed over. -/
lemma tailTurn_progress {passed : Unit}
    (done : tailTurn record known reader = .ok (some passed) final) :
    final.remaining + 8 ≤ reader.remaining := by
  obtain ⟨found, middle, looked, done⟩ := bind_eq_ok.1 done
  have kept := steady_tag?.remaining looked
  cases found with
  | none => cases done
  | some tag =>
    obtain ⟨strange, done⟩ := guard_eq_ok.1 done
    obtain ⟨_, behind, passed, done⟩ := bind_eq_ok.1 done
    obtain ⟨-, rfl⟩ := pure_eq_ok.1 done
    have loops := loops_skipUnknown record known
    obtain ⟨turned, -⟩ | ⟨first, after, rest, turned, more, -⟩ := loops.eq_ok.1 passed
    · -- the tag that has been seen is still there
      exact absurd turned (skipTurn_ne_none (tag?_again looked) strange)
    · have taken := loops.progress turned
      have left := (steady_skipUnknown record known).remaining more
      omega

/-- What stands behind the last field is dealt with in a loop. -/
lemma loops_noFurtherField (record : String) (known : List Tag) :
    Loops (tailTurn record known) () (fun _ _ => ()) (noFurtherField record known) := by
  refine loops_of_unrolled (funext fun reader => ?_) tailTurn_progress
  rw [unroll, tailTurn, bind_assoc]
  obtain ⟨next, unrolled⟩ : ∃ next, skipUnknown record known = tag? >>= next :=
    ⟨_, (loops_skipUnknown record known).unrolled.trans (bind_assoc _ _ _)⟩
  cases looked : tag? reader with
  | error fault middle =>
    have failed : skipUnknown record known reader = .error fault middle := by
      rw [unrolled, bind_of_error looked]
    rw [noFurtherField, bind_of_error failed, bind_of_error looked]
  | ok found middle =>
    rw [bind_of_ok looked]
    by_cases mem : ∀ tag ∈ found, tag ∈ known
    · rw [noFurtherField, bind_of_ok (skipUnknown_of_known looked mem), bind_of_ok (tag?_again looked)]
      cases found with
      | none => rfl
      | some tag =>
        simp only [mem tag rfl, if_true]
        rfl
    · push Not at mem
      obtain ⟨tag, rfl, strange⟩ := mem
      simp only [strange, if_false, bind_assoc, pure_bind]
      rw [noFurtherField, bind_congr (skipUnknown_of_looked looked)]
      refine bind_congr_next fun _ behind passed => ?_
      -- foreign items are dealt with once only
      obtain ⟨found, seen, mem⟩ := known_of_skipUnknown passed
      rw [bind_pure_unit, bind_of_ok (skipUnknown_of_known seen mem)]

/-- The next item is read, and foreign ones behind it are dealt with, if it has this tag. -/
def repeatTurn (tag : Tag) (item : Read α) (between : Read Unit) : Read (Option α) := do
  if (← tag?) ≠ some tag then pure none
  else
    let first ← item
    between
    pure (some first)

lemma steady_repeatTurn {item : Read α} {between : Read Unit} (tag : Tag) (each : Steady 8 item)
    (gap : Steady 0 between) : Steady 0 (repeatTurn tag item between) := by
  refine steady_tag?.behind fun found => ?_
  split
  · exact steady_pure _
  · exact (each.mono (Nat.zero_le _)).behind fun _ => gap.behind fun _ => steady_pure _

/-- Items of one tag are read in a loop. -/
lemma loops_repeated {item : Read α} {between : Read Unit} (tag : Tag) (each : Steady 8 item)
    (gap : Steady 0 between) :
    Loops (repeatTurn tag item between) [] List.cons (repeated tag item between) := by
  refine loops_within (fun fuel => ?_) fun done => ?_
  · rw [repeatedWithin, unroll, repeatTurn, bind_assoc]
    refine congrArg _ (funext fun found => ?_)
    split
    · rfl
    · simp only [bind_assoc, pure_bind]
  · obtain ⟨found, middle, looked, done⟩ := bind_eq_ok.1 done
    have kept := steady_tag?.remaining looked
    split at done
    · cases done
    · have both : Steady 8 (do
          let first ← item
          between
          pure first) := each.bind fun first => gap.behind fun _ => steady_pure first
      have taken := remaining_of_some both (by simpa only [bind_assoc, pure_bind] using done)
      omega

end

end Kmip.Read
