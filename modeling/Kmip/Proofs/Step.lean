import Kmip.Proofs.Layout

/-!
# The steps of a reader

When a step succeeds, and where it leaves the reader. Every successful step moves the reader forward
by the bytes that it takes (`Reader.advance`). The header that comes next can be looked at without
taking it; whether that has happened makes no difference to what is read
(`Reader.MayLook.header?_eq`).
-/

namespace Kmip

/-- A run is in front of another one if its two parts are there one after the other. -/
lemma append_prefix_iff {front back whole : Bytes} :
    front ++ back <+: whole ↔ front <+: whole ∧ back <+: whole.drop front.length := by
  constructor
  · rintro ⟨rest, rfl⟩
    rw [List.append_assoc, List.drop_left]
    exact ⟨List.prefix_append _ _, List.prefix_append _ _⟩
  · rintro ⟨⟨rest, rfl⟩, back⟩
    rw [List.drop_left] at back
    exact List.prefix_append_right_inj front |>.2 back

namespace Reader

variable {reader : Reader}

/-- A reader with so many bytes taken. -/
def advance (reader : Reader) (count : Nat) : Reader :=
  { reader with source := (reader.source.pull count).2, offset := reader.offset + count }

/-- A reader that has looked at the next header. -/
def looking (reader : Reader) (header : Header) : Reader :=
  { reader.advance 8 with pending := some header }

/-- A reader inside a structure of so many bytes. -/
def entering (reader : Reader) (tag : Tag) (length : Nat) : Reader :=
  { reader with opened := ⟨tag, reader.offset, reader.offset + length⟩ :: reader.opened }

/-- No header has been looked at, and no structure lies too deep. -/
structure Settled (reader : Reader) : Prop where
  pending : reader.pending = none
  depth : reader.depth ≤ reader.config.maxDepth

@[simp] lemma config_advance (count : Nat) : (reader.advance count).config = reader.config := rfl

@[simp] lemma offset_advance (count : Nat) :
    (reader.advance count).offset = reader.offset + count := rfl

@[simp] lemma pending_advance (count : Nat) : (reader.advance count).pending = reader.pending := rfl

@[simp] lemma opened_advance (count : Nat) : (reader.advance count).opened = reader.opened := rfl

@[simp] lemma depth_advance (count : Nat) : (reader.advance count).depth = reader.depth := rfl

@[simp] lemma unread_advance (count : Nat) :
    (reader.advance count).source.unread = reader.source.unread.drop count :=
  Source.unread_pull count reader.source

@[simp] lemma unread_entering (tag : Tag) (length : Nat) :
    (reader.entering tag length).source.unread = reader.source.unread := rfl

@[simp] lemma config_entering (tag : Tag) (length : Nat) :
    (reader.entering tag length).config = reader.config := rfl

@[simp] lemma offset_entering (tag : Tag) (length : Nat) :
    (reader.entering tag length).offset = reader.offset := rfl

@[simp] lemma depth_entering (tag : Tag) (length : Nat) :
    (reader.entering tag length).depth = reader.depth + 1 := rfl

@[simp] lemma advance_zero : reader.advance 0 = reader := by
  simp [advance]

@[simp] lemma advance_advance (first second : Nat) :
    (reader.advance first).advance second = reader.advance (first + second) := by
  simp [advance, Nat.add_assoc]

/-- A structure is left where it was entered, but for the bytes that have been taken. -/
lemma leave_advance_entering (tag : Tag) (length count : Nat) :
    { (reader.entering tag length).advance count with opened := reader.opened } =
      reader.advance count := rfl

/-- A reader stays settled as it takes bytes. -/
lemma Settled.advance (settled : reader.Settled) (count : Nat) : (reader.advance count).Settled :=
  ⟨settled.pending, settled.depth⟩

/-- A reader stays settled as it enters a structure that does not lie too deep. -/
lemma Settled.entering (settled : reader.Settled) (shallow : reader.depth < reader.config.maxDepth)
    (tag : Tag) (length : Nat) : (reader.entering tag length).Settled :=
  ⟨settled.pending, shallow⟩

/-- The header comes next, and is not refused. -/
structure Shows (reader : Reader) (header : Header) : Prop where
  inside : reader.atStop = false
  unread : header.bytes <+: reader.source.unread
  fits : header.Fits
  within : header.isStructure = false → header.length ≤ reader.config.maxValueLength

/-- A reader may have looked at the next header. -/
def MayLook (reader seen : Reader) : Prop :=
  seen = reader ∨ ∃ header, reader.Shows header ∧ seen = reader.looking header

/-- A reader that has not looked. -/
lemma MayLook.refl : reader.MayLook reader :=
  .inl rfl

end Reader

namespace Read

open Reader

variable {α β : Type} {reader final : Reader}

/-- Two steps succeed if the first does, and the second on its result. -/
lemma bind_eq_ok {step : Read α} {next : α → Read β} {result : β} :
    (step >>= next) reader = .ok result final ↔
      ∃ value middle, step reader = .ok value middle ∧ next value middle = .ok result final := by
  simp only [bind, EStateM.bind]
  cases step reader <;> simp

/-- After a step that succeeds, the next one goes on with its result. -/
lemma bind_of_ok {step : Read α} {next : α → Read β} {value : α} {middle : Reader}
    (done : step reader = .ok value middle) : (step >>= next) reader = next value middle := by
  simp only [bind, EStateM.bind, done]

/-- After a step that fails, no further one is made. -/
lemma bind_of_error {step : Read α} {next : α → Read β} {fault : Fault} {middle : Reader}
    (failed : step reader = .error fault middle) :
    (step >>= next) reader = .error fault middle := by
  simp only [bind, EStateM.bind, failed]

/-- After a step with such a result, the first of two branches is taken. -/
lemma bind_if_pos {p : α → Prop} [DecidablePred p] {step : Read α} {yes no : α → Read β} {value : α}
    {middle : Reader} (done : step reader = .ok value middle) (held : p value) :
    (step >>= fun value => if p value then yes value else no value) reader = yes value middle := by
  rw [bind_of_ok done, if_pos held]

/-- After a step without such a result, the second of two branches is taken. -/
lemma bind_if_neg {p : α → Prop} [DecidablePred p] {step : Read α} {yes no : α → Read β} {value : α}
    {middle : Reader} (done : step reader = .ok value middle) (failed : ¬ p value) :
    (step >>= fun value => if p value then yes value else no value) reader = no value middle := by
  rw [bind_of_ok done, if_neg failed]

/-- A step that does nothing. -/
lemma pure_eq_ok {value result : α} :
    (pure value : Read α) reader = .ok result final ↔ value = result ∧ reader = final := by
  simp [pure, EStateM.pure]

/-- A step that fails. -/
lemma throw_eq_ok {fault : Fault} {result : α} :
    (throw fault : Read α) reader = .ok result final ↔ False := by
  refine iff_false_intro fun failed => ?_
  cases failed

/-- A step without the reader. -/
lemma lift_eq_ok {step : Except Fault α} {result : α} :
    lift step reader = .ok result final ↔ step = .ok result ∧ reader = final := by
  cases step <;> simp [lift, pure_eq_ok, throw_eq_ok]

/-- What a check lets through. -/
lemma guard_eq_ok {refused : Prop} [Decidable refused] {fault : Fault} {stuck : α → Read β}
    {next : Read β} {result : β} :
    (if refused then throw fault >>= stuck else next) reader = .ok result final ↔
      ¬ refused ∧ next reader = .ok result final := by
  split
  · next h => simp [h, bind_eq_ok, throw_eq_ok]
  · next h => simp [h]

/-- What follows a step that does the same to two readers does the same to them. -/
lemma bind_congr {step : Read α} {next : α → Read β} {left right : Reader}
    (same : step left = step right) : (step >>= next) left = (step >>= next) right := by
  simp only [bind, EStateM.bind, same]

/-- The next header is looked at. -/
lemma header?_eq_some {header : Header} (settled : reader.pending = none) :
    header? reader = .ok (some header) final ↔
      reader.Shows header ∧ final = reader.looking header := by
  have read : Header.ofBytes? (reader.source.unread.take 8) = some header ↔
      header.bytes <+: reader.source.unread ∧ header.Fits := by
    rw [Header.ofBytes?_eq_some, List.prefix_iff_eq_take, Header.length_bytes, eq_comm]
  -- a reader shows a header exactly if none of the checks below refuses it
  unfold header?
  simp only [settled, Option.isSome_none, Bool.false_eq_true, if_false, Source.pull_fst]
  split
  · next stop =>
    have outside : ¬ reader.Shows header := fun shows => by simp [shows.inside] at stop
    simp [outside]
  · next inside =>
    cases found : Header.ofBytes? (reader.source.unread.take 8) with
    | none =>
      have absent : ¬ reader.Shows header := fun shows => by
        simp [read.2 ⟨shows.unread, shows.fits⟩] at found
      simp only [absent, false_and, iff_false]
      split
      · simp
      · split <;> simp
    | some other =>
      obtain ⟨spelled, -⟩ := Header.ofBytes?_eq_some.1 found
      simp only
      split
      · next large =>
        have refused : ¬ reader.Shows header := fun shows => by
          obtain rfl : other = header := by
            simpa [found] using read.2 ⟨shows.unread, shows.fits⟩
          have within := shows.within (by simpa using large.1)
          omega
        simp [refused]
      · next small =>
        simp only [EStateM.Result.ok.injEq, Option.some.injEq]
        constructor
        · rintro ⟨rfl, rfl⟩
          obtain ⟨unread, fits⟩ := read.1 found
          refine ⟨⟨by simpa using inside, unread, fits, ?_⟩, ?_⟩
          · intro single
            by_contra large
            exact small ⟨by simp [single], Nat.lt_of_not_le large⟩
          · simp [looking, advance, spelled]
        · rintro ⟨shows, rfl⟩
          obtain rfl : other = header := by
            simpa [found] using read.2 ⟨shows.unread, shows.fits⟩
          exact ⟨rfl, by simp [looking, advance, spelled]⟩

/-- No header is left in a structure exactly at its end. -/
lemma header?_eq_none (settled : reader.pending = none) (inner : reader.opened ≠ []) :
    header? reader = .ok none final ↔ reader.atStop = true ∧ final = reader := by
  unfold header?
  simp only [settled, Option.isSome_none, Bool.false_eq_true, if_false, inner, and_false]
  split
  · next stop => simp [stop, eq_comm]
  · next inside =>
    simp only [inside, Bool.false_eq_true, false_and, iff_false]
    split
    · split <;> simp
    · split <;> simp

end Read

namespace Reader

variable {reader seen : Reader}

/-- A reader that has looked at the next header finds it again. -/
lemma MayLook.header?_eq (look : reader.MayLook seen) (settled : reader.pending = none) :
    Read.header? seen = Read.header? reader := by
  obtain rfl | ⟨header, shows, rfl⟩ := look
  · rfl
  · rw [(Read.header?_eq_some settled).2 ⟨shows, rfl⟩]
    rfl

/-- Looking at a header does not change how many bytes are left. -/
lemma MayLook.remaining_eq (look : reader.MayLook seen) (settled : reader.pending = none) :
    seen.remaining = reader.remaining := by
  obtain rfl | ⟨header, shows, rfl⟩ := look
  · rfl
  · have length := shows.unread.length_le
    rw [Header.length_bytes] at length
    simp only [remaining, looking, unread_advance, settled, List.length_drop, Option.isSome_some,
      Option.isSome_none, if_true, Bool.false_eq_true, if_false]
    omega

end Reader

namespace Read

open Reader

variable {reader final : Reader}

/-- A header that was looked at counts as taken. -/
lemma dropPending_looking {header : Header} {result : Unit} (settled : reader.pending = none) :
    dropPending (reader.looking header) = .ok result final ↔ final = reader.advance 8 := by
  have dropped : { reader.looking header with pending := none } = reader.advance 8 := by
    simp [looking, advance, settled]
  have done : dropPending (reader.looking header) = .ok () (reader.advance 8) :=
    congrArg (EStateM.Result.ok ()) dropped
  simp [done, eq_comm]

/-- The next header is taken. -/
lemma header_eq_ok {header : Header} (settled : reader.pending = none) :
    Read.header reader = .ok header final ↔ reader.Shows header ∧ final = reader.advance 8 := by
  simp only [Read.header, bind_eq_ok]
  constructor
  · rintro ⟨found, middle, looked, rest⟩
    cases found with
    | none => exact (throw_eq_ok.1 rest).elim
    | some other =>
      obtain ⟨shows, rfl⟩ := (header?_eq_some settled).1 looked
      obtain ⟨_, _, dropped, kept⟩ := bind_eq_ok.1 rest
      obtain rfl := (dropPending_looking settled).1 dropped
      obtain ⟨rfl, rfl⟩ := pure_eq_ok.1 kept
      exact ⟨shows, rfl⟩
  · rintro ⟨shows, rfl⟩
    refine ⟨some header, _, (header?_eq_some settled).2 ⟨shows, rfl⟩, ?_⟩
    exact bind_eq_ok.2 ⟨(), _, (dropPending_looking settled).2 rfl, pure_eq_ok.2 ⟨rfl, rfl⟩⟩

/-- A header that has been looked at is taken like any other. -/
lemma header_looking {header : Header} (settled : reader.pending = none)
    (shows : reader.Shows header) :
    Read.header (reader.looking header) = .ok header (reader.advance 8) := by
  have look : reader.MayLook (reader.looking header) := .inr ⟨header, shows, rfl⟩
  have same : Read.header (reader.looking header) = Read.header reader :=
    bind_congr (look.header?_eq settled)
  exact same.trans ((header_eq_ok settled).2 ⟨shows, rfl⟩)

/-- The next header is taken if it is the expected one. -/
lemma expect_eq_ok {tag : Tag} {type : ItemType} {length : Nat} (settled : reader.pending = none) :
    expect tag type reader = .ok length final ↔
      reader.Shows ⟨tag, type.byte, length⟩ ∧ final = reader.advance 8 := by
  simp only [expect, bind_eq_ok]
  constructor
  · rintro ⟨found, middle, looked, rest⟩
    cases found with
    | none => exact (throw_eq_ok.1 rest).elim
    | some header =>
      obtain ⟨shows, rfl⟩ := (header?_eq_some settled).1 looked
      simp only [guard_eq_ok, not_not] at rest
      obtain ⟨rfl, byte, rest⟩ := rest
      obtain ⟨_, _, dropped, kept⟩ := bind_eq_ok.1 rest
      obtain rfl := (dropPending_looking settled).1 dropped
      obtain ⟨rfl, rfl⟩ := pure_eq_ok.1 kept
      exact ⟨byte ▸ shows, rfl⟩
  · rintro ⟨shows, rfl⟩
    refine ⟨some _, _, (header?_eq_some settled).2 ⟨shows, rfl⟩, ?_⟩
    simp only [guard_eq_ok, not_not, true_and]
    exact bind_eq_ok.2 ⟨(), _, (dropPending_looking settled).2 rfl, pure_eq_ok.2 ⟨rfl, rfl⟩⟩

/-- Bytes are taken if there are enough. -/
lemma bytes_eq_ok {count : Nat} {content : Bytes} :
    Read.bytes count reader = .ok content final ↔
      content.length = count ∧ content <+: reader.source.unread ∧
        final = reader.advance count := by
  have taken : content <+: reader.source.unread ∧ content.length = count ↔
      (reader.source.unread.take count).length = count ∧
        reader.source.unread.take count = content := by
    rw [List.prefix_iff_eq_take]
    constructor
    · rintro ⟨same, rfl⟩
      exact ⟨by rw [← same], same.symm⟩
    · rintro ⟨enough, rfl⟩
      rw [enough]
      exact ⟨rfl, rfl⟩
  simp only [Read.bytes, Source.pull_fst]
  rw [← and_assoc, and_comm (a := content.length = count), taken]
  split
  · next enough => simp [enough, advance, eq_comm]
  · next few => simp only [few, false_and, reduceCtorEq]

/-- Padding is taken if it is zeros. -/
lemma padding_eq_ok {tag : Tag} {length : Nat} {result : Unit} :
    padding tag length reader = .ok result final ↔
      Bytes.zeros (paddingLength length) <+: reader.source.unread ∧
        final = reader.advance (paddingLength length) := by
  simp only [padding, bind_eq_ok, bytes_eq_ok]
  constructor
  · rintro ⟨bytes, _, ⟨count, unread, rfl⟩, rest⟩
    split at rest
    · exact (throw_eq_ok.1 rest).elim
    · next zero =>
      obtain ⟨-, rfl⟩ := pure_eq_ok.1 rest
      have zeros : bytes = Bytes.zeros (paddingLength length) :=
        List.eq_replicate_iff.2 ⟨count, by simpa using zero⟩
      exact ⟨zeros ▸ unread, rfl⟩
  · rintro ⟨unread, rfl⟩
    refine ⟨_, _, ⟨Bytes.length_zeros _, unread, rfl⟩, ?_⟩
    simp [Bytes.zeros, pure_eq_ok]

/-- A content is taken with its padding if it denotes a value. -/
lemma content_eq_ok {type : ScalarType} {tag : Tag} {length : Nat} {value : type.Content} :
    content type tag length reader = .ok value final ↔
      ∃ bytes : Bytes, bytes.length = length ∧
        bytes ++ Bytes.zeros (paddingLength length) <+: reader.source.unread ∧
        type.Denotes bytes value ∧ final = reader.advance (length + paddingLength length) := by
  simp only [content, bind_eq_ok, lift_eq_ok, bytes_eq_ok, padding_eq_ok]
  constructor
  · rintro ⟨_, _, ⟨check, rfl⟩, bytes, _, ⟨rfl, unread, rfl⟩, _, _, ⟨zeros, rfl⟩, decoded, rfl⟩
    rw [unread_advance] at zeros
    exact ⟨bytes, rfl, append_prefix_iff.2 ⟨unread, zeros⟩,
      ScalarType.denotes_iff.2 ⟨check, decoded⟩, advance_advance _ _⟩
  · rintro ⟨bytes, rfl, unread, denoted, rfl⟩
    obtain ⟨check, decoded⟩ := ScalarType.denotes_iff.1 denoted
    obtain ⟨unread, zeros⟩ := append_prefix_iff.1 unread
    refine ⟨(), _, ⟨check, rfl⟩, bytes, _, ⟨rfl, unread, rfl⟩, (), _, ⟨?_, rfl⟩, decoded, ?_⟩
    · rwa [unread_advance]
    · rw [advance_advance]

/-- A structure is entered if it lies not too deep, and within the one around it. -/
lemma enter_eq_ok {tag : Tag} {length : Nat} {result : Unit} :
    enter tag length reader = .ok result final ↔
      reader.depth < reader.config.maxDepth ∧
        (∀ parent ∈ reader.opened.head?, reader.offset + length ≤ parent.stop) ∧
        final = reader.entering tag length := by
  unfold enter
  split
  · next deep => simp [Nat.not_lt.2 deep]
  · next shallow =>
    have shallow := Nat.lt_of_not_le shallow
    cases opened : reader.opened with
    | nil => simp [shallow, entering, opened, eq_comm]
    | cons parent outer =>
      simp only [List.head?_cons, Option.mem_some_iff, forall_eq']
      split
      · next long => simp [Nat.not_le.2 long]
      · next short => simp [shallow, entering, opened, Nat.le_of_not_lt short, eq_comm]

/-- A structure is left at its end. -/
lemma structureEnd_eq_ok {result : Unit} :
    structureEnd reader = .ok result final ↔
      ∃ left outer, reader.opened = left :: outer ∧ reader.pending = none ∧
        reader.offset = left.stop ∧ final = { reader with opened := outer } := by
  unfold structureEnd
  cases opened : reader.opened with
  | nil => simp
  | cons left outer =>
    simp only [List.cons.injEq]
    split
    · next wrong =>
      simp only [reduceCtorEq, false_iff]
      rintro ⟨_, _, ⟨rfl, rfl⟩, pending, stop, -⟩
      simp [pending, stop] at wrong
    · next right =>
      rw [not_or, Bool.not_eq_true, Option.isSome_eq_false_iff, Option.isNone_iff_eq_none,
        not_not] at right
      constructor
      · intro done
        exact ⟨_, _, ⟨rfl, rfl⟩, right.1, right.2, (EStateM.Result.ok.inj done).2.symm⟩
      · rintro ⟨_, _, ⟨rfl, rfl⟩, -, -, rfl⟩
        rfl

/-- Bytes are passed over if there are enough. -/
lemma pass_eq_ok {count : Nat} {result : Unit} :
    pass count reader = .ok result final ↔
      count ≤ reader.source.unread.length ∧ final = reader.advance count := by
  simp only [pass, Source.pull_fst, List.length_take]
  split
  · next enough =>
    have enough : count ≤ reader.source.unread.length := by omega
    simp [enough, advance, eq_comm]
  · next few =>
    have few : ¬ count ≤ reader.source.unread.length := by omega
    split <;> simp [few]

/-- Nothing follows exactly if the source is closed and used up. -/
lemma finish_eq_ok {result : Unit} :
    finish reader = .ok result final ↔
      reader.source.ending = .closed ∧ reader.remaining = 0 ∧
        final = { reader with source := reader.source.drained } := by
  unfold finish
  cases reader.source.ending with
  | broken report => simp
  | closed =>
    simp only [true_and]
    split
    · next more => simp [Nat.ne_of_gt more]
    · next none => simp [Nat.eq_zero_of_not_pos none, eq_comm]

end Read

end Kmip
