import Kmip.Proofs.Delimited

/-!
# Reading beyond the end of a message

The reader of a record takes bytes behind a message exactly if it would notice a source that breaks
there (`Record.inside_iff`). It does so only if something in the message runs past the end of what it
stands in (`Overruns`): a header, a value, or an item that is passed over. A structure that is entered
is held against the one around it, and refused before it is read. So what is left of a message that is
contained in its ends stays in front of the reader at every step (`Read.lawful_alone`).

An item that straddles the end of a message is noticed only when the structure around it is left,
behind its bytes (`Record.readFrom_beyond`).
-/

namespace Kmip

/-- The item behind the header is taken without regard to the end of what it stands in: as a value of
a length that its type allows, or passed over, if that is what is done with foreign items. -/
structure Header.Unchecked (config : Config) (header : Header) : Prop where
  fits : header.Fits
  within : header.isStructure = false → header.length ≤ config.maxValueLength
  taken : config.unknownTags = .skip ∨ ∃ type, ItemType.ofByte? header.type = some (.scalar type) ∧
    type.checkLength header.length = .ok ()

/-- Among these items, one runs past the end of what it stands in, and is not refused for that before
its bytes are taken. -/
inductive Overruns (config : Config) : Bytes → Prop
  /-- The header itself is cut. -/
  | header {content : Bytes} (some : content ≠ []) (few : content.length < 8) :
      Overruns config content
  /-- What follows the header is. -/
  | item {header : Header} {body : Bytes} (unchecked : header.Unchecked config)
      (few : body.length < header.span) : Overruns config (header.bytes ++ body)
  /-- It is an item of a structure among these items. -/
  | inner {header : Header} {body behind : Bytes} (fits : header.Fits)
      (structured : header.isStructure) (whole : body.length = header.span)
      (inside : Overruns config body) : Overruns config (header.bytes ++ (body ++ behind))
  /-- It is an item behind the first one. -/
  | later {header : Header} {body behind : Bytes} (fits : header.Fits)
      (whole : body.length = header.span) (more : Overruns config behind) :
      Overruns config (header.bytes ++ (body ++ behind))

/-- Where foreign items are refused, a structure does not overrun what it stands in: it is held against
that as it is entered. -/
theorem not_overruns_of_structure {config : Config} {header : Header} {body : Bytes}
    (fits : header.Fits) (structured : header.isStructure) (reject : config.unknownTags = .reject)
    (few : body.length < header.span) : ¬ Overruns config (header.bytes ++ body) := by
  intro overruns
  generalize spelled : header.bytes ++ body = content at overruns
  cases overruns with
  | header some cut =>
    rw [← spelled, List.length_append, Header.length_bytes] at cut
    omega
  | item unchecked =>
    obtain ⟨rfl, rfl⟩ := Header.append_inj fits unchecked.fits spelled
    rcases unchecked.taken with skip | ⟨type, known, -⟩
    · cases reject.symm.trans skip
    · rw [Header.isStructure, ← ItemType.byte_of_ofByte? known] at structured
      cases type <;> cases structured
  | inner fits' _ whole =>
    obtain ⟨rfl, rfl⟩ := Header.append_inj fits fits' spelled
    rw [List.length_append] at few
    omega
  | later fits' whole =>
    obtain ⟨rfl, rfl⟩ := Header.append_inj fits fits' spelled
    rw [List.length_append] at few
    omega

namespace Read

open Reader

variable {α β : Type} {config : Config} {rest : Bytes} {header : Header} {reader final : Reader}

/-- The step takes so many bytes at most. -/
def Sparing (most : Nat) (step : Read α) : Prop :=
  ∀ reader : Reader, reader.source.unread.length ≤ unreadAfter (step reader) + most

lemma sparing_pure (value : α) : Sparing 0 (pure value) :=
  fun _ => le_rfl

lemma sparing_throw (fault : Fault) : Sparing 0 (throw fault : Read α) :=
  fun _ => le_rfl

lemma sparing_lift (found : Except Fault α) : Sparing 0 (lift found) := by
  cases found with
  | ok value => exact sparing_pure value
  | error fault => exact sparing_throw fault

lemma Sparing.bind {first second : Nat} {step : Read α} {next : α → Read β}
    (sparing : Sparing first step) (behind : ∀ value, Sparing second (next value)) :
    Sparing (first + second) (step >>= next) := by
  intro reader
  have most := sparing reader
  cases done : step reader with
  | ok value middle =>
    have more := behind value middle
    rw [done] at most
    rw [bind_of_ok done]
    change reader.source.unread.length ≤ middle.source.unread.length + first at most
    omega
  | error fault middle =>
    rw [done] at most
    rw [bind_of_error done]
    change reader.source.unread.length ≤ middle.source.unread.length + first at most
    change reader.source.unread.length ≤ middle.source.unread.length + (first + second)
    omega

/-- What is not pulled from a source stays in it. -/
lemma length_unread_le_pull (source : Source) (count : Nat) :
    source.unread.length ≤ (source.pull count).2.unread.length + count := by
  rw [Source.unread_pull, List.length_drop]
  omega

lemma sparing_bytes (count : Nat) : Sparing count (Read.bytes count) := by
  intro reader
  rw [unreadAfter, source_left_bytes]
  exact length_unread_le_pull _ _

lemma sparing_header? : Sparing 8 header? := by
  intro reader
  obtain ⟨count, le, same⟩ := exists_source_left_header? reader
  rw [unreadAfter, same]
  exact (length_unread_le_pull _ count).trans (Nat.add_le_add_left le _)

lemma sparing_expect (tag : Tag) (type : ItemType) : Sparing 8 (expect tag type) := by
  refine sparing_header?.bind fun found => (?_ : Sparing 0 _)
  cases found with
  | none => exact sparing_throw _
  | some header =>
    simp only
    split
    · exact sparing_throw _
    · split
      · exact sparing_throw _
      · exact fun _ => le_rfl

lemma sparing_enter (tag : Tag) (length : Nat) : Sparing 0 (enter tag length) := by
  intro reader
  rw [unreadAfter, source_left_enter]
  exact le_rfl

/-- A content takes its bytes and its padding at most. -/
lemma sparing_content (type : ScalarType) (tag : Tag) (length : Nat) :
    Sparing (length + paddingLength length) (content type tag length) := by
  have padded : Sparing (paddingLength length) (padding tag length) := by
    refine (sparing_bytes _).bind fun bytes => (?_ : Sparing 0 _)
    split
    · exact sparing_throw _
    · exact sparing_pure _
  have sparing := (sparing_lift (type.checkLength length)).bind fun _ =>
    (sparing_bytes length).bind fun content => padded.bind fun _ => sparing_lift (type.decode content)
  rw [Nat.zero_add, Nat.add_zero] at sparing
  exact sparing

/-- The bytes to come are those of the structures that are open, up to the end of each of them, in
which nothing overruns, and what is behind the outermost one. -/
def Lies (config : Config) (rest : Bytes) : List OpenStructure → (offset : Nat) → Bytes → Prop
  | [], _, unread => unread = rest
  | innermost :: outer, offset, unread => ∃ content around, unread = content ++ around ∧
      ¬ Overruns config content ∧ offset + content.length = innermost.stop ∧
        Lies config rest outer innermost.stop around

/-- They are, with a header that has been taken in front of them. -/
def Begun (config : Config) (rest : Bytes) (header : Header) (reader : Reader) : Prop :=
  ∃ innermost outer body around, reader.opened = innermost :: outer ∧
    reader.source.unread = body ++ around ∧ header.Fits ∧
      (header.isStructure = false → header.length ≤ config.maxValueLength) ∧
        ¬ Overruns config (header.bytes ++ body) ∧
          reader.offset + body.length = innermost.stop ∧ Lies config rest outer innermost.stop around

/-- A reader in a message of which the bytes behind are known. -/
structure Contained (config : Config) (rest : Bytes) (reader : Reader) : Prop where
  config_eq : reader.config = config
  lies : reader.pending = none → Lies config rest reader.opened reader.offset reader.source.unread
  begun : ∀ header, reader.pending = some header → Begun config rest header reader

lemma Lies.length_le {opened : List OpenStructure} {offset : Nat} {unread : Bytes}
    (lies : Lies config rest opened offset unread) : rest.length ≤ unread.length := by
  induction opened generalizing offset unread with
  | nil => exact (congrArg List.length lies).ge
  | cons innermost outer ih =>
    obtain ⟨content, around, rfl, -, -, lies⟩ := lies
    rw [List.length_append]
    exact (ih lies).trans (Nat.le_add_left _ _)

lemma Begun.length_le (begun : Begun config rest header reader) :
    rest.length ≤ reader.source.unread.length := by
  obtain ⟨_, _, body, around, -, unread, -, -, -, -, lies⟩ := begun
  rw [unread, List.length_append]
  exact lies.length_le.trans (Nat.le_add_left _ _)

lemma Contained.length_le (contained : Contained config rest reader) :
    rest.length ≤ reader.source.unread.length := by
  cases pending : reader.pending with
  | none => exact (contained.lies pending).length_le
  | some header => exact (contained.begun header pending).length_le

/-- Of enough bytes, the first ones are so many. -/
lemma exists_append {content : Bytes} {count : Nat} (enough : count ≤ content.length) :
    ∃ body behind, content = body ++ behind ∧ body.length = count :=
  ⟨_, _, (List.take_append_drop count content).symm, List.length_take_of_le enough⟩

/-- Where an item is taken unchecked, there are all its bytes, and nothing overruns behind it. -/
lemma Begun.split (begun : Begun config rest header reader) (config_eq : reader.config = config)
    (pending : reader.pending = none)
    (taken : config.unknownTags = .skip ∨ ∃ type,
      ItemType.ofByte? header.type = some (.scalar type) ∧ type.checkLength header.length = .ok ()) :
    ∃ body around, reader.source.unread = body ++ around ∧ body.length = header.span ∧
      Contained config rest (reader.advance header.span) := by
  obtain ⟨innermost, outer, content, around, opened, unread, fits, within, fine, stop, lies⟩ := begun
  have enough : header.span ≤ content.length := by
    by_contra few
    exact fine (.item ⟨fits, within, taken⟩ (Nat.lt_of_not_le few))
  obtain ⟨body, behind, rfl, length⟩ := exists_append enough
  rw [List.append_assoc] at unread
  refine ⟨body, behind ++ around, unread, length, config_eq, fun _ => ?_, fun header waiting => ?_⟩
  · rw [unread_advance, unread, ← length, List.drop_left, opened_advance, opened]
    refine ⟨behind, around, rfl, fun later => fine (.later fits length later), ?_, lies⟩
    rw [offset_advance, ← stop, List.length_append, Nat.add_assoc]
  · rw [pending_advance, pending] at waiting
    cases waiting

/-- A reader of a message in which nothing overruns, beside itself: it stays in front of the bytes
behind the message, also where it fails. -/
def alone (config : Config) (rest : Bytes) : Pairing where
  Near cut full := cut = full ∧ Contained config rest full
  Behind header cut full := cut = full ∧ full.config = config ∧ full.pending = none ∧
    Begun config rest header full
  Ready reader := reader.opened ≠ []
  Ended _ whole := ∃ fault last, whole = .error fault last ∧ rest.length ≤ last.source.unread.length

lemma final_alone : (alone config rest).Final where
  throw fault near := ⟨fault, _, rfl, near.2.length_le⟩
  bind ended _ := by
    obtain ⟨fault, last, failed, le⟩ := ended
    exact ⟨fault, last, bind_of_error failed, le⟩

/-- A header that is found is waiting. -/
lemma pending_of_header? (looked : header? reader = .ok (some header) final) :
    final.pending = some header := by
  cases pending : reader.pending with
  | none =>
    obtain ⟨-, rfl⟩ := (header?_eq_some pending).1 looked
    rfl
  | some waiting =>
    rw [header?_of_pending (by rw [pending]; rfl)] at looked
    obtain ⟨same, rfl⟩ := EStateM.Result.ok.inj looked
    exact same

/-- A look at the next header finds the end of the innermost structure, or all eight bytes in it. -/
lemma Contained.meets_header? (contained : Contained config rest reader) (inner : reader.opened ≠ []) :
    (alone config rest).Meets (fun _ => (alone config rest).Near) (header? reader)
      (header? reader) := by
  cases pending : reader.pending with
  | some waiting =>
    rw [header?_of_pending (by rw [pending]; rfl)]
    exact .ok ⟨rfl, contained⟩
  | none =>
    cases inside : reader.atStop with
    | true =>
      rw [header?_of_atStop pending inside]
      exact .ok ⟨rfl, contained⟩
    | false =>
      have lies := contained.lies pending
      obtain ⟨innermost, outer, opened⟩ := List.exists_cons_of_ne_nil inner
      rw [opened] at lies
      obtain ⟨content, around, unread, fine, stop, lies⟩ := lies
      have enough : 8 ≤ content.length := by
        by_contra few
        refine fine (.header ?_ (Nat.lt_of_not_le few))
        rintro rfl
        simp [atStop, opened, ← stop] at inside
      have first : reader.source.unread.take 8 = content.take 8 := by
        rw [unread, List.take_append_of_le_length enough]
      obtain ⟨header, read⟩ := Header.exists_ofBytes? (List.length_take_of_le enough)
      obtain ⟨spelled, fits⟩ := Header.ofBytes?_eq_some.1 read
      have left : (reader.advance 8).source.unread = content.drop 8 ++ around := by
        rw [unread_advance, unread, List.drop_append_of_le_length enough]
      rw [header?_of_ofBytes? pending inside (first ▸ read)]
      split
      · refine .ended ⟨_, _, rfl, ?_⟩
        rw [left, List.length_append]
        exact lies.length_le.trans (Nat.le_add_left _ _)
      · next taken =>
        refine .ok ⟨rfl, contained.config_eq, fun absent => ?_, fun other waiting => ?_⟩
        · cases absent
        obtain rfl : header = other := Option.some.inj waiting
        refine ⟨innermost, outer, content.drop 8, around, opened, left, fits, fun single => ?_, ?_, ?_,
          lies⟩
        · by_contra large
          rw [contained.config_eq] at taken
          exact taken ⟨by simp [single], Nat.lt_of_not_le large⟩
        · rwa [← spelled, List.take_append_drop]
        · rw [List.length_drop]
          change reader.offset + 8 + (content.length - 8) = innermost.stop
          omega

/-- A header that must be there leads to its item. -/
lemma Contained.meets_front (contained : Contained config rest reader) (inner : reader.opened ≠ []) :
    (alone config rest).Meets
      (fun header cut full => (alone config rest).Near cut full ∧
        (alone config rest).Behind header { cut with pending := none }
          { full with pending := none })
      (front reader) (front reader) := by
  refine final_alone.meets_bind (contained.meets_header? inner)
    (fun found last middle _ looked near => ?_) taking_found
  cases found with
  | none => exact .ended (final_alone.throw _ near)
  | some header =>
    obtain ⟨rfl, contained⟩ := near
    exact .ok ⟨⟨rfl, contained⟩, rfl, contained.config_eq, rfl,
      contained.begun header (pending_of_header? looked)⟩

/-- A value has all its bytes, or is refused for its length. -/
lemma Begun.meets_content {type : ScalarType} (begun : Begun config rest header reader) (tag : Tag)
    (known : ItemType.ofByte? header.type = some (.scalar type)) (config_eq : reader.config = config)
    (pending : reader.pending = none) :
    (alone config rest).Meets (fun _ => (alone config rest).Near)
      (content type tag header.length reader) (content type tag header.length reader) := by
  have single : header.isStructure = false := by
    have byte := ItemType.byte_of_ofByte? known
    rw [Header.isStructure, ← byte]
    cases type <;> rfl
  have span : header.span = header.length + paddingLength header.length := by
    rw [Header.span, single]
    rfl
  cases check : type.checkLength header.length with
  | error fault =>
    have refused : content type tag header.length reader = .error fault reader := by
      rw [content, check]
      rfl
    rw [refused]
    exact .ended ⟨fault, reader, rfl, begun.length_le⟩
  | ok =>
    obtain ⟨body, around, unread, length, behind⟩ :=
      begun.split config_eq pending (.inr ⟨type, known, check⟩)
    have sparing := sparing_content type tag header.length reader
    have le := behind.length_le
    rw [unread_advance, List.length_drop] at le
    cases done : content type tag header.length reader with
    | ok value final =>
      obtain ⟨_, _, _, _, rfl⟩ := content_eq_ok.1 done
      rw [← span]
      exact .ok ⟨rfl, behind⟩
    | error fault last =>
      rw [done] at sparing
      refine .ended ⟨fault, last, rfl, ?_⟩
      simp only [unreadAfter, left] at sparing
      have total := congrArg List.length unread
      rw [List.length_append] at total
      omega

/-- An item that is passed over has all its bytes. -/
lemma Begun.meets_pass (begun : Begun config rest header reader)
    (skip : reader.config.unknownTags = .skip) (config_eq : reader.config = config)
    (pending : reader.pending = none) :
    (alone config rest).Meets (fun _ => (alone config rest).Near)
      (pass header.span reader) (pass header.span reader) := by
  obtain ⟨body, around, unread, length, behind⟩ :=
    begun.split config_eq pending (.inl (config_eq ▸ skip))
  have enough : header.span ≤ reader.source.unread.length := by
    rw [unread, List.length_append, length]
    exact Nat.le_add_right _ _
  have passed : pass header.span reader = .ok () (reader.advance header.span) :=
    pass_eq_ok.2 ⟨enough, rfl⟩
  rw [passed]
  exact .ok ⟨rfl, behind⟩

/-- A structure that runs past the end of the one around it is not entered. -/
lemma Begun.meets_enter (begun : Begun config rest header reader) (tag : Tag)
    (known : ItemType.ofByte? header.type = some .structured) (config_eq : reader.config = config)
    (pending : reader.pending = none) :
    (alone config rest).Meets (fun _ => (alone config rest).Near)
      (enter tag header.length reader) (enter tag header.length reader) := by
  have structured : header.isStructure := by
    have byte := ItemType.byte_of_ofByte? known
    rw [Header.isStructure, ← byte]
    rfl
  have span : header.span = header.length := by
    rw [Header.span, structured]
    rfl
  cases done : enter tag header.length reader with
  | error fault last =>
    have sparing := sparing_enter tag header.length reader
    rw [done] at sparing
    exact .ended ⟨fault, last, rfl, begun.length_le.trans sparing⟩
  | ok _ final =>
    obtain ⟨innermost, outer, content, around, opened, unread, fits, -, fine, stop, lies⟩ := begun
    obtain ⟨-, room, rfl⟩ := enter_eq_ok.1 done
    rw [opened] at room
    have enough : header.span ≤ content.length := by
      have room := room innermost rfl
      omega
    obtain ⟨body, behind, rfl, length⟩ := exists_append enough
    rw [List.append_assoc] at unread
    refine .ok ⟨rfl, config_eq, fun _ => ?_, fun _ waiting => ?_⟩
    · have inside : ¬ Overruns config body := fun inside => fine (.inner fits structured length inside)
      have later : ¬ Overruns config behind := fun later => fine (.later fits length later)
      refine ⟨body, behind ++ around, unread, inside, ?_, ?_⟩
      · rw [length, span]
        rfl
      · rw [opened]
        refine ⟨behind, around, rfl, later, ?_, lies⟩
        rw [← stop, List.length_append, length, span, Nat.add_assoc]
    · cases pending.symm.trans waiting

/-- A structure is left at its end. -/
lemma Contained.meets_structureEnd (contained : Contained config rest reader) :
    (alone config rest).Meets (fun _ => (alone config rest).Near)
      (structureEnd reader) (structureEnd reader) := by
  cases done : structureEnd reader with
  | ok _ final =>
    obtain ⟨left, outer, opened, pending, stop, rfl⟩ := structureEnd_eq_ok.1 done
    have lies := contained.lies pending
    rw [opened] at lies
    obtain ⟨content, around, unread, -, ends, lies⟩ := lies
    obtain rfl : content = [] := List.length_eq_zero_iff.1 (by omega)
    refine .ok ⟨rfl, contained.config_eq, fun _ => ?_, fun _ waiting => ?_⟩
    · rw [← stop] at lies
      exact unread ▸ lies
    · cases pending.symm.trans waiting
  | error fault last =>
    have source : last.source = reader.source := by
      have kept := source_left_structureEnd reader
      rwa [done] at kept
    exact .ended ⟨fault, last, rfl, source ▸ contained.length_le⟩

lemma lawful_alone : (alone config rest).Lawful where
  toFinal := final_alone
  config near := congrArg Reader.config near.1
  ready := id
  stop fault behind := ⟨fault, _, rfl, behind.2.2.2.length_le⟩
  header? near inner := by
    obtain ⟨rfl, contained⟩ := near
    exact contained.meets_header? inner
  front near inner := by
    obtain ⟨rfl, contained⟩ := near
    exact contained.meets_front inner
  content tag known behind := by
    obtain ⟨rfl, config_eq, pending, begun⟩ := behind
    exact begun.meets_content tag known config_eq pending
  pass skip behind := by
    obtain ⟨rfl, config_eq, pending, begun⟩ := behind
    exact begun.meets_pass skip config_eq pending
  enter tag known behind := by
    obtain ⟨rfl, config_eq, pending, begun⟩ := behind
    exact begun.meets_enter tag known config_eq pending
  structureEnd near := by
    obtain ⟨rfl, contained⟩ := near
    exact contained.meets_structureEnd

/-- A message of a structure in which nothing overruns is entered. -/
lemma contained_start {source : Source} {content : Bytes} {tag : Tag} {entered : Unit}
    (fits : header.Fits) (length : header.length = content.length)
    (unread : source.unread = header.bytes ++ content ++ rest)
    (contained : ¬ Overruns config content)
    (started : structureStart tag (.start source config) = .ok entered reader) :
    (alone config rest).Near reader reader ∧ reader.opened ≠ [] := by
  obtain ⟨declared, _, expected, enters⟩ := bind_eq_ok.1 started
  obtain ⟨shows, rfl⟩ := (expect_eq_ok rfl).1 expected
  obtain ⟨-, -, rfl⟩ := enter_eq_ok.1 enters
  -- the source starts with one header only, which tells where the message ends
  have first : header.bytes <+: source.unread := by
    rw [unread, List.append_assoc]
    exact List.prefix_append _ _
  obtain rfl := Header.eq_of_prefix fits shows.fits first shows.unread
  refine ⟨⟨rfl, rfl, fun _ => ⟨content, rest, ?_, contained, ?_, rfl⟩, fun _ waiting => ?_⟩,
    List.cons_ne_nil _ _⟩
  · rw [unread_entering, unread_advance, Reader.start, unread, List.append_assoc]
    exact List.drop_left' (Header.length_bytes _)
  · rw [← length]
    rfl
  · cases waiting

end Read

namespace Record

variable {record : Record} {config : Config} {source : Source} {message rest : Bytes}

/-- A message, as it comes from a source that breaks behind it. -/
def brokenBehind (message : Bytes) (breakdown : Breakdown) : Source :=
  ⟨Delivery.ofBytes message, .broken breakdown⟩

/-- What reading a record leaves in the source. -/
lemma unread_readFrom (record : Record) (config : Config) (source : Source) :
    (record.readFrom config source).2.unread.length =
      Read.unreadAfter (record.read (.start source config)) := by
  rw [readFrom]
  cases record.read (.start source config) <;> rfl

/-- Reading a record leaves everything behind a message, and would do the same if the source broke
there; or it takes some of that, and would meet the break. -/
lemma readFrom_or (unread : source.unread = message ++ rest) (some : rest ≠ [])
    (breakdown : Breakdown) :
    rest.length ≤ (record.readFrom config source).2.unread.length ∧
        (record.readFrom config (brokenBehind message breakdown)).1 =
          (record.readFrom config source).1 ∨
      (record.readFrom config source).2.unread.length < rest.length ∧
        (record.readFrom config (brokenBehind message breakdown)).1 = .error breakdown.fault := by
  have unread_cut : (brokenBehind message breakdown).unread = message :=
    Delivery.flatMap_bytes_ofBytes message
  have short : Reader.Short (.broken breakdown) rest
      (.start (brokenBehind message breakdown) config) (.start source config) :=
    ⟨brokenBehind message breakdown, rfl, by rw [unread_cut]; exact unread, rfl⟩
  have meets := record.truncates_read some short
  rw [unread_readFrom]
  unfold readFrom
  generalize record.read (.start (brokenBehind message breakdown) config) = part,
    record.read (.start source config) = whole at meets
  cases meets with
  | ok short => exact .inl ⟨short.length_le, rfl⟩
  | ended ended =>
    cases ended with
    | error short => exact .inl ⟨short.length_le, rfl⟩
    | beyond taken => exact .inr ⟨taken, rfl⟩

/-- Reading a record takes no byte behind a message exactly if the same comes of it where the source
breaks there. -/
lemma inside_iff (unread : source.unread = message ++ rest) (some : rest ≠ []) :
    rest.length ≤ (record.readFrom config source).2.unread.length ↔
      ∀ breakdown, (record.readFrom config (brokenBehind message breakdown)).1 =
        (record.readFrom config source).1 := by
  constructor
  · intro inside breakdown
    rcases readFrom_or unread some breakdown with ⟨-, same⟩ | ⟨beyond, -⟩
    · exact same
    · exact absurd beyond (Nat.not_lt.2 inside)
  · intro same
    -- no outcome is the report of every break
    by_contra beyond
    have broken (breakdown : Breakdown) :
        (record.readFrom config source).1 = .error breakdown.fault := by
      rcases readFrom_or unread some breakdown with ⟨inside, -⟩ | ⟨-, broken⟩
      · exact absurd inside beyond
      · rw [← same breakdown, broken]
    have faults := Except.error.inj
      ((broken ⟨.unexpectedEnd, ""⟩).symm.trans (broken ⟨.other, ""⟩))
    cases faults

/-- Where nothing in a message overruns, reading a record leaves everything behind it. -/
lemma length_le_of_contained (record : Record) {header : Header} {content : Bytes} (fits : header.Fits)
    (length : header.length = content.length)
    (unread : source.unread = header.bytes ++ content ++ rest)
    (contained : ¬ Overruns config content) :
    rest.length ≤ Read.unreadAfter (record.read (.start source config)) := by
  have read : record.read = Read.structureStart record.tag >>= fun _ => (do
      let value ← record.fields.read record.name record.fields.tags record.blank
      Read.noFurtherField record.name record.fields.tags
      Read.structureEnd
      pure value) := rfl
  rw [read]
  cases start : Read.structureStart record.tag (.start source config) with
  | error fault last =>
    have started : Read.Sparing 8 (Read.structureStart record.tag) :=
      (Read.sparing_expect _ _).bind fun length => Read.sparing_enter record.tag length
    have left := started (.start source config)
    rw [start] at left
    have total : source.unread.length = 8 + content.length + rest.length := by
      rw [unread, List.length_append, List.length_append, Header.length_bytes]
    rw [Read.bind_of_error start]
    change source.unread.length ≤ last.source.unread.length + 8 at left
    change rest.length ≤ last.source.unread.length
    omega
  | ok _ middle =>
    obtain ⟨near, inner⟩ := Read.contained_start fits length unread contained start
    have lawful : (Read.alone config rest).Lawful := Read.lawful_alone
    have row := lawful.closed.fields record.name record.fields.tags record.fields record.blank
    have meets := lawful.rows_entered record.name record.fields.tags row.1 row.2.2 near inner
    rw [Read.bind_of_ok start]
    generalize (do
      let value ← record.fields.read record.name record.fields.tags record.blank
      Read.noFurtherField record.name record.fields.tags
      Read.structureEnd
      pure value : Read record.Val) middle = result at meets ⊢
    cases meets with
    | ok held => exact held.2.length_le
    | ended ended =>
      obtain ⟨fault, last, rfl, le⟩ := ended
      exact le

/-- A record that is read takes as many bytes as its header declares. -/
lemma readFrom_ok (mem : record ∈ Records.all) {header : Header} {content : Bytes}
    (fits : header.Fits) (length : header.length = content.length)
    (unread : source.unread = header.bytes ++ content ++ rest) {value : record.Val}
    (read : (record.readFrom config source).1 = .ok value) :
    (record.readFrom config source).2.unread = rest := by
  unfold readFrom at read ⊢
  split at read
  · next value' final done =>
    obtain ⟨item, finds, -, spells, rfl⟩ := (reads mem).sound (Reader.settled_start _) .refl done
    obtain ⟨front, fit, -, -⟩ := Reader.finds_start_iff.1 finds
    obtain ⟨parts, rfl, -, -⟩ := spells
    -- the source starts with one header only, which tells where the record ends
    have first := (Mixed.header_prefix _).trans front
    have other : header.bytes <+: source.unread := by
      rw [unread, List.append_assoc]
      exact List.prefix_append _ _
    have same := Header.eq_of_prefix fits fit.header other first
    have spelled : (Part.bytesOfAll parts).length = content.length := by
      rw [← length, same, Mixed.header]
    have count : (header.bytes ++ content).length = 8 + content.length := by simp
    rw [Mixed.bytes, List.length_append, Header.length_bytes, spelled, Reader.unread_advance,
      ← count]
    exact unread ▸ List.drop_left
  · cases read

/-- A record is read inside of its message. Where it is read, exactly the bytes that its header
declares are taken. Whatever comes of it, no byte behind these is taken exactly if the same would come
of it on a source that breaks there, in whichever way; and such a byte is taken only if something in
the message overruns, other than a structure that is entered, which is held against the one around
it. -/
theorem readFrom_inside_iff (mem : record ∈ Records.all) {header : Header} {content : Bytes}
    (fits : header.Fits) (length : header.length = content.length)
    (unread : source.unread = header.bytes ++ content ++ rest) :
    (∀ value, (record.readFrom config source).1 = .ok value →
        (record.readFrom config source).2.unread = rest) ∧
      (rest.length ≤ (record.readFrom config source).2.unread.length ↔
        rest = [] ∨ ∀ breakdown,
          (record.readFrom config (brokenBehind (header.bytes ++ content) breakdown)).1 =
            (record.readFrom config source).1) ∧
      ((record.readFrom config source).2.unread.length < rest.length → Overruns config content) := by
  refine ⟨fun value read => readFrom_ok mem fits length unread read, ?_, fun beyond => ?_⟩
  · rcases eq_or_ne rest [] with rfl | some
    · simp
    · rw [inside_iff unread some]
      simp [some]
  · by_contra contained
    have left := length_le_of_contained record fits length unread contained
    rw [← unread_readFrom] at left
    omega

/-- A version in front of the first bytes of another message is read, and leaves these; it would be
read from a source that breaks behind it, too. -/
theorem readFrom_inside_version :
    let header : Header := ⟨.protocolVersion, ItemType.structured.byte, 32⟩
    let content : Bytes :=
      [0x42, 0, 0x6A, 2, 0, 0, 0, 4, 0, 0, 0, 1, 0, 0, 0, 0,
        0x42, 0, 0x6B, 2, 0, 0, 0, 4, 0, 0, 0, 4, 0, 0, 0, 0]
    let source : Source := .ofBytes (header.bytes ++ content ++ [0x42, 0])
    (Records.protocolVersion.readFrom .strict source).1 = .ok (1, 4, ()) ∧
      (Records.protocolVersion.readFrom .strict source).2.unread = [0x42, 0] ∧
        ∀ breakdown,
          (Records.protocolVersion.readFrom .strict
            (brokenBehind (header.bytes ++ content) breakdown)).1 = .ok (1, 4, ()) := by
  intro header content source
  have mem : Records.protocolVersion ∈ Records.all :=
    List.mem_of_getElem? (by rfl : Records.all[0]? = _)
  have fits : header.Fits := ⟨by decide, by decide⟩
  have read : (Records.protocolVersion.readFrom .strict source).1 = .ok (1, 4, ()) := by
    decide +kernel
  have unread : source.unread = header.bytes ++ content ++ [0x42, 0] := Source.unread_ofBytes _
  obtain ⟨taken, inside, -⟩ := readFrom_inside_iff mem fits rfl unread
  have left := taken _ read
  obtain none | same := inside.1 (by rw [left])
  · cases none
  · exact ⟨read, left, fun breakdown => (same breakdown).trans read⟩

/-- The number of a version that declares to end in front of it is taken all the same, although it
belongs to what follows. -/
theorem readFrom_beyond :
    let header : Header := ⟨.protocolVersion, ItemType.structured.byte, 8⟩
    let content : Bytes := [0x42, 0, 0x6A, 2, 0, 0, 0, 4]
    let rest : Bytes := [0, 0, 0, 1, 0, 0, 0, 0]
    header.length = content.length ∧ Overruns .strict content ∧
      Records.protocolVersion.readFrom .strict (.ofBytes (header.bytes ++ content ++ rest)) =
        (.error (.missingField "ProtocolVersion" .protocolVersionMinor), ⟨[], .closed⟩) := by
  intro header content rest
  let number : Header := ⟨.protocolVersionMajor, (ItemType.scalar .integer).byte, 4⟩
  have unchecked : number.Unchecked .strict :=
    ⟨⟨by decide, by decide⟩, fun _ => by decide, .inr ⟨.integer, rfl, rfl⟩⟩
  have overruns : Overruns .strict (number.bytes ++ []) := .item unchecked (by decide)
  have spelled : number.bytes ++ [] = content := by decide
  exact ⟨rfl, spelled ▸ overruns, by decide +kernel⟩

end Record

end Kmip
