import Kmip.Proofs.Decoding
import Kmip.Proofs.Mixed
import Kmip.Shape.Decode

/-!
# Dealing with foreign items

What a look at the next tag finds in a record (`Read.tag?_of_keeps`), and what is done about the
items whose tags the record does not declare: they are passed over, or one of them is refused
(`Reader.Refuses`), as the settings say. `Reader.Gets` is the outcome of a step that reads items of a
record; one step after the other gets what both get (`Reader.Gets.bind`).
-/

namespace Kmip

namespace Reader

open Kmip.Part

variable {α β : Type} {reader seen : Reader} {few many : List Header}

/-- A look does not change the settings. -/
lemma MayLook.config_eq (look : reader.MayLook seen) : seen.config = reader.config := by
  obtain rfl | ⟨header, -, rfl⟩ := look <;> rfl

/-- A reader that shows a header may have looked at it. -/
lemma Shows.mayLook {header : Header} (shows : reader.Shows header) :
    reader.MayLook (reader.looking header) :=
  .inr ⟨header, shows, rfl⟩

/-- The settings let these foreign items pass. -/
def Admits (reader : Reader) (foreigns : List Header) : Prop :=
  reader.config.unknownTags = .reject → foreigns = []

/-- The settings do not let foreign items pass, and a step ends with the refusal of one of these. -/
def Refuses (reader : Reader) (foreigns : List Header) (result : EStateM.Result Fault Reader α) :
    Prop :=
  reader.config.unknownTags = .reject ∧ ∃ record, ∃ header ∈ foreigns, ∃ final,
    result = .error (.unknownTag record header.tag) final

lemma admits_nil (reader : Reader) : reader.Admits [] :=
  fun _ => rfl

lemma admits_append :
    reader.Admits (few ++ many) ↔ reader.Admits few ∧ reader.Admits many := by
  simp only [Admits, List.append_eq_nil_iff]
  grind

/-- A refusal of one of some items is one of these and others. -/
lemma Refuses.mono {result : EStateM.Result Fault Reader α} (refused : reader.Refuses few result)
    (subset : few ⊆ many) : reader.Refuses many result := by
  obtain ⟨reject, record, header, mem, refused⟩ := refused
  exact ⟨reject, record, header, subset mem, refused⟩

/-- Behind a refusal no further step is made. -/
lemma Refuses.bind {step : Read α} (refused : reader.Refuses few (step seen))
    (next : α → Read β) : reader.Refuses few ((step >>= next) seen) := by
  obtain ⟨reject, record, header, mem, final, refused⟩ := refused
  exact ⟨reject, record, header, mem, final, Read.bind_of_error refused⟩

/-- Where nothing is foreign, nothing is refused. -/
lemma not_refuses_nil {result : EStateM.Result Fault Reader α} : ¬ reader.Refuses [] result := by
  rintro ⟨-, _, _, mem, -⟩
  cases mem

/-- The parts come next; those that are foreign have none of the known tags, and may pass. -/
structure Accepts (reader : Reader) (known : List Tag) (parts : List Part) : Prop where
  finds : reader.FindsAll parts
  strange : ForeignTo known parts
  admits : reader.Admits (foreignsOfAll parts)

lemma accepts_nil (reader : Reader) (known : List Tag) : reader.Accepts known [] :=
  ⟨trivial, foreignTo_nil known, admits_nil reader⟩

/-- Parts behind other ones. -/
lemma Accepts.append {known : List Tag} {front back : List Part}
    (first : reader.Accepts known front)
    (second : (reader.advance (bytesOfAll front).length).Accepts known back) :
    reader.Accepts known (front ++ back) where
  finds := findsAll_append.2 ⟨first.finds, second.finds⟩
  strange := foreignTo_append.2 ⟨first.strange, second.strange⟩
  admits := by
    rw [foreignsOfAll_append]
    exact admits_append.2 ⟨first.admits, second.admits⟩

/-- A step has read these items of a record, passing over foreign ones among its parts, or has
refused one of the foreign ones. -/
def Gets (reader : Reader) (parts : List Part) (items : List Mixed) (value : α)
    (result : EStateM.Result Fault Reader α) : Prop :=
  (∃ gone left final, parts = gone ++ left ∧ owned gone = items ∧
    reader.Admits (foreignsOfAll gone) ∧ result = .ok value final ∧
    (reader.advance (bytesOfAll gone).length).MayLook final) ∨
  reader.Refuses (foreignsOfAll parts) result

/-- A step goes on behind what another one has taken. -/
lemma Gets.behind {gone left : List Part} {items : List Mixed} {step : Read α}
    {next : α → Read β} {value : α} {result : β} {middle : Reader}
    (admits : reader.Admits (foreignsOfAll gone)) (read : step seen = .ok value middle)
    (rest : (reader.advance (bytesOfAll gone).length).Gets left items result (next value middle)) :
    reader.Gets (gone ++ left) (owned gone ++ items) result ((step >>= next) seen) := by
  rw [Gets, Read.bind_of_ok read]
  rcases rest with ⟨passed, left, final, rfl, rfl, admitted, rest, look⟩ | refused
  · refine .inl ⟨gone ++ passed, left, final, (List.append_assoc _ _ _).symm,
      owned_append gone passed, ?_, rest, ?_⟩
    · rw [foreignsOfAll_append]
      exact admits_append.2 ⟨admits, admitted⟩
    · rwa [bytesOfAll_append, List.length_append, ← advance_advance]
  · refine .inr (Refuses.mono refused ?_)
    rw [foreignsOfAll_append]
    exact List.subset_append_right _ _

/-- What a step gets, and what the next one gets behind that. -/
lemma Gets.bind {parts : List Part} {mine items : List Mixed} {step : Read α} {next : α → Read β}
    {value : α} {result : β} (gets : reader.Gets parts mine value (step seen))
    (behind : ∀ gone left middle, parts = gone ++ left → owned gone = mine →
      (reader.advance (bytesOfAll gone).length).MayLook middle →
        (reader.advance (bytesOfAll gone).length).Gets left items result (next value middle)) :
    reader.Gets parts (mine ++ items) result ((step >>= next) seen) := by
  rcases gets with ⟨gone, left, middle, rfl, rfl, admits, read, look⟩ | refused
  · exact Gets.behind admits read (behind gone left middle rfl rfl look)
  · exact .inr (refused.bind next)

/-- What a step gets is turned into another value. -/
lemma Gets.bind_pure {parts : List Part} {items : List Mixed} {step : Read α} {value : α}
    (gets : reader.Gets parts items value (step seen)) (next : α → β) :
    reader.Gets parts items (next value) ((step >>= fun value => pure (next value)) seen) := by
  rcases gets with ⟨gone, left, final, spelled, own, admits, read, look⟩ | refused
  · exact .inl ⟨gone, left, final, spelled, own, admits, Read.bind_of_ok read, look⟩
  · exact .inr (refused.bind _)

end Reader

namespace Read

open Reader Kmip.Part

variable {α β : Type} {reader seen final : Reader}

/-- A look at the next tag is a look at the next header, and finds none at the end. -/
lemma tag?_eq_ok {found : Option Tag} (settled : reader.Settled) (inner : reader.opened ≠ [])
    (look : reader.MayLook seen) :
    tag? seen = .ok found final ↔
      found = none ∧ reader.atStop = true ∧ final = reader ∨
        ∃ header, reader.Shows header ∧ found = some header.tag ∧
          final = reader.looking header := by
  have same : tag? seen = tag? reader := bind_congr (look.header?_eq settled.pending)
  rw [same, tag?, bind_eq_ok]
  constructor
  · rintro ⟨header, _, looked, kept⟩
    obtain ⟨rfl, rfl⟩ := pure_eq_ok.1 kept
    cases header with
    | none =>
      obtain ⟨stop, rfl⟩ := (header?_eq_none settled.pending inner).1 looked
      exact .inl ⟨rfl, stop, rfl⟩
    | some header =>
      obtain ⟨shows, rfl⟩ := (header?_eq_some settled.pending).1 looked
      exact .inr ⟨header, shows, rfl, rfl⟩
  · rintro (⟨rfl, stop, rfl⟩ | ⟨header, shows, rfl, rfl⟩)
    · exact ⟨none, _, (header?_eq_none settled.pending inner).2 ⟨stop, rfl⟩, rfl⟩
    · exact ⟨some header, _, (header?_eq_some settled.pending).2 ⟨shows, rfl⟩, rfl⟩

/-- A look at the next tag leaves a reader that may have looked. -/
lemma mayLook_of_tag? {found : Option Tag} (settled : reader.Settled) (inner : reader.opened ≠ [])
    (look : reader.MayLook seen) (read : tag? seen = .ok found final) : reader.MayLook final := by
  obtain ⟨-, -, rfl⟩ | ⟨header, shows, -, rfl⟩ := (tag?_eq_ok settled inner look).1 read
  · exact .refl
  · exact shows.mayLook

/-- The next tag in a record is that of its first part. -/
lemma tag?_of_keeps {parts : List Part} (settled : reader.Settled) (keeps : reader.Keeps parts)
    (look : reader.MayLook seen) :
    ∃ final, tag? seen = .ok (parts.head?.map Part.tag) final ∧ reader.MayLook final := by
  have looked (found : Option Tag) (final : Reader) : tag? seen = .ok found final ↔ _ :=
    tag?_eq_ok settled keeps.opened_ne_nil look
  match parts with
  | [] => exact ⟨reader, (looked _ _).2 (.inl ⟨rfl, keeps.atStop, rfl⟩), .refl⟩
  | .own item :: rest =>
    have shows := keeps.finds.1.shows
    refine ⟨_, (looked _ _).2 (.inr ⟨_, shows, ?_, rfl⟩), shows.mayLook⟩
    rw [Mixed.tag_header]
    rfl
  | .foreign header body :: rest =>
    have shows := keeps.finds.1.shows
    exact ⟨_, (looked _ _).2 (.inr ⟨_, shows, rfl, rfl⟩), shows.mayLook⟩

/-- A foreign item is passed over as a whole. -/
lemma skip_eq_ok {header : Header} {result : Unit} (settled : reader.Settled)
    (shows : reader.Shows header) :
    skip (reader.looking header) = .ok result final ↔
      ∃ body, reader.Meets header body ∧ final = reader.advance (8 + body.length) := by
  rw [skip, bind_of_ok (header_looking settled.pending shows), pass_eq_ok, unread_advance]
  constructor
  · rintro ⟨enough, rfl⟩
    refine ⟨(reader.source.unread.drop 8).take header.span, ⟨shows, ?_, List.take_prefix _ _⟩, ?_⟩
    · rw [List.length_take, Nat.min_eq_left enough]
    · rw [List.length_take, Nat.min_eq_left enough, advance_advance]
  · rintro ⟨body, ⟨-, length, unread⟩, rfl⟩
    exact ⟨length ▸ unread.length_le, by rw [advance_advance, length]⟩

section skipUnknown

variable {record : String} {known : List Tag} {fuel : Nat} {tag : Tag} {middle : Reader}

/-- At the end nothing is unknown. -/
lemma skipUnknownWithin_of_none (looked : tag? seen = .ok none middle) :
    skipUnknownWithin record known (fuel + 1) seen = .ok () middle :=
  bind_of_ok looked

/-- A known tag ends the search for unknown ones. -/
lemma skipUnknownWithin_of_mem (looked : tag? seen = .ok (some tag) middle) (mem : tag ∈ known) :
    skipUnknownWithin record known (fuel + 1) seen = .ok () middle := by
  refine (bind_of_ok looked).trans ?_
  simp only [mem, if_true]
  rfl

/-- An unknown tag is refused where the settings say so. -/
lemma skipUnknownWithin_of_reject (looked : tag? seen = .ok (some tag) middle)
    (strange : tag ∉ known) (reject : middle.config.unknownTags = .reject) :
    skipUnknownWithin record known (fuel + 1) seen = .error (.unknownTag record tag) middle := by
  refine (bind_of_ok looked).trans ?_
  simp only [strange, if_false]
  refine (bind_of_ok rfl).trans ?_
  rw [reject]
  rfl

/-- Else the item is passed over, and the search goes on. -/
lemma skipUnknownWithin_of_skip (looked : tag? seen = .ok (some tag) middle)
    (strange : tag ∉ known) (skips : middle.config.unknownTags = .skip) :
    skipUnknownWithin record known (fuel + 1) seen =
      (skip >>= fun _ => skipUnknownWithin record known fuel) middle := by
  refine (bind_of_ok looked).trans ?_
  simp only [strange, if_false]
  refine (bind_of_ok rfl).trans ?_
  rw [skips]

/-- What is passed over are foreign items. -/
lemma skipUnknownWithin_sound (fuel : Nat) {result : Unit} (settled : reader.Settled)
    (inner : reader.opened ≠ []) (look : reader.MayLook seen)
    (read : skipUnknownWithin record known fuel seen = .ok result final) :
    ∃ parts, reader.Accepts known parts ∧ owned parts = [] ∧
      (reader.advance (bytesOfAll parts).length).MayLook final := by
  induction fuel generalizing reader seen with
  | zero =>
    obtain ⟨-, rfl⟩ := pure_eq_ok.1 read
    exact ⟨[], accepts_nil _ _, rfl, advance_zero.symm ▸ look⟩
  | succ fuel ih =>
    have stays {middle : Reader} (looked : tag? seen = .ok none middle ∨
        ∃ tag ∈ known, tag? seen = .ok (some tag) middle) : reader.MayLook final := by
      obtain looked | ⟨tag, mem, looked⟩ := looked
      · rw [skipUnknownWithin_of_none looked] at read
        obtain ⟨-, rfl⟩ := EStateM.Result.ok.inj read
        exact mayLook_of_tag? settled inner look looked
      · rw [skipUnknownWithin_of_mem looked mem] at read
        obtain ⟨-, rfl⟩ := EStateM.Result.ok.inj read
        exact mayLook_of_tag? settled inner look looked
    have nothing (look : reader.MayLook final) :
        ∃ parts, reader.Accepts known parts ∧ owned parts = [] ∧
          (reader.advance (bytesOfAll parts).length).MayLook final :=
      ⟨[], accepts_nil _ _, rfl, advance_zero.symm ▸ look⟩
    obtain ⟨found, middle, looked, -⟩ := bind_eq_ok.1 read
    obtain ⟨rfl, -, -⟩ | ⟨header, shows, rfl, rfl⟩ := (tag?_eq_ok settled inner look).1 looked
    · exact nothing (stays (.inl looked))
    · by_cases mem : header.tag ∈ known
      · exact nothing (stays (.inr ⟨_, mem, looked⟩))
      · cases policy : reader.config.unknownTags with
        | reject =>
          rw [skipUnknownWithin_of_reject looked mem policy] at read
          cases read
        | skip =>
          rw [skipUnknownWithin_of_skip looked mem policy] at read
          obtain ⟨_, _, skipped, rest⟩ := bind_eq_ok.1 read
          obtain ⟨body, meets, rfl⟩ := (skip_eq_ok settled shows).1 skipped
          obtain ⟨parts, ⟨finds, strange, -⟩, own, look⟩ := ih (settled.advance _) inner .refl rest
          refine ⟨.foreign header body :: parts,
            ⟨⟨meets, finds⟩, foreignTo_foreign.2 ⟨mem, strange⟩, ?_⟩, own, ?_⟩
          · intro reject
            rw [policy] at reject
            cases reject
          · rw [advance_advance] at look
            rwa [bytesOfAll_cons, Part.bytes, List.length_append, List.length_append,
              Header.length_bytes]

/-- Foreign items in front of those of a record are passed over, or the first one is refused. -/
lemma skipUnknownWithin_complete {parts : List Part} (fuel : Nat) (enough : parts.length < fuel)
    (settled : reader.Settled) (keeps : reader.Keeps parts) (strange : ForeignTo known parts)
    (familiar : ∀ item ∈ owned parts, item.tag ∈ known) (look : reader.MayLook seen) :
    (∃ gone left final, parts = gone ++ left ∧ owned gone = [] ∧ StartsOwn left ∧
      reader.Admits (foreignsOfAll gone) ∧
      skipUnknownWithin record known fuel seen = .ok () final ∧
      (reader.advance (bytesOfAll gone).length).MayLook final) ∨
    reader.Refuses (foreignsOfAll parts) (skipUnknownWithin record known fuel seen) := by
  -- the fuel counts headers, and each part has one
  induction parts generalizing reader seen fuel with
  | nil =>
    obtain ⟨fuel, rfl⟩ := Nat.exists_eq_add_one.2 enough
    obtain ⟨final, looked, look⟩ := tag?_of_keeps settled keeps look
    exact .inl ⟨[], [], final, rfl, rfl, nofun, admits_nil _, skipUnknownWithin_of_none looked,
      advance_zero.symm ▸ look⟩
  | cons first rest ih =>
    obtain ⟨fuel, rfl⟩ := Nat.exists_eq_add_one.2 (Nat.zero_lt_of_lt enough)
    obtain ⟨middle, looked, look'⟩ := tag?_of_keeps settled keeps look
    cases first with
    | own item =>
      have mem := familiar item List.mem_cons_self
      exact .inl ⟨[], _, middle, rfl, rfl, startsOwn_own item rest, admits_nil _,
        skipUnknownWithin_of_mem looked mem, advance_zero.symm ▸ look'⟩
    | foreign header body =>
      obtain ⟨unknown, strange⟩ := foreignTo_foreign.1 strange
      have meets := keeps.finds.1
      cases policy : reader.config.unknownTags with
      | reject =>
        have reject : middle.config.unknownTags = .reject := by rw [look'.config_eq, policy]
        exact .inr ⟨policy, record, header, List.mem_cons_self, middle,
          skipUnknownWithin_of_reject looked unknown reject⟩
      | skip =>
        obtain rfl : middle = reader.looking header := by
          have shown := (tag?_eq_ok settled keeps.opened_ne_nil look).2
            (.inr ⟨header, meets.shows, rfl, rfl⟩)
          exact (EStateM.Result.ok.inj (looked.symm.trans shown)).2
        have skipped : skip (reader.looking header) = .ok () (reader.advance (8 + body.length)) :=
          (skip_eq_ok settled meets.shows).2 ⟨body, meets, rfl⟩
        have length : (bytesOfAll [.foreign header body]).length = 8 + body.length := by
          simp [bytesOfAll]
        have behind : (reader.advance (8 + body.length)).Keeps rest := by
          have dropped := (show reader.Keeps ([.foreign header body] ++ rest) from keeps).drop
          rwa [length] at dropped
        rw [skipUnknownWithin_of_skip looked unknown policy, bind_of_ok skipped]
        rcases ih fuel (Nat.lt_of_succ_lt_succ enough) (settled.advance _) behind strange familiar
          .refl with ⟨gone, left, final, rfl, own, starts, -, read, look⟩ | refused
        · refine .inl ⟨.foreign header body :: gone, left, final, rfl, own, starts, ?_, read, ?_⟩
          · intro reject
            rw [policy] at reject
            cases reject
          · rw [bytesOfAll_cons, Part.bytes, List.length_append, List.length_append,
              Header.length_bytes, ← advance_advance]
            exact look
        · exact .inr (Refuses.mono refused (List.subset_cons_self _ _))

/-- What deals with foreign items passes over some of them. -/
lemma skipUnknown_sound {result : Unit}
    (settled : reader.Settled) (inner : reader.opened ≠ []) (look : reader.MayLook seen)
    (read : skipUnknown record known seen = .ok result final) :
    ∃ parts, reader.Accepts known parts ∧ owned parts = [] ∧
      (reader.advance (bytesOfAll parts).length).MayLook final := by
  rw [skipUnknown, headersLeft_bind] at read
  exact skipUnknownWithin_sound _ settled inner look read

/-- What deals with foreign items passes over those in front of the items of a record, or refuses
the first one. -/
lemma skipUnknown_complete {parts : List Part} (record : String)
    (settled : reader.Settled) (keeps : reader.Keeps parts) (strange : ForeignTo known parts)
    (familiar : ∀ item ∈ owned parts, item.tag ∈ known) (look : reader.MayLook seen) :
    (∃ gone left final, parts = gone ++ left ∧ owned gone = [] ∧ StartsOwn left ∧
      reader.Admits (foreignsOfAll gone) ∧ skipUnknown record known seen = .ok () final ∧
      (reader.advance (bytesOfAll gone).length).MayLook final) ∨
    reader.Refuses (foreignsOfAll parts) (skipUnknown record known seen) := by
  rw [skipUnknown, headersLeft_bind, look.remaining_eq settled.pending]
  exact skipUnknownWithin_complete _ (Nat.lt_succ_of_le (keeps.length_le settled)) settled keeps
    strange familiar look

end skipUnknown

end Read

end Kmip
