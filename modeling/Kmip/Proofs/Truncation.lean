import Kmip.Proofs.Decoding
import Kmip.Proofs.Pairing

/-!
# Reading from a source that ends too early

The same step on two readers, one of which is given fewer bytes (`Reader.Short`). Either both runs
come to the same, and no missing byte is taken, or the reader with fewer bytes runs into the end of
its source, and the other one takes bytes that are missing (`Read.Parted`). So it is with every
reader of items (`Read.truncates_item`) and of records (`Record.truncates_read`).
-/

namespace Kmip

/-- Bytes that are no header. -/
lemma Header.ofBytes?_eq_none {bytes : Bytes} (length : bytes.length ≠ 8) :
    Header.ofBytes? bytes = none := by
  cases read : Header.ofBytes? bytes with
  | none => rfl
  | some header =>
    rw [(Header.ofBytes?_eq_some.1 read).1, Header.length_bytes] at length
    exact absurd rfl length

/-- Of too few bytes, not so many are taken. -/
lemma length_take_ne {bytes : Bytes} {count : Nat} (few : bytes.length < count) :
    (bytes.take count).length ≠ count := by
  rw [List.length_take]
  exact (Nat.lt_of_le_of_lt (Nat.min_le_right _ _) few).ne

/-- Eight bytes make up a header. -/
lemma Header.exists_ofBytes? {bytes : Bytes} (length : bytes.length = 8) :
    ∃ header, Header.ofBytes? bytes = some header := by
  match bytes, length with
  | [a, b, c, type, d, e, f, g], _ => exact ⟨_, rfl⟩

namespace Reader

variable {ending : Ending} {missing : Bytes} {cut full : Reader}

/-- The reader `cut` is as the reader `full`, but for the last bytes of the source, which are
missing, and for its end. -/
def Short (ending : Ending) (missing : Bytes) (cut full : Reader) : Prop :=
  ∃ source : Source, cut = { full with source } ∧ full.source.unread = source.unread ++ missing ∧
    source.ending = ending

/-- Where there are enough bytes, both readers take the same ones. -/
lemma Short.advance {count : Nat} (short : Short ending missing cut full)
    (enough : count ≤ cut.source.unread.length) :
    Short ending missing (cut.advance count) (full.advance count) := by
  obtain ⟨source, rfl, unread, ended⟩ := short
  refine ⟨(source.pull count).2, rfl, ?_, ended⟩
  rw [unread_advance, unread, List.drop_append_of_le_length enough, Source.unread_pull]

lemma Short.looking {header : Header} (short : Short ending missing cut full)
    (enough : 8 ≤ cut.source.unread.length) :
    Short ending missing (cut.looking header) (full.looking header) := by
  obtain ⟨source, same, held⟩ := short.advance enough
  exact ⟨source, congrArg (fun reader : Reader => { reader with pending := some header }) same, held⟩

lemma Short.dropped (short : Short ending missing cut full) :
    Short ending missing { cut with pending := none } { full with pending := none } := by
  obtain ⟨source, rfl, held⟩ := short
  exact ⟨source, rfl, held⟩

lemma Short.config_eq (short : Short ending missing cut full) : cut.config = full.config := by
  obtain ⟨source, rfl, -⟩ := short
  rfl

lemma Short.opened_eq (short : Short ending missing cut full) : cut.opened = full.opened := by
  obtain ⟨source, rfl, -⟩ := short
  rfl

lemma Short.pending_eq (short : Short ending missing cut full) : cut.pending = full.pending := by
  obtain ⟨source, rfl, -⟩ := short
  rfl

lemma Short.atStop_eq (short : Short ending missing cut full) : cut.atStop = full.atStop := by
  obtain ⟨source, rfl, -⟩ := short
  rfl

lemma Short.ending_eq (short : Short ending missing cut full) : cut.source.ending = ending := by
  obtain ⟨source, rfl, -, ended⟩ := short
  exact ended

/-- What comes first comes first in all bytes. -/
lemma Short.prefix_iff {bytes : Bytes} (short : Short ending missing cut full)
    (enough : bytes.length ≤ cut.source.unread.length) :
    bytes <+: full.source.unread ↔ bytes <+: cut.source.unread := by
  obtain ⟨source, rfl, unread, -⟩ := short
  rw [unread]
  constructor
  · intro first
    exact List.prefix_of_prefix_length_le first (List.prefix_append _ _) enough
  · intro first
    exact first.trans (List.prefix_append _ _)

/-- Where the bytes in front of the missing ones are too few, some of these are taken. -/
lemma Short.unread_pull_lt {count : Nat} (short : Short ending missing cut full)
    (few : cut.source.unread.length < count) (lost : missing ≠ []) :
    (full.source.pull count).2.unread.length < missing.length := by
  obtain ⟨source, rfl, unread, -⟩ := short
  have length := List.length_pos_iff.2 lost
  rw [Source.unread_pull, unread, List.length_drop, List.length_append]
  simp only at few
  omega

/-- More is left than is missing. -/
lemma Short.length_le (short : Short ending missing cut full) :
    missing.length ≤ full.source.unread.length := by
  obtain ⟨source, -, unread, -⟩ := short
  rw [unread, List.length_append]
  exact Nat.le_add_left _ _

end Reader

namespace Read

open Reader

variable {α β : Type} {ending : Ending} {missing : Bytes} {cut full : Reader}

/-- The runs without the missing bytes, `part`, and with them, `whole`, end with the same fault; or
the one meets the end of its bytes, and the other one takes some of the missing ones. -/
inductive Parted (ending : Ending) (missing : Bytes) :
    (part whole : EStateM.Result Fault Reader α) → Prop
  | error {fault : Fault} {cut full : Reader} (short : Short ending missing cut full) :
      Parted ending missing (.error fault cut) (.error fault full)
  | beyond {last : Reader} {whole : EStateM.Result Fault Reader α}
      (taken : unreadAfter whole < missing.length) :
      Parted ending missing (.error ending.fault last) whole

/-- A reader from which the last bytes are kept, beside one that has them. -/
def cutShort (ending : Ending) (missing : Bytes) : Pairing where
  Near := Short ending missing
  Behind _ := Short ending missing
  Ready _ := True
  Ended := Parted ending missing

lemma final_cutShort : (cutShort ending missing).Final where
  throw _ short := .error short
  bind {_ _ step next cut full} ended taking := by
    generalize part : step cut = left, whole : step full = right at ended
    cases ended with
    | error short =>
      rw [bind_of_error part, bind_of_error whole]
      exact .error short
    | beyond taken =>
      rw [← whole] at taken
      rw [bind_of_error part]
      exact .beyond ((unreadAfter_bind_le taking full).trans_lt taken)

/-- Bytes are asked for: there are enough of them, or some of the missing ones are taken. -/
lemma meets_bytes (count : Nat) (lost : missing ≠ []) (short : Short ending missing cut full) :
    (cutShort ending missing).Meets (fun _ => Short ending missing) (Read.bytes count cut)
      (Read.bytes count full) := by
  rcases Nat.lt_or_ge cut.source.unread.length count with few | enough
  · have taken := short.unread_pull_lt few lost
    rw [← source_left_bytes] at taken
    obtain ⟨source, rfl, -, ended⟩ := short
    have length := length_take_ne few
    have broken : Read.bytes count { full with source } =
        .error ending.fault { full with source := (source.pull count).2 } := by
      simp only [Read.bytes, Source.pull_fst, if_neg length, Source.ending_pull, ended]
    rw [broken]
    exact .ended (.beyond taken)
  · have length := List.length_take_of_le enough
    have front := List.take_prefix count cut.source.unread
    have front' := (short.prefix_iff (length.trans_le enough)).2 front
    rw [bytes_eq_ok.2 ⟨length, front, rfl⟩, bytes_eq_ok.2 ⟨length, front', rfl⟩]
    exact .ok (short.advance enough)

/-- Bytes are passed over: there are enough of them, or some of the missing ones are taken. -/
lemma meets_pass (count : Nat) (lost : missing ≠ []) (short : Short ending missing cut full) :
    (cutShort ending missing).Meets (fun _ => Short ending missing) (pass count cut)
      (pass count full) := by
  rcases Nat.lt_or_ge cut.source.unread.length count with few | enough
  · have taken := short.unread_pull_lt few lost
    rw [← source_left_pass] at taken
    obtain ⟨source, rfl, -, rfl⟩ := short
    have length := length_take_ne few
    have broken : ∃ last, pass count { full with source } = .error source.ending.fault last := by
      simp only [pass, Source.pull_fst, if_neg length, Source.ending_pull]
      cases source.ending with
      | closed => exact ⟨_, rfl⟩
      | broken breakdown => exact ⟨_, rfl⟩
    obtain ⟨last, failed⟩ := broken
    rw [failed]
    exact .ended (.beyond taken)
  · have enough' : count ≤ full.source.unread.length := by
      obtain ⟨source, rfl, unread, -⟩ := short
      rw [unread, List.length_append]
      exact Nat.le_add_right_of_le enough
    have passed : pass count cut = .ok () (cut.advance count) := pass_eq_ok.2 ⟨enough, rfl⟩
    have passed' : pass count full = .ok () (full.advance count) := pass_eq_ok.2 ⟨enough', rfl⟩
    rw [passed, passed']
    exact .ok (short.advance enough)

/-- A content is read: there are enough bytes for it, or some of the missing ones are taken. -/
lemma meets_content (type : ScalarType) (tag : Tag) (length : Nat) (lost : missing ≠ [])
    (short : Short ending missing cut full) :
    (cutShort ending missing).Meets (fun _ => Short ending missing) (content type tag length cut)
      (content type tag length full) := by
  have padded {cut full : Reader} (short : Short ending missing cut full) :
      (cutShort ending missing).Meets (fun _ => Short ending missing) (padding tag length cut)
        (padding tag length full) := by
    refine final_cutShort.meets_bind (meets_bytes _ lost short) (fun bytes _ _ _ _ short => ?_)
      fun bytes => ?_
    all_goals split
    · exact final_cutShort.meets_throw _ short
    · exact .ok short
    · exact taking_throw _
    · exact taking_pure _
  refine final_cutShort.meets_bind (final_cutShort.meets_lift _ short)
    (fun _ _ _ _ _ short => final_cutShort.meets_bind (meets_bytes length lost short)
      (fun content _ _ _ _ short => final_cutShort.meets_bind (padded short)
        (fun _ _ _ _ _ short => final_cutShort.meets_lift _ short)
        fun _ => kept_taking.lift _ decode_error)
      fun content => ?_) fun _ => ?_
  · exact (kept_taking.padding tag length).bind fun _ => kept_taking.lift _ decode_error
  · exact (taking_bytes length).bind fun _ => (kept_taking.padding tag length).bind fun _ =>
      kept_taking.lift _ decode_error

/-- Where there are too few bytes for a header, none is found; at the top level of a closed source
that is no fault yet. -/
lemma header?_of_few {reader : Reader} (pending : reader.pending = none)
    (inner : reader.atStop = false) (few : reader.source.unread.length < 8) :
    (∃ last, header? reader = .error reader.source.ending.fault last) ∨
      reader.opened = [] ∧ reader.source.ending = .closed ∧
        ∃ last, header? reader = .ok none last := by
  have absent : Header.ofBytes? (reader.source.unread.take 8) = none :=
    Header.ofBytes?_eq_none (length_take_ne few)
  simp only [header?, pending, inner, absent, Source.pull_fst, Source.ending_pull,
    Option.isSome_none, Bool.false_eq_true, if_false]
  cases ended : reader.source.ending with
  | broken breakdown => exact .inl ⟨_, rfl⟩
  | closed =>
    by_cases top : reader.source.unread.take 8 = [] ∧ reader.opened = []
    · exact .inr ⟨top.2, rfl, _, if_pos top⟩
    · exact .inl ⟨_, if_neg top⟩

/-- A look at a header that can be read finds it, or refuses it for the length that it declares. -/
lemma header?_of_ofBytes? {reader : Reader} {header : Header} (pending : reader.pending = none)
    (inside : reader.atStop = false)
    (read : Header.ofBytes? (reader.source.unread.take 8) = some header) :
    header? reader =
      if ¬ header.isStructure ∧ reader.config.maxValueLength < header.length then
        .error (.valueTooLarge header.length reader.config.maxValueLength) (reader.advance 8)
      else .ok (some header) (reader.looking header) := by
  have length : (reader.source.unread.take 8).length = 8 := by
    rw [(Header.ofBytes?_eq_some.1 read).1, Header.length_bytes]
  simp only [header?, inside, Source.pull_fst, read, length, pending, Option.isSome_none,
    Bool.false_eq_true, if_false]
  rw [Reader.advance, Reader.looking, Reader.advance, pending]

/-- A look at the next header finds the same one, or takes some of the missing bytes; at the top level
of a closed source, none may be found instead. -/
lemma header?_of_short (lost : missing ≠ []) (short : Short ending missing cut full) :
    (cutShort ending missing).Meets (fun _ => Short ending missing) (header? cut) (header? full) ∨
      full.opened = [] ∧ ending = .closed ∧ (∃ last, header? cut = .ok none last) ∧
        unreadAfter (header? full) < missing.length := by
  cases pending : full.pending with
  | some waiting =>
    have waits : full.pending.isSome := by rw [pending]; rfl
    rw [header?_of_pending (short.pending_eq ▸ waits), header?_of_pending waits, short.pending_eq]
    exact .inl (.ok short)
  | none =>
    have pending' := short.pending_eq.trans pending
    cases inside : full.atStop with
    | true =>
      rw [header?_of_atStop pending' (short.atStop_eq.trans inside),
        header?_of_atStop pending inside]
      exact .inl (.ok short)
    | false =>
      have inside' := short.atStop_eq.trans inside
      rcases Nat.lt_or_ge cut.source.unread.length 8 with few | enough
      · have taken := short.unread_pull_lt few lost
        rw [← source_left_header? pending inside] at taken
        obtain ⟨last, failed⟩ | ⟨top, closed, none⟩ := header?_of_few pending' inside' few
        · rw [failed, short.ending_eq]
          exact .inl (.ended (.beyond taken))
        · exact .inr ⟨short.opened_eq ▸ top, short.ending_eq ▸ closed, none, taken⟩
      · have same : full.source.unread.take 8 = cut.source.unread.take 8 := by
          obtain ⟨source, rfl, unread, -⟩ := short
          rw [unread, List.take_append_of_le_length enough]
        obtain ⟨header, read⟩ := Header.exists_ofBytes? (List.length_take_of_le enough)
        rw [header?_of_ofBytes? pending' inside' read,
          header?_of_ofBytes? pending inside (same ▸ read), short.config_eq]
        refine .inl ?_
        split
        · exact .ended (.error (short.advance enough))
        · exact .ok (short.looking enough)

/-- A header that must be there is the same one, or some of the missing bytes are taken. -/
lemma meets_front (lost : missing ≠ []) (short : Short ending missing cut full) :
    (cutShort ending missing).Meets (fun _ cut full => Short ending missing cut full ∧
        Short ending missing { cut with pending := none } { full with pending := none })
      (front cut) (front full) := by
  obtain meets | ⟨-, rfl, ⟨last, none⟩, taken⟩ := header?_of_short lost short
  · refine final_cutShort.meets_bind meets (fun found _ _ _ _ short => ?_) taking_found
    cases found with
    | none => exact .ended (.error short)
    | some header => exact .ok ⟨short, short.dropped⟩
  · have failed : front cut = .error Ending.closed.fault last := bind_of_ok none
    rw [failed]
    exact .ended (.beyond ((unreadAfter_bind_le taking_found full).trans_lt taken))

/-- A structure is entered, or not, whatever is in it. -/
lemma meets_enter (tag : Tag) (length : Nat) (short : Short ending missing cut full) :
    (cutShort ending missing).Meets (fun _ => Short ending missing) (enter tag length cut)
      (enter tag length full) := by
  obtain ⟨source, rfl, unread, ended⟩ := short
  simp only [enter, depth]
  split
  · exact .ended (.error ⟨source, rfl, unread, ended⟩)
  · split
    · exact .ok ⟨source, rfl, unread, ended⟩
    · split
      · exact .ended (.error ⟨source, rfl, unread, ended⟩)
      · exact .ok ⟨source, rfl, unread, ended⟩

/-- A structure is left, with or without a report, whatever is behind it. -/
lemma meets_structureEnd (short : Short ending missing cut full) :
    (cutShort ending missing).Meets (fun _ => Short ending missing) (structureEnd cut)
      (structureEnd full) := by
  obtain ⟨source, rfl, unread, ended⟩ := short
  simp only [structureEnd]
  split
  · exact .ended (.error ⟨source, rfl, unread, ended⟩)
  · split
    · exact .ended (.error ⟨source, rfl, unread, ended⟩)
    · exact .ok ⟨source, rfl, unread, ended⟩

lemma lawful_cutShort (lost : missing ≠ []) : (cutShort ending missing).Lawful where
  toFinal := final_cutShort
  config := Short.config_eq
  ready _ := trivial
  stop _ short := .error short
  header? short inner := (header?_of_short lost short).resolve_right fun top => inner top.1
  front short _ := meets_front lost short
  content tag _ short := meets_content _ tag _ lost short
  pass _ short := meets_pass _ lost short
  enter tag _ short := meets_enter tag _ short
  structureEnd := meets_structureEnd

/-- Without some of the bytes, the step comes to the same, or runs into the end of those that there
are and takes some of the others if it has them. -/
def Truncates (step : Read α) : Prop :=
  ∀ {ending : Ending} {missing : Bytes} {cut full : Reader}, missing ≠ [] →
    Short ending missing cut full →
      (cutShort ending missing).Meets (fun _ => Short ending missing) (step cut) (step full)

/-- Items do not make up for missing bytes. -/
lemma truncates_item : Truncates item :=
  fun lost short => (lawful_cutShort lost).items_item short trivial

end Read

/-- Records do not make up for missing bytes. -/
lemma Record.truncates_read (record : Record) : Read.Truncates record.read :=
  fun lost short =>
    ((Read.lawful_cutShort lost).closed.shape record.tag record.shape record.blank).1 short trivial

end Kmip
