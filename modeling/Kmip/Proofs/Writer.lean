import Kmip.Proofs.Shape
import Kmip.Writer.Call

/-!
# What a writer writes

An item is written in several writes, and a structure by way of a buffer; in the sink this is the
same as a single write of its encoding (`Item.write_eq`, `Shape.write_eq`), and fields are the same
as their encodings one after the other, up to the first that is refused (`Fields.write_eq`). So every
call of a writer is one such list of encodings (`Write.Call.step_eq`), of which `Encoded.front` is
what comes before the first that is refused.
-/

namespace Kmip

namespace Encoded

/-- The bytes in front of the first item that is refused. -/
def front : List Encoded → Bytes
  | [] => []
  | .ok bytes :: rest => bytes ++ front rest
  | .error _ :: _ => []

/-- How items that follow each other end: with the first that is refused, if there is one. -/
def verdict : List Encoded → Except Fault Unit
  | [] => .ok ()
  | .ok _ :: rest => verdict rest
  | .error fault :: _ => .error fault

variable {items : List Encoded} {fault : Fault}

/-- Without a refusal, all items are written. -/
lemma eq_of_verdict_ok (whole : verdict items = .ok ()) :
    ∃ each : List Bytes, items = each.map .ok ∧ front items = each.flatten := by
  induction items with
  | nil => exact ⟨[], rfl, rfl⟩
  | cons first rest ih =>
    cases first with
    | error fault => cases whole
    | ok bytes =>
      obtain ⟨each, rfl, written⟩ := ih whole
      exact ⟨bytes :: each, rfl, congrArg (bytes ++ ·) written⟩

/-- A refusal stands behind the items that are written. -/
lemma eq_of_verdict_error (refused : verdict items = .error fault) :
    ∃ (each : List Bytes) (behind : List Encoded), items = each.map .ok ++ .error fault :: behind ∧
      front items = each.flatten := by
  induction items with
  | nil => cases refused
  | cons first rest ih =>
    cases first with
    | error other =>
      obtain rfl : other = fault := Except.error.inj refused
      exact ⟨[], rest, rfl, rfl⟩
    | ok bytes =>
      obtain ⟨each, behind, rfl, written⟩ := ih refused
      exact ⟨bytes :: each, behind, rfl, congrArg (bytes ++ ·) written⟩

/-- Items are encoded together as they are one after the other. -/
lemma concat_eq : concat items = (verdict items).map fun _ => front items := by
  induction items with
  | nil => rfl
  | cons first rest ih =>
    cases first with
    | error fault => rfl
    | ok bytes =>
      simp only [concat, ih, verdict, front]
      cases verdict rest <;> rfl

end Encoded

namespace Write

/-- What writing so many bytes and then ending so makes of a sink: a sink that has no room for all of
them takes what fits, and is reported. -/
def outcome (added : Bytes) (result : Except Fault Unit) (sink : Sink) : Except Fault Unit × Sink :=
  match sink.room with
  | none => (result, { sink with written := sink.written ++ added })
  | some room =>
    (if added.length ≤ room then result else .error sink.breakdown.fault,
      { sink with
        written := sink.written ++ added.take room, room := some (room - added.length) })

/-- Two writes one after the other are one write of all bytes. -/
lemma bytes_append (first second : Bytes) :
    bytes (first ++ second) = (do bytes first; bytes second) := by
  funext sink
  simp only [bytes, bind, EStateM.bind]
  cases sink.room with
  | none => simp only [List.append_assoc]
  | some room =>
    by_cases fits : first.length ≤ room
    · have all : first.take room = first := List.take_of_length_le fits
      have left : first.length + second.length ≤ room ↔ second.length ≤ room - first.length := by
        omega
      simp only [fits, if_true, left, List.take_append, all, List.length_append, List.append_assoc,
        Nat.sub_sub]
    · -- the sink is full in the first write, and what would follow is not tried
      have beyond : ¬ first.length + second.length ≤ room := by omega
      have full : room - first.length = 0 := by omega
      simp only [fits, beyond, if_false, List.take_append, full, List.take_zero, List.append_nil,
        List.length_append, ← Nat.sub_sub, Nat.zero_sub]

@[simp] lemma bytes_nil : bytes [] = pure () := by
  funext sink
  obtain ⟨written, room, breakdown⟩ := sink
  cases room <;> simp [bytes, pure, EStateM.pure]

/-- A write of some bytes, and then an end that does not depend on the sink. -/
lemma run_bytes_lift (added : Bytes) (result : Except Fault Unit) (sink : Sink) :
    run (do bytes added; lift result) sink = outcome added result sink := by
  simp only [run, bytes, bind, EStateM.bind, outcome]
  cases sink.room with
  | none => cases result <;> rfl
  | some room =>
    by_cases fits : added.length ≤ room
    · simp only [fits, if_true]
      cases result <;> rfl
    · simp only [fits, if_false]

/-- A sink without a bound takes what has an encoding. -/
lemma item_eq_ok {encoded : Encoded} {sink next : Sink} (unlimited : sink.room = none) :
    item encoded sink = .ok () next ↔
      ∃ added, encoded = .ok added ∧ next = { sink with written := sink.written ++ added } := by
  cases encoded with
  | ok added => simp [item, bytes, unlimited, eq_comm]
  | error fault =>
    constructor
    · intro failed
      cases failed
    · rintro ⟨_, encoded, -⟩
      cases encoded

/-- A sink without a bound is left as it was by what has no encoding. -/
lemma item_eq_error {encoded : Encoded} {sink next : Sink} {fault : Fault}
    (unlimited : sink.room = none) :
    item encoded sink = .error fault next ↔ encoded = .error fault ∧ next = sink := by
  cases encoded with
  | ok added => simp [item, bytes, unlimited]
  | error refused =>
    constructor
    · intro failed
      obtain ⟨rfl, rfl⟩ := EStateM.Result.error.inj failed
      exact ⟨rfl, rfl⟩
    · rintro ⟨same, rfl⟩
      cases same
      rfl

/-- Encoded items are written as the bytes in front of the first that is refused. -/
lemma each_eq (items : List Encoded) :
    each items = (do bytes (Encoded.front items); lift (Encoded.verdict items)) := by
  induction items with
  | nil => simp [each, Encoded.front, Encoded.verdict, lift]
  | cons first rest ih =>
    cases first with
    | error fault =>
      rw [Encoded.front, Encoded.verdict, bytes_nil, pure_bind]
      rfl
    | ok added => rw [each, item, ih, Encoded.front, Encoded.verdict, bytes_append, bind_assoc]

/-- How a write of encoded items ends, and what it makes of the sink. -/
lemma run_each (items : List Encoded) (sink : Sink) :
    run (each items) sink = outcome (Encoded.front items) (Encoded.verdict items) sink := by
  rw [each_eq, run_bytes_lift]

lemma each_append (first second : List Encoded) :
    each (first ++ second) = (do each first; each second) := by
  induction first with
  | nil => simp [each]
  | cons head tail ih => rw [List.cons_append, each, each, ih, bind_assoc]

@[simp] lemma each_singleton (encoded : Encoded) : each [encoded] = item encoded := by
  simp [each]

/-- An encoding that is made in two steps is written after the first. -/
lemma item_bind {α : Type} (first : Except Fault α) (next : α → Encoded) :
    item (first >>= next) = (do let value ← lift first; item (next value)) := by
  cases first <;> rfl

/-- A header, and what follows it in one or in several writes. -/
lemma header_bind (tag : Tag) (type : ItemType) (content : Bytes) (rest : Write)
    (written : rest = bytes (content ++
      if type = .structured then [] else Bytes.zeros (paddingLength content.length))) :
    (do header tag type content.length; rest) = item (Encoded.frame tag type content) := by
  unfold header Encoded.frame
  split
  · rfl
  · split
    · rfl
    · rw [written, ← bytes_append, item]
      simp only [List.append_assoc, List.cons_append]

lemma padded_eq (content : Bytes) :
    padded content = bytes (content ++ Bytes.zeros (paddingLength content.length)) := by
  rw [padded, bytes_append]
  split
  · rfl
  · next whole =>
    rw [not_not] at whole
    rw [whole, Bytes.zeros, List.replicate_zero, bytes_nil]

/-- A content that is not padded does not need it. -/
lemma paddingLength_of_not_isPadded {type : ScalarType} (value : type.Content)
    (whole : ¬ type.isPadded) : paddingLength (type.encode value).length = 0 := by
  have groups : (type.encode value).length % 8 = 0 := by
    cases type with
    | longInteger | boolean | dateTime | dateTimeExtended => simp [ScalarType.encode]
    | bigInteger => exact BigInteger.length_encode_mod value
    | integer | enumeration | interval | textString | byteString => exact absurd rfl whole
  unfold paddingLength
  omega

/-- A single value is written as its encoding. -/
lemma scalar_eq (type : ScalarType) (tag : Tag) (value : type.Content) :
    scalar type tag value = item (Encoded.scalar type tag value) := by
  have plain : ItemType.scalar type ≠ .structured := by simp
  refine header_bind tag (.scalar type) (type.encode value) _ ?_
  rw [if_neg plain]
  split
  · exact padded_eq _
  · next whole =>
    rw [paddingLength_of_not_isPadded value whole, Bytes.zeros, List.replicate_zero,
      List.append_nil]

/-- A structure is written as a frame around what is in its buffer. -/
lemma structured_eq (tag : Tag) (content : Write) :
    structured tag content =
      item (do Encoded.frame tag .structured (← buffered content)) := by
  rw [structured, item_bind]
  congr 1
  funext items
  exact header_bind tag .structured items _ (by rw [if_pos rfl, List.append_nil])

/-- What is in a buffer is known from how the write ends, and from what is behind it. -/
lemma buffered_eq (content : Write) :
    buffered content = (run content .empty).1.map fun _ => (run content .empty).2.written := by
  unfold buffered run
  cases content .empty <;> rfl

/-- A buffer takes encoded items together. -/
lemma buffered_each (items : List Encoded) : buffered (each items) = Encoded.concat items := by
  rw [buffered_eq, run_each, Encoded.concat_eq]
  rfl

/-- A structure of encoded items is written as its encoding. -/
lemma structured_each (tag : Tag) (items : List Encoded) :
    structured tag (each items) = item (Encoded.structured tag items) := by
  rw [structured_eq, buffered_each, Encoded.structured]

end Write

open Write

/-- Items that are each written as their encodings are written one after the other. -/
lemma Item.writeEach_eq {items : List Item}
    (one : ∀ item ∈ items, ∀ tag, item.value.write tag = Write.item (item.value.encode tag)) :
    Item.writeEach items = each (Item.encodeEach items) := by
  induction items with
  | nil => rfl
  | cons first rest ih =>
    obtain ⟨text, value⟩ := first
    obtain ⟨head, tail⟩ := List.forall_mem_cons.1 one
    rw [writeEach, encodeEach, each, item_bind, bind_assoc, ih tail]
    simp only [head]

/-- A value is written as its encoding. -/
lemma Value.write_eq (value : Value) : ∀ tag, value.write tag = Write.item (value.encode tag) := by
  induction value with
  | scalar type content => exact fun tag => scalar_eq type tag content
  | structured items ih =>
    intro tag
    rw [write, encode, Item.writeEach_eq ih, structured_each]

/-- An item is written as its encoding. -/
lemma Item.write_eq (item : Item) : item.write = Write.item item.encode := by
  rw [write, encode, item_bind]
  simp only [Value.write_eq]

/-- A leaf is written as its encoding. -/
lemma Leaf.write_eq (leaf : Leaf) (tag : Tag) (value : leaf.Val) :
    leaf.write tag value = Write.item (leaf.encode tag value) := by
  cases leaf with
  | interval =>
    rw [write, encode, item_bind]
    simp only [scalar_eq]
  | anything => exact Value.write_eq value tag
  | integer | longInteger | bigInteger | boolean | text | bytes | dateTime | timeStamp
  | enumeration | usageMask => exact scalar_eq _ tag _

/-- A field is written as the encoding of its value, if it has one. -/
lemma Presence.write_eq {α : Type} {write : α → Write} {encode : α → Encoded}
    (same : ∀ value, write value = Write.item (encode value)) (presence : Presence)
    (value : presence.Val α) :
    presence.write write value = each ((presence.values value).map encode) := by
  cases presence with
  | required => exact (same value).trans (each_singleton _).symm
  | optional =>
    cases value with
    | none => rfl
    | some value => exact (same value).trans (each_singleton _).symm

/-- Values are written one after the other as their encodings are. -/
lemma Write.list_eq {α : Type} {write : α → Write} {encode : α → List Encoded} (values : List α)
    (same : ∀ value, write value = each (encode value)) :
    list write values = each (values.flatMap encode) := by
  induction values with
  | nil => rfl
  | cons first rest ih => rw [list, List.flatMap_cons, each_append, same, ih]

mutual

/-- A value is written as its encoding. -/
lemma Shape.write_eq (shape : Shape) (tag : Tag) (value : shape.Val) :
    shape.write tag value = Write.item (shape.encode tag value) := by
  cases shape with
  | leaf leaf => exact leaf.write_eq tag value
  | choice variants => exact variants.write_eq tag value
  | record name own fields =>
    rw [Shape.write, Shape.encode, fields.write_eq name value, structured_each]

/-- Fields are written one after the other as their encodings are. -/
lemma Fields.write_eq (fields : Fields) (record : String) (values : fields.Val) :
    fields.write record values = each (fields.encodeEach record values) := by
  cases fields with
  | nil => rfl
  | one presence tag label shape rest =>
    obtain ⟨value, values⟩ := values
    rw [Fields.write, Fields.encodeEach, Presence.map_toList, each_append,
      rest.write_eq record values, presence.write_eq (shape.write_eq tag)]
  | many atLeastOne tag label shape rest =>
    obtain ⟨items, values⟩ := values
    have each_item (item : shape.Val) : shape.write tag item = each [shape.encode tag item] :=
      (shape.write_eq tag item).trans (each_singleton _).symm
    rw [Fields.write, Fields.encodeEach, each_append]
    split
    · rfl
    · rw [Write.list_eq items each_item, ← List.map_eq_flatMap, rest.write_eq record values]
  | embedded label name tag fields rest =>
    obtain ⟨inner, values⟩ := values
    rw [Fields.write, Fields.encodeEach, each_append, fields.write_eq name inner,
      rest.write_eq record values]
  | keyed selector keyTag keyLabel between presence tag label variants rest =>
    obtain ⟨key, inner, value, values⟩ := values
    -- the check of the variant is part of the encoding of the value
    have chosen (one : variants.Val) : (do
        Write.lift ((Selection.of selector key).check variants one)
        variants.write tag one) = Write.item (do
          (Selection.of selector key).check variants one
          variants.encode tag one) := by
      rw [item_bind, variants.write_eq tag one]
    simp only [Fields.write, Fields.encodeEach, Presence.map_toList, presence.write_eq chosen,
      selector.leaf.write_eq keyTag key, between.write_eq record inner,
      rest.write_eq record values, List.cons_append, each, each_append, bind_assoc]

/-- A value of one of the variants is written as its encoding. -/
lemma Variants.write_eq (variants : Variants) (tag : Tag) (value : variants.Val) :
    variants.write tag value = Write.item (variants.encode tag value) := by
  cases variants with
  | only label shape => exact shape.write_eq tag value
  | or label shape rest =>
    cases value with
    | inl value => exact shape.write_eq tag value
    | inr value => exact rest.write_eq tag value

end

namespace Write.Call

mutual

/-- The encodings of what a call writes, one after the other. -/
def parts : Call → List Encoded
  | typed type tag value => [.scalar type tag value]
  | item held => [held.encode]
  | valueAs tag value => [value.encode tag]
  | structured tag content => [.structured tag (partsEach content)]
  | field tag presence shape value => (presence.values value).map (shape.encode tag)
  | repeated tag presence shape values =>
    values.flatMap fun value => (presence.values value).map (shape.encode tag)
  | embedded record value => record.fields.encodeEach record.name value

/-- The encodings of what calls write, one after the other. -/
def partsEach : List Call → List Encoded
  | [] => []
  | first :: rest => first.parts ++ partsEach rest

end

/-- What holds of a structure when it holds of all calls for its content, and of every other call,
holds of all calls. -/
@[induction_eliminator]
theorem induction {motive : Call → Prop}
    (typed : ∀ type tag value, motive (.typed type tag value))
    (item : ∀ held, motive (.item held))
    (valueAs : ∀ tag value, motive (.valueAs tag value))
    (structured : ∀ tag content, (∀ call ∈ content, motive call) →
      motive (.structured tag content))
    (field : ∀ tag presence shape value, motive (.field tag presence shape value))
    (repeated : ∀ tag presence shape values, motive (.repeated tag presence shape values))
    (embedded : ∀ record value, motive (.embedded record value)) (call : Call) : motive call :=
  @Call.rec motive (fun calls => ∀ call ∈ calls, motive call) typed item valueAs structured field
    repeated embedded (List.forall_mem_nil _)
    (fun _ _ first rest => List.forall_mem_cons.2 ⟨first, rest⟩) call

/-- Calls that each write their encodings write them one after the other. -/
lemma steps_eq {calls : List Call} (one : ∀ call ∈ calls, call.step = each call.parts) :
    steps calls = each (partsEach calls) := by
  induction calls with
  | nil => rfl
  | cons first rest ih =>
    obtain ⟨head, tail⟩ := List.forall_mem_cons.1 one
    rw [steps, partsEach, each_append, head, ih tail]

/-- A call writes its encodings one after the other, up to the first that is refused. -/
lemma step_eq (call : Call) : call.step = each call.parts := by
  induction call with
  | typed type tag value => exact (scalar_eq type tag value).trans (each_singleton _).symm
  | item held => exact held.write_eq.trans (each_singleton _).symm
  | valueAs tag value => exact (value.write_eq tag).trans (each_singleton _).symm
  | structured tag content ih =>
    rw [step, parts, steps_eq ih, structured_each, each_singleton]
  | field tag presence shape value => exact presence.write_eq (shape.write_eq tag) value
  | repeated tag presence shape values =>
    exact list_eq values (presence.write_eq (shape.write_eq tag))
  | embedded record value => exact record.fields.write_eq record.name value

/-- How a call ends, and what it makes of the sink. -/
lemma run_step (call : Call) (sink : Sink) :
    run call.step sink =
      outcome (Encoded.front call.parts) (Encoded.verdict call.parts) sink := by
  rw [step_eq, run_each]

end Write.Call

end Kmip
