import Kmip.Message
import Kmip.Proofs.Regular
import Kmip.Proofs.Tag

/-!
# Batches that fit together

What a message says about its batch items in two places: the header tells how many there are, and
each item tells the operation that the variant of its payload is named for. Where there are several
items, each of them needs an identifier. A message is valid exactly if these agree
(`Message.validate_iff`); whether two items have the same identifier makes no difference
(`Request.validate_of_same_id`).
-/

namespace Kmip

namespace Operation

/-- An operation is found by its name. -/
lemma named?_name (operation : Operation) :
    Domain.operation.named? operation.name = some operation := by
  have codes : ∀ entry ∈ Domain.operation.members,
      Domain.operation.codeOf? entry.1 = some entry.2 := by decide +kernel
  obtain ⟨code, known⟩ := operation
  obtain ⟨name, named⟩ := Option.isSome_iff_exists.1 known
  obtain ⟨entry, found, rfl⟩ := Option.map_eq_some_iff.1 named
  obtain rfl : entry.2 = code := by simpa using List.find?_some found
  have name : Domain.Member.name ⟨entry.2, known⟩ = entry.1 := by simp [Domain.Member.name, named]
  rw [name, Domain.named?, codes entry (List.mem_of_find?_eq_some found)]
  exact Domain.member?_code ⟨entry.2, known⟩

/-- The operation of a payload is the one that its variant is named for. -/
lemma ofPayload_eq_iff {variants : Variants}
    (named : ∀ label ∈ variants.labels, ∃ operation : Operation, operation.name = label)
    {payload : variants.Val} {operation : Operation} :
    ofPayload variants payload = operation ↔ variants.labelOf payload = operation.name := by
  obtain ⟨own, name⟩ := named _ (variants.labelOf_mem payload)
  have found : ofPayload variants payload = own := by
    rw [ofPayload, ← name, named?_name]
    rfl
  rw [found, ← name]
  constructor
  · rintro rfl
    rfl
  · intro same
    have read := named?_name own
    rw [same, named?_name] at read
    exact (Option.some.inj read).symm

end Operation

namespace Batch

/-- What the header and the other items are compared with of a batch item. -/
structure Part (variants : Variants) where
  operation : Operation
  payload : Option variants.Val
  id : Option Bytes

/-- The part as it is checked, with the operation of its payload in place of the payload. -/
def Part.entry {variants : Variants} (part : Part variants) : Entry :=
  ⟨part.operation, part.payload.map (Operation.ofPayload variants), part.id⟩

/-- The parts of a batch fit together, and are as many as the header tells. -/
structure Consistent {variants : Variants} (count : Int32) (parts : List (Part variants)) :
    Prop where
  counted : count.toInt = parts.length
  /-- A payload has the variant that is named for the operation of its item. -/
  own : ∀ part ∈ parts, ∀ payload ∈ part.payload, variants.labelOf payload = part.operation.name
  /-- Where there are several items, each of them has an identifier. -/
  identified : 1 < parts.length → ∀ part ∈ parts, part.id.isSome

/-- A payload passes if it belongs to the operation of its item. -/
lemma Entry.mismatch?_eq_none {entry : Entry} :
    entry.mismatch? = none ↔ ∀ payload ∈ entry.payload, payload = entry.operation := by
  obtain ⟨operation, payload, id⟩ := entry
  cases payload <;> simp [mismatch?, eq_comm]

/-- What the check of a batch lets through. -/
lemma check_eq_ok {count : Int32} {entries : List Entry} :
    check count entries = .ok () ↔ count.toInt = entries.length ∧
      (∀ entry ∈ entries, ∀ payload ∈ entry.payload, payload = entry.operation) ∧
      (1 < entries.length → ∀ entry ∈ entries, entry.id.isSome) := by
  have matching : entries.findSome? Entry.mismatch? = none ↔
      ∀ entry ∈ entries, ∀ payload ∈ entry.payload, payload = entry.operation := by
    simp only [List.findSome?_eq_none_iff, Entry.mismatch?_eq_none]
  have missing : (entries.any fun entry => entry.id.isNone) = true ↔
      ¬ ∀ entry ∈ entries, entry.id.isSome := by
    simp
  -- the count is compared first, and then the payloads
  unfold check
  split
  · next other => simp [other]
  · next same =>
    cases found : entries.findSome? Entry.mismatch? with
    | some failure =>
      have wrong : ¬ ∀ entry ∈ entries, ∀ payload ∈ entry.payload, payload = entry.operation :=
        fun right => by simp [matching.2 right] at found
      simp only [reduceCtorEq, false_iff]
      exact fun fits => wrong fits.2.1
    | none =>
      have own := matching.1 found
      simp only [missing]
      split
      · next lacks =>
        simp only [reduceCtorEq, false_iff]
        exact fun fits => lacks.2 (fits.2.2 lacks.1)
      · next complete =>
        simp only [true_iff]
        exact ⟨not_not.1 same, own, fun several => not_not.1 (not_and.1 complete several)⟩

/-- A batch of items passes if its parts fit together. -/
lemma check_map_entry {variants : Variants}
    (named : ∀ label ∈ variants.labels, ∃ operation : Operation, operation.name = label)
    {count : Int32} {parts : List (Part variants)} :
    check count (parts.map Part.entry) = .ok () ↔ Consistent count parts := by
  have own (part : Part variants) :
      (∀ payload ∈ part.entry.payload, payload = part.entry.operation) ↔
        ∀ payload ∈ part.payload, variants.labelOf payload = part.operation.name := by
    simp only [Part.entry, Option.mem_map, forall_exists_index, and_imp]
    constructor
    · intro all payload mem
      exact (Operation.ofPayload_eq_iff named).1 (all _ payload mem rfl)
    · rintro all _ payload mem rfl
      exact (Operation.ofPayload_eq_iff named).2 (all payload mem)
  simp only [check_eq_ok, List.length_map, List.forall_mem_map, own]
  constructor
  · rintro ⟨counted, own, identified⟩
    exact ⟨counted, own, identified⟩
  · exact fun fits => ⟨fits.counted, fits.own, fits.identified⟩

end Batch

/-- What is compared of a batch item of a request. -/
def RequestItem.part : RequestItem → Batch.Part Records.requestPayloadVariants
  | (operation, (id, _), payload, _) => ⟨operation, some payload, id⟩

/-- What is compared of a batch item of a response. -/
def ResponseItem.part : ResponseItem → Batch.Part Records.responsePayloadVariants
  | (operation, (id, _), payload, _) => ⟨operation, payload, id⟩

/-- Every payload of a request or of a response is named for an operation. -/
lemma Records.exists_operation_of_label :
    ∀ label ∈ requestPayloadVariants.labels ++ responsePayloadVariants.labels,
      ∃ operation : Operation, operation.name = label := by
  have codes : ∀ label ∈ requestPayloadVariants.labels ++ responsePayloadVariants.labels,
      ∃ operation, Domain.operation.named? label = some operation ∧ operation.name = label := by
    simp only [Variants.labels]
    decide +kernel
  exact fun label mem => (codes label mem).imp fun _ => And.right

/-- A message is valid exactly if its header counts its items, every payload is the payload of the
operation of its item, and every item has an identifier where there are several of them. -/
theorem Message.validate_iff :
    (∀ request : Request, request.validate = .ok () ↔
      Batch.Consistent request.batchCount (request.items.map RequestItem.part)) ∧
    (∀ response : Response, response.validate = .ok () ↔
      Batch.Consistent response.batchCount (response.items.map ResponseItem.part)) := by
  constructor
  · intro request
    have named : ∀ label ∈ Records.requestPayloadVariants.labels,
        ∃ operation : Operation, operation.name = label :=
      fun label mem => Records.exists_operation_of_label label (List.mem_append_left _ mem)
    have entries : request.items.map RequestItem.entry =
        (request.items.map RequestItem.part).map Batch.Part.entry := by
      rw [List.map_map]
      rfl
    rw [Request.validate, entries, Batch.check_map_entry named]
  · intro response
    have named : ∀ label ∈ Records.responsePayloadVariants.labels,
        ∃ operation : Operation, operation.name = label :=
      fun label mem => Records.exists_operation_of_label label (List.mem_append_right _ mem)
    have entries : response.items.map ResponseItem.entry =
        (response.items.map ResponseItem.part).map Batch.Part.entry := by
      rw [List.map_map]
      rfl
    rw [Response.validate, entries, Batch.check_map_entry named]

/-- Two items of a valid request can have the same identifier. -/
theorem Request.validate_of_same_id :
    let item := (RequestItem.ofPayload Records.requestPayloadVariants.blank).withId (some [0])
    let request : Request := ((Version.ofNumbers 1 4, none, none, none, none, none, none, 2, ()),
      [item, item], ())
    request.validate = .ok () ∧ 1 < request.items.length ∧
      ¬ (request.items.map fun item => item.part.id).Nodup := by
  intro item request
  exact ⟨rfl, by decide, by decide⟩

end Kmip
