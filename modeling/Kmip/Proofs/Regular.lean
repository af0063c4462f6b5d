import Kmip.Proofs.Shape
import Kmip.Records

/-!
# Regular shapes

What the records have in common that makes their bytes unambiguous: the fields of a record have
different tags, the variants of a value have different names, and a value of several forms stands
only where another field selects its form. All records of the protocol are regular
(`Records.isRegular`).
-/

namespace Kmip

/-- The names of variants. -/
def Variants.labels : Variants → List String
  | .only label _ => [label]
  | .or label _ rest => label :: rest.labels

mutual

/-- Whether the bytes of a value tell what it is. -/
def Shape.isRegular : Shape → Bool
  | .leaf _ => true
  | .choice _ => false
  | .record _ _ fields => fields.tags.Nodup && fields.isRegular

/-- Whether the bytes of fields tell what they are, given that the tags of the fields do. -/
def Fields.isRegular : Fields → Bool
  | .nil => true
  | .one _ _ _ shape rest => shape.isRegular && rest.isRegular
  | .many _ _ _ shape rest => shape.isRegular && rest.isRegular
  | .embedded _ _ _ fields rest => fields.isRegular && rest.isRegular
  | .keyed _ _ _ between _ _ _ variants rest =>
    between.isRegular && variants.labels.Nodup && variants.isRegular && rest.isRegular

/-- Whether the bytes of a value tell what it is, given its variant. -/
def Variants.isRegular : Variants → Bool
  | .only _ shape => shape.isRegular
  | .or _ shape rest => shape.isRegular && rest.isRegular

end

namespace Records

/-- The records of the protocol are regular. -/
lemma isRegular {record : Record} (mem : record ∈ all) : record.shape.isRegular = true := by
  have every : ∀ record ∈ all, record.shape.isRegular = true := by decide +kernel
  exact every record mem

end Records

namespace Variants

/-- The value that stands where none is given, in the variant of a value. -/
def blankLike : (variants : Variants) → variants.Val → variants.Val
  | .only _ shape, _ => shape.blank
  | .or _ shape _, .inl _ => .inl shape.blank
  | .or _ _ rest, .inr value => .inr (rest.blankLike value)

/-- The variant of a value has one of the names. -/
lemma labelOf_mem : (variants : Variants) → (value : variants.Val) →
    variants.labelOf value ∈ variants.labels
  | .only _ _, _ => List.mem_singleton.2 rfl
  | .or _ _ _, .inl _ => List.mem_cons_self
  | .or _ _ rest, .inr value => List.mem_cons_of_mem _ (rest.labelOf_mem value)

/-- The value that stands where none is given is found by the name of its variant. -/
lemma blankOf?_eq_some (wanted : String) : (variants : Variants) → variants.labels.Nodup →
    (blank : variants.Val) → (variants.blankOf? wanted = some blank ↔
      variants.labelOf blank = wanted ∧ variants.blankLike blank = blank)
  | .only label shape, _, blank => by
    by_cases same : label = wanted <;> simp [blankOf?, labelOf, blankLike, same]
  | .or label shape rest, _, .inl blank => by
    by_cases same : label = wanted <;> simp [blankOf?, labelOf, blankLike, same]
  | .or label shape rest, nodup, .inr blank => by
    -- a variant that is found further on does not have the name of an earlier one
    obtain ⟨fresh, nodup⟩ := List.nodup_cons.1 nodup
    have found := rest.blankOf?_eq_some wanted nodup blank
    by_cases same : label = wanted
    · have other : rest.labelOf blank ≠ wanted := by
        rintro rfl
        exact fresh (same ▸ rest.labelOf_mem blank)
      simp [blankOf?, labelOf, same, other]
    · simp [blankOf?, labelOf, blankLike, same, found]

/-- A value of a variant is read from the value that stands where none is given. -/
lemma blankLike_blankLike : (variants : Variants) → (value : variants.Val) →
    variants.blankLike (variants.blankLike value) = variants.blankLike value
  | .only _ _, _ => rfl
  | .or _ _ _, .inl _ => rfl
  | .or _ _ rest, .inr value => congrArg Sum.inr (rest.blankLike_blankLike value)

/-- The value that stands where none is given has the variant that it is taken from. -/
lemma labelOf_blankLike : (variants : Variants) → (value : variants.Val) →
    variants.labelOf (variants.blankLike value) = variants.labelOf value
  | .only _ _, _ => rfl
  | .or _ _ _, .inl _ => rfl
  | .or _ _ rest, .inr value => rest.labelOf_blankLike value

end Variants

end Kmip
