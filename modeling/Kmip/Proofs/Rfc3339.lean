import Kmip.DateTime.Rfc3339
import Kmip.Proofs.Calendar
import Kmip.Proofs.Decimal

/-!
# Date-times and their texts

An instant whose local year has four digits, shown at an offset of whole minutes below a day, has a
text, and the text stands for the same instant at the same offset (`Rfc3339.parse_format`).
-/

namespace Kmip.DateTime

/-- The local year has four digits at most, and the offset is a number of minutes below a day. -/
structure IsWritable (time : DateTime) : Prop where
  year_low : 0 ≤ time.date.year
  year_high : time.date.year ≤ 9999
  offset_short : time.offset.natAbs < 86400
  offset_minutes : time.offset % 60 = 0

namespace Rfc3339

/-- What follows a step that succeeds goes on with its result. -/
lemma bind_of_some {α β : Type} {found : Option α} {value : α} {next : α → Option β}
    (done : found = some value) : (found >>= next) = next value := by
  rw [done]
  rfl

/-- Hours and minutes after a sign. -/
lemma offset?_signed {sign : Char} {hours minutes : Nat} (marks : sign = '+' ∨ sign = '-')
    (day : hours ≤ 23) (hour : minutes ≤ 59) :
    offset? (sign :: Decimal.padded 2 hours ++ ':' :: Decimal.padded 2 minutes) =
      some (if sign = '-' then -((hours * 3600 + minutes * 60 : Nat) : Int)
        else (hours * 3600 + minutes * 60 : Nat)) := by
  have first := Decimal.takeDigits?_padded (by decide) (by omega : hours < 10 ^ 2)
    (':' :: Decimal.padded 2 minutes)
  have last := Decimal.takeDigits?_padded (by decide) (by omega : minutes < 10 ^ 2) []
  rw [List.append_nil] at last
  rcases marks with rfl | rfl <;> simp [offset?, first, last, after?, day, hour]

/-- An offset is read as it has been written. -/
lemma offset?_offsetText {offset : Int} (short : offset.natAbs < 86400)
    (minutes : offset % 60 = 0) : offset? (offsetText offset) = some offset := by
  by_cases zero : offset = 0
  · subst zero
    rfl
  · have sum : offset.natAbs / 3600 * 3600 + offset.natAbs / 60 % 60 * 60 = offset.natAbs := by
      omega
    have marks : (if offset < 0 then '-' else '+') = '+' ∨
        (if offset < 0 then '-' else '+') = '-' := by
      split <;> decide
    rw [offsetText, if_neg zero, offset?_signed marks (by omega) (by omega), sum]
    by_cases negative : offset < 0
    · simp only [negative, if_true]
      rw [Int.ofNat_natAbs_of_nonpos negative.le, neg_neg]
    · simp only [negative, if_false, Char.reduceEq]
      rw [Int.natAbs_of_nonneg (Int.not_lt.1 negative)]

/-- The first character of an offset is no digit, and no point. -/
lemma exists_head_offsetText (offset : Int) :
    ∃ c rest, offsetText offset = c :: rest ∧ Decimal.digitValue? c = none ∧ c ≠ '.' := by
  unfold offsetText
  split
  · exact ⟨'Z', [], rfl, by decide, by decide⟩
  · split
    · exact ⟨'-', _, rfl, by decide, by decide⟩
    · exact ⟨'+', _, rfl, by decide, by decide⟩

/-- A fraction is read as it has been written, in front of an offset. -/
lemma fraction?_offsetText (time : DateTime) :
    fraction? ((if time.fractionDigits.isEmpty then [] else '.' :: time.fractionDigits) ++
      offsetText time.offset) = some (time.nanos, offsetText time.offset) := by
  obtain ⟨c, rest, spelled, digit, point⟩ := exists_head_offsetText time.offset
  have length : (Decimal.padded 9 time.nanos.val).length = 9 :=
    Decimal.length_padded (by decide) time.nanos.isLt
  have whole : time.fractionDigits ++ List.replicate (9 - time.fractionDigits.length) '0' =
      Decimal.padded 9 time.nanos.val := by
    rw [← Decimal.fraction_append_zeros (Decimal.padded 9 time.nanos.val), length]
    rfl
  have value := Decimal.valueFrom?_padded 9 time.nanos.val
  rw [← whole] at value
  rw [spelled]
  by_cases none : time.fractionDigits = []
  · have zero : time.nanos = .zero := by
      rw [none] at value
      exact Fin.ext (Option.some.inj (value.symm.trans rfl))
    simp [none, fraction?, after?, point, zero]
  · have short : time.fractionDigits.length ≤ 9 := by
      have lengths := congrArg List.length whole
      rw [List.length_append, length] at lengths
      omega
    have digits : ∀ c ∈ time.fractionDigits, (Decimal.digitValue? c).isSome := fun c mem =>
      Decimal.isSome_digitValue?_padded 9 _ c (Decimal.fraction_subset _ mem)
    have taken : (time.fractionDigits ++ c :: rest).takeWhile
        (fun c => (Decimal.digitValue? c).isSome) = time.fractionDigits := by
      rw [List.takeWhile_append_of_pos digits, List.takeWhile_cons, digit]
      simp
    have fits : Nanos.ofNat? time.nanos.val = some time.nanos := by
      simp [Nanos.ofNat?]
    simp [none, fraction?, after?, taken, List.take_of_length_le short, value, fits]

/-- The local day and the time of the day make up the instant. -/
lemma seconds_eq (time : DateTime) :
    time.date.toDays * 86400 +
      ((time.hour * 3600 + time.minute * 60 + time.second : Nat) : Int) - time.offset =
      time.seconds := by
  have day : time.hour * 3600 + time.minute * 60 + time.second = time.secondOfDay := by
    unfold hour minute second
    omega
  have within : (time.secondOfDay : Int) = time.localSeconds % 86400 :=
    Int.toNat_of_nonneg (Int.emod_nonneg _ (by decide))
  rw [day, within, date, Date.toDays_ofDays]
  have whole := Int.ediv_mul_add_emod time.localSeconds 86400
  unfold localSeconds at *
  omega

/-- The characters of the text of an instant. -/
def characters (time : DateTime) : List Char :=
  Decimal.padded 4 time.date.year.natAbs ++ '-' :: (Decimal.padded 2 time.date.month ++
    '-' :: (Decimal.padded 2 time.date.day ++ 'T' :: (Decimal.padded 2 time.hour ++
      ':' :: (Decimal.padded 2 time.minute ++ ':' :: (Decimal.padded 2 time.second ++
        ((if time.fractionDigits.isEmpty then [] else '.' :: time.fractionDigits) ++
          offsetText time.offset))))))

lemma format_eq {time : DateTime} (writable : time.IsWritable) :
    format time = .ok (String.ofList (characters time)) := by
  obtain ⟨low, high, short, minutes⟩ := writable
  simp only [format]
  rw [if_neg (by omega), if_neg (by omega), if_neg (by omega)]
  simp [characters]

lemma parse_characters {time : DateTime} (writable : time.IsWritable) :
    parse (String.ofList (characters time)) = some time := by
  have valid : time.date.IsValid := Date.isValid_ofDays _
  obtain ⟨low, high, short, minutes⟩ := writable
  have month := valid.month_le
  have day := valid.day_le
  have within : time.secondOfDay < 86400 := by
    unfold secondOfDay
    omega
  have clock : time.hour ≤ 23 ∧ time.minute ≤ 59 ∧ time.second ≤ 59 := by
    unfold hour minute second
    omega
  have four := Decimal.takeDigits?_padded (by decide) (by omega : time.date.year.natAbs < 10 ^ 4)
  have two {n : Nat} (small : n ≤ 99) :=
    Decimal.takeDigits?_padded (by decide) (by omega : n < 10 ^ 2)
  have same : (⟨(time.date.year.natAbs : Nat), time.date.month, time.date.day⟩ : Date) =
      time.date := by
    rw [Int.natAbs_of_nonneg low]
  rw [parse, String.toList_ofList, characters]
  -- a number, then the character behind it, and so on
  refine (bind_of_some (four _)).trans ?_
  refine (bind_of_some rfl).trans ?_
  refine (bind_of_some (two (by omega) _)).trans ?_
  refine (bind_of_some rfl).trans ?_
  refine (bind_of_some (two (by omega) _)).trans ?_
  refine (bind_of_some rfl).trans ?_
  refine (bind_of_some (two (by omega) _)).trans ?_
  refine (bind_of_some rfl).trans ?_
  refine (bind_of_some (two (by omega) _)).trans ?_
  refine (bind_of_some rfl).trans ?_
  refine (bind_of_some (two (by omega) _)).trans ?_
  refine (bind_of_some (fraction?_offsetText time)).trans ?_
  refine (bind_of_some (offset?_offsetText short minutes)).trans ?_
  simp only [same]
  have found : time.date.IsValid ∧ time.hour ≤ 23 ∧ time.minute ≤ 59 ∧ time.second ≤ 60 :=
    ⟨valid, clock.1, clock.2.1, clock.2.2.trans (by decide)⟩
  rw [guard, if_pos found, if_neg (by omega), seconds_eq]
  rfl

/-- A writable instant has a text, which is read as the same instant at the same offset. -/
lemma parse_format {time : DateTime} (writable : time.IsWritable) :
    ∃ text, format time = .ok text ∧ parse text = some time :=
  ⟨_, format_eq writable, parse_characters writable⟩

/-- An offset is less than a day. -/
lemma offset?_bounds {text : List Char} {offset : Int} (found : offset? text = some offset) :
    -86400 < offset ∧ offset < 86400 := by
  unfold offset? at found
  split at found
  · obtain rfl := Option.some.inj found
    decide
  · obtain rfl := Option.some.inj found
    decide
  · simp only [Option.bind_eq_bind, Option.bind_eq_some_iff, Option.guard_eq_some', Prod.exists,
      exists_const, Option.pure_def, Option.some.injEq] at found
    obtain ⟨-, hours, -, -, day, -, -, minutes, -, -, ⟨hour, -⟩, rfl⟩ := found
    split <;> omega
  · cases found

/-- An instant that has a text lies less than a day around the years that the text can name. -/
lemma parse_bounds {text : String} {time : DateTime} (found : parse text = some time) :
    earliest ≤ time.seconds ∧ time.seconds < latest + 86400 := by
  -- the fields come one after the other, each with what is in front of it
  unfold parse at found
  obtain ⟨⟨year, _⟩, four, found⟩ := Option.bind_eq_some_iff.1 found
  obtain ⟨_, -, found⟩ := Option.bind_eq_some_iff.1 found
  obtain ⟨⟨month, _⟩, -, found⟩ := Option.bind_eq_some_iff.1 found
  obtain ⟨_, -, found⟩ := Option.bind_eq_some_iff.1 found
  obtain ⟨⟨day, _⟩, -, found⟩ := Option.bind_eq_some_iff.1 found
  obtain ⟨_, -, found⟩ := Option.bind_eq_some_iff.1 found
  obtain ⟨⟨hour, _⟩, -, found⟩ := Option.bind_eq_some_iff.1 found
  obtain ⟨_, -, found⟩ := Option.bind_eq_some_iff.1 found
  obtain ⟨⟨minute, _⟩, -, found⟩ := Option.bind_eq_some_iff.1 found
  obtain ⟨_, -, found⟩ := Option.bind_eq_some_iff.1 found
  obtain ⟨⟨second, _⟩, -, found⟩ := Option.bind_eq_some_iff.1 found
  obtain ⟨⟨nanos, _⟩, -, found⟩ := Option.bind_eq_some_iff.1 found
  obtain ⟨offset, shown, found⟩ := Option.bind_eq_some_iff.1 found
  obtain ⟨_, fits, rest⟩ := Option.bind_eq_some_iff.1 found
  obtain ⟨valid, hours, minutes, seconds⟩ := (Option.guard_eq_some' _).1 fits
  have years := Decimal.takeDigits?_lt four
  have shift := offset?_bounds shown
  have days := valid.toDays_bounds (Int.natCast_nonneg year) (by simp only; omega)
  unfold earliest latest
  simp only at rest days
  split at rest
  · split at rest
    · obtain rfl := Option.some.inj rest
      simp only
      omega
    · cases rest
  · obtain rfl := Option.some.inj rest
    simp only
    omega

end Rfc3339

end Kmip.DateTime
