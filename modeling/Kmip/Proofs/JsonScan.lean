import Kmip.Proofs.JsonAtom

/-!
# Scanning JSON texts

A text that stands for a value is scanned as this value, unless its arrays and objects lie deeper
within each other than they may (`Json.Spells.parse_eq`).
-/

namespace Kmip.Json

mutual

/-- How many arrays and objects lie within each other. -/
def levels : Json → Nat
  | array items => levelsOfItems items + 1
  | object members => levelsOfMembers members + 1
  | _ => 0

/-- The deepest levels among items. -/
def levelsOfItems : List Json → Nat
  | [] => 0
  | item :: rest => max item.levels (levelsOfItems rest)

/-- The deepest levels among the values of members. -/
def levelsOfMembers : List (String × Json) → Nat
  | [] => 0
  | (_, value) :: rest => max value.levels (levelsOfMembers rest)

end

/-- A value, unless it has more levels than there may be. -/
def bounded {α : Type} (levels depth : Nat) (value : α) : Except Fault α :=
  if levels ≤ depth then .ok value else .error .malformed

lemma IsAtom.levels_eq {json : Json} (single : json.IsAtom) : json.levels = 0 := by
  cases json with
  | array items => exact single.elim
  | object members => exact single.elim
  | null | bool value | integer value | float value | string text => rfl

/-- Nothing goes on with a number behind blanks. -/
lemma ends_append {gap rest : List Char} (blank : IsGap gap) (ends : Ends rest) :
    Ends (gap ++ rest) := by
  cases gap with
  | nil => exact ends
  | cons c gap =>
    have space := blank c List.mem_cons_self
    intro other same
    obtain rfl : c = other := Option.some.inj same
    simp only [isSpace, Bool.or_eq_true, beq_iff_eq] at space
    rcases space with ((rfl | rfl) | rfl) | rfl <;> decide

lemma ends_cons {c : Char} (rest : List Char)
    (other : isDigit c = false ∧ c ≠ '.' ∧ c ≠ 'e' ∧ c ≠ 'E') : Ends (c :: rest) := by
  intro head same
  obtain rfl : c = head := Option.some.inj same
  exact other

lemma SpellsItems.ends {items : List Json} {text : List Char}
    (spelled : SpellsItems false items text) (rest : List Char) : Ends (text ++ rest) := by
  cases spelled with
  | nil blank =>
    rw [List.append_assoc]
    exact ends_append blank (ends_cons _ (by decide))
  | cons blank spelled others => exact ends_cons _ (by decide)

lemma SpellsMembers.ends {members : List (String × Json)} {text : List Char}
    (spelled : SpellsMembers false members text) (rest : List Char) : Ends (text ++ rest) := by
  cases spelled with
  | nil blank =>
    rw [List.append_assoc]
    exact ends_append blank (ends_cons _ (by decide))
  | cons blank blanks spelled others => exact ends_cons _ (by decide)

/-- The text of a value starts with a character that is no blank, and ends no array. -/
lemma Spells.exists_head {json : Json} {text : List Char} (spelled : Spells json text) :
    ∃ c tail, text = c :: tail ∧ isSpace c = false ∧ c ≠ ']' := by
  cases spelled with
  | atom single =>
    obtain ⟨c, tail, text, starts, -⟩ := exists_atom single
    exact ⟨c, tail, text, starts.other.1, starts.other.2.2.2⟩
  | array spelled => exact ⟨'[', _, rfl, by decide, by decide⟩
  | object spelled => exact ⟨'\x7b', _, rfl, by decide, by decide⟩

namespace Scan

variable {α σ : Type} {item : Scan α} {member : σ → String → Scan σ}

/-- No item is left at the bracket. -/
lemma itemsWithin_nil {gap : List Char} (blank : IsGap gap) (first : Bool) (fuel : Nat)
    (rest : List Char) : itemsWithin item first (fuel + 1) (gap ++ ']' :: rest) = .ok ([], rest) := by
  rw [itemsWithin]
  exact bind_of_ok (next?_append blank rfl rest)

/-- The next item is taken, and then the others. -/
lemma itemsWithin_cons {gap : List Char} {c : Char} (blank : IsGap gap) (dark : isSpace c = false)
    (inner : c ≠ ']') (first : Bool) (fuel : Nat) (rest : List Char) :
    itemsWithin item first (fuel + 1) (comma first ++ gap ++ c :: rest) = (do
      let value ← item
      let values ← itemsWithin item false fuel
      pure (value :: values)) (c :: rest) := by
  rw [itemsWithin]
  cases first with
  | true =>
    refine (bind_of_ok (next?_append blank dark rest)).trans ?_
    simp
  | false =>
    refine (bind_of_ok (next?_append (c := ',') isGap_nil rfl _)).trans ?_
    simp only [Bool.false_eq_true, not_false_eq_true, if_true, ne_eq]
    refine (bind_of_ok rfl).trans ((bind_of_ok (next?_append blank dark rest)).trans ?_)
    simp [inner]

/-- No member is left at the brace. -/
lemma membersWithin_nil {gap : List Char} (blank : IsGap gap) (first : Bool) (state : σ) (fuel : Nat)
    (rest : List Char) :
    membersWithin member first state (fuel + 1) (gap ++ '\x7d' :: rest) = .ok (state, rest) := by
  rw [membersWithin]
  exact bind_of_ok (next?_append blank rfl rest)

/-- The next member is taken, and then the others. -/
lemma membersWithin_cons {gap : List Char} (blank : IsGap gap) (name : String) (first : Bool)
    (state : σ) (fuel : Nat) (rest : List Char) :
    membersWithin member first state (fuel + 1) (comma first ++ gap ++ quote name ++ rest) = (do
      let state ← member state name
      membersWithin member false state fuel) rest := by
  have quoted := quoted_append name rest
  rw [membersWithin, List.append_assoc]
  cases first with
  | true =>
    refine (bind_of_ok (next?_append (c := '"') blank rfl _)).trans ?_
    simp only [not_true_eq_false, if_false]
    exact bind_of_ok quoted
  | false =>
    refine (bind_of_ok (next?_append (c := ',') isGap_nil rfl _)).trans ?_
    simp only [Bool.false_eq_true, not_false_eq_true, if_true, ne_eq]
    refine (bind_of_ok rfl).trans ((bind_of_ok (next?_append (c := '"') blank rfl _)).trans ?_)
    exact bind_of_ok quoted

lemma colon_append (rest : List Char) : colon (':' :: rest) = .ok ((), rest) :=
  bind_of_ok (next?_append (c := ':') isGap_nil rfl rest)

end Scan

lemma Spells.length_pos {json : Json} {text : List Char} (spelled : Spells json text) :
    0 < text.length := by
  obtain ⟨c, tail, rfl, -, -⟩ := spelled.exists_head
  exact Nat.succ_pos _

lemma SpellsItems.length_pos {first : Bool} {items : List Json} {text : List Char}
    (spelled : SpellsItems first items text) : 0 < text.length := by
  cases spelled with
  | nil blank => simp
  | cons blank spelled others => simp [spelled.length_pos]

lemma SpellsMembers.length_pos {first : Bool} {members : List (String × Json)} {text : List Char}
    (spelled : SpellsMembers first members text) : 0 < text.length := by
  cases spelled <;> simp

/-- A step that takes all but `rest` of a text, with such a value, unless the value has more levels
than there may be. -/
def Takes {α : Type} (step : Scan α) (text rest : List Char) (levels depth : Nat) (value : α) :
    Prop :=
  step text = (bounded levels depth value).map fun value => (value, rest)

section

variable {α β : Type} {step : Scan α} {next : α → Scan β} {text middle rest : List Char}
  {levels depth : Nat} {value : α}

lemma takes_of_ok (done : step text = .ok (value, rest)) (within : levels ≤ depth) :
    Takes step text rest levels depth value := by
  rw [Takes, bounded, if_pos within, done]
  rfl

lemma takes_of_error (failed : step text = .error .malformed) (beyond : depth < levels) :
    Takes step text rest levels depth value := by
  rw [Takes, bounded, if_neg (Nat.not_le.2 beyond), failed]
  rfl

lemma Takes.eq_ok (takes : Takes step text rest levels depth value) (within : levels ≤ depth) :
    step text = .ok (value, rest) := by
  rw [Takes, bounded, if_pos within] at takes
  exact takes

lemma Takes.eq_error (takes : Takes step text rest levels depth value) (beyond : depth < levels) :
    step text = .error .malformed := by
  rw [Takes, bounded, if_neg (Nat.not_le.2 beyond)] at takes
  exact takes

/-- One level more, where there may be one more. -/
lemma Takes.succ (takes : Takes step text rest levels depth value) :
    Takes step text rest (levels + 1) (depth + 1) value := by
  unfold Takes bounded at *
  simpa using takes

/-- Two steps take what both take, unless one of them meets too many levels. -/
lemma Takes.bind {levels' depth' levels'' depth'' : Nat} {result : β}
    (first : Takes step text middle levels depth value)
    (second : Takes (next value) middle rest levels' depth' result)
    (both : levels'' ≤ depth'' ↔ levels ≤ depth ∧ levels' ≤ depth') :
    Takes (step >>= next) text rest levels'' depth'' result := by
  by_cases within : levels ≤ depth
  · have done : (step >>= next) text = next value middle := Scan.bind_of_ok (first.eq_ok within)
    by_cases also : levels' ≤ depth'
    · exact takes_of_ok (done.trans (second.eq_ok also)) (both.2 ⟨within, also⟩)
    · exact takes_of_error (done.trans (second.eq_error (Nat.lt_of_not_le also)))
        (Nat.lt_of_not_le fun fits => also (both.1 fits).2)
  · exact takes_of_error (Scan.bind_of_error (first.eq_error (Nat.lt_of_not_le within)))
      (Nat.lt_of_not_le fun fits => within (both.1 fits).1)

/-- A step that takes something without levels, behind another one. -/
lemma Takes.bind_ok {levels' depth' : Nat} {result : β}
    (first : Takes step text middle levels depth value)
    (done : next value middle = .ok (result, rest)) (same : levels' ≤ depth' ↔ levels ≤ depth) :
    Takes (step >>= next) text rest levels' depth' result :=
  first.bind (takes_of_ok done le_rfl) (by rw [same, and_iff_left (Nat.le_refl 0)])

/-- A step behind one that takes something without levels. -/
lemma Takes.behind {levels' depth' : Nat} {result : β} (done : step text = .ok (value, middle))
    (takes : Takes (next value) middle rest levels' depth' result) :
    Takes (step >>= next) text rest levels' depth' result := by
  rw [Takes, Scan.bind_of_ok done]
  exact takes

end

section

variable {α σ : Type} {item : Scan α} {member : σ → String → Scan σ} {first : Bool}
  {gap space text more rest : List Char} {fuel levels levels' depth : Nat}

/-- No item is left. -/
lemma takes_itemsWithin_nil (blank : IsGap gap) :
    Takes (Scan.itemsWithin item first (fuel + 1)) (gap ++ [']'] ++ rest) rest 0 depth [] := by
  rw [List.append_assoc]
  exact takes_of_ok (Scan.itemsWithin_nil blank first fuel rest) (Nat.zero_le _)

/-- An item is taken, and then the others. -/
lemma takes_itemsWithin_cons {json : Json} {value : α} {values : List α} (blank : IsGap gap)
    (spelled : Spells json text)
    (taken : Takes item (text ++ (more ++ rest)) (more ++ rest) levels depth value)
    (left : Takes (Scan.itemsWithin item false fuel) (more ++ rest) rest levels' depth values) :
    Takes (Scan.itemsWithin item first (fuel + 1)) (comma first ++ gap ++ text ++ more ++ rest) rest
      (max levels levels') depth (value :: values) := by
  obtain ⟨c, tail, rfl, dark, inner⟩ := spelled.exists_head
  have parts : comma first ++ gap ++ c :: tail ++ more ++ rest =
      comma first ++ gap ++ c :: (tail ++ (more ++ rest)) := by
    simp
  rw [Takes, parts, Scan.itemsWithin_cons blank dark inner]
  exact taken.bind (left.bind_ok rfl Iff.rfl) max_le_iff

/-- No member is left. -/
lemma takes_membersWithin_nil (blank : IsGap gap) (state : σ) :
    Takes (Scan.membersWithin member first state (fuel + 1)) (gap ++ ['\x7d'] ++ rest) rest 0 depth
      state := by
  rw [List.append_assoc]
  exact takes_of_ok (Scan.membersWithin_nil blank first state fuel rest) (Nat.zero_le _)

/-- A member is taken, and then the others. -/
lemma takes_membersWithin_cons {name : String} {state next final : σ} (blank : IsGap gap)
    (taken : Takes (member state name) (':' :: (space ++ text ++ (more ++ rest))) (more ++ rest)
      levels depth next)
    (left : Takes (Scan.membersWithin member false next fuel) (more ++ rest) rest levels' depth
      final) :
    Takes (Scan.membersWithin member first state (fuel + 1))
      (comma first ++ gap ++ quote name ++ ':' :: space ++ text ++ more ++ rest) rest
      (max levels levels') depth final := by
  have parts : comma first ++ gap ++ quote name ++ ':' :: space ++ text ++ more ++ rest =
      comma first ++ gap ++ quote name ++ ':' :: (space ++ text ++ (more ++ rest)) := by
    simp
  rw [Takes, parts, Scan.membersWithin_cons blank]
  exact taken.bind left max_le_iff

end

section

variable {α β : Type}

/-- The step takes nothing, and has this result. -/
def Lifts (step : Scan α) (result : Except Fault α) : Prop :=
  ∀ rest, step rest = result.map fun value => (value, rest)

lemma lifts_pure (value : α) : Lifts (pure value) (.ok value) :=
  fun _ => rfl

lemma lifts_throw (fault : Fault) : Lifts (throw fault : Scan α) (.error fault) :=
  fun _ => rfl

lemma ofExcept_eq (result : Except Fault α) : (ofExcept result : Except Fault α) = result := by
  cases result <;> rfl

lemma lifts_ofExcept (result : Except Fault α) :
    Lifts (ofExcept result) (ofExcept result) := by
  intro rest
  cases result <;> rfl

lemma Lifts.bind {step : Scan α} {next : α → Scan β} {result : Except Fault α}
    {after : α → Except Fault β} (lifts : Lifts step result)
    (behind : ∀ value, Lifts (next value) (after value)) :
    Lifts (step >>= next) (result >>= after) := by
  intro rest
  have first := lifts rest
  cases result with
  | ok value => exact (Scan.bind_of_ok first).trans (behind value rest)
  | error fault => exact Scan.bind_of_error first

end

/-- The member of an object, put in front of those that have been taken. -/
def memberOf (depth : Nat) (held : List (String × Json)) (name : String) :
    Scan (List (String × Json)) := do
  Scan.colon
  let value ← Scan.value depth
  pure ((name, value) :: held)

mutual

/-- The text of a value is scanned as this value, if there are not too many levels. -/
lemma Spells.takes_value {json : Json} {text gap rest : List Char} (spelled : Spells json text)
    (depth : Nat) (blank : IsGap gap) (ends : Ends rest) :
    Takes (Scan.value depth) (gap ++ text ++ rest) rest json.levels depth json := by
  cases spelled with
  | atom single =>
    obtain ⟨c, tail, text, starts, scanned⟩ := exists_atom single
    obtain ⟨dark, array, object, -⟩ := starts.other
    have done := scanned rest ends
    refine takes_of_ok ?_ (single.levels_eq ▸ Nat.zero_le depth)
    rw [List.append_assoc]
    rw [text, List.cons_append] at done ⊢
    cases depth with
    | zero => exact (Scan.bind_of_ok (Scan.next?_append blank dark _)).trans done
    | succ depth =>
      refine (Scan.bind_of_ok (Scan.next?_append blank dark _)).trans ?_
      simpa [array, object] using done
  | @array items text spelled =>
    have opened := Scan.next?_append (c := '[') blank rfl (text ++ rest)
    rw [List.append_assoc, List.cons_append]
    cases depth with
    | zero => exact takes_of_error ((Scan.bind_of_ok opened).trans rfl) (Nat.succ_pos _)
    | succ depth =>
      have taken : Takes (Scan.items (Scan.value depth)) (text ++ rest) rest
          (levelsOfItems items) depth items :=
        spelled.takes_items depth _ (by rw [List.length_append]; omega) rest
      exact .behind opened (.behind rfl (taken.bind_ok rfl Nat.succ_le_succ_iff))
  | @object members text spelled =>
    have opened := Scan.next?_append (c := '\x7b') blank rfl (text ++ rest)
    rw [List.append_assoc, List.cons_append]
    cases depth with
    | zero => exact takes_of_error ((Scan.bind_of_ok opened).trans rfl) (Nat.succ_pos _)
    | succ depth =>
      have taken : Takes (Scan.members (memberOf depth) []) (text ++ rest) rest
          (levelsOfMembers members) depth (members.reverse ++ []) :=
        spelled.takes_members depth _ (by rw [List.length_append]; omega) [] rest
      refine .behind opened (.behind rfl (taken.bind_ok ?_ Nat.succ_le_succ_iff))
      rw [List.append_nil, List.reverse_reverse]
      rfl

/-- So are the texts of items. -/
lemma SpellsItems.takes_items {first : Bool} {items : List Json} {text : List Char}
    (spelled : SpellsItems first items text) (depth fuel : Nat) (enough : text.length ≤ fuel)
    (rest : List Char) :
    Takes (Scan.itemsWithin (Scan.value depth) first fuel) (text ++ rest) rest
      (levelsOfItems items) depth items := by
  obtain ⟨fuel, rfl⟩ := Nat.exists_eq_add_one.2 (spelled.length_pos.trans_le enough)
  cases spelled with
  | nil blank => exact takes_itemsWithin_nil blank
  | cons blank spelled others =>
    rw [List.length_append, List.length_append] at enough
    have left := others.takes_items depth fuel (by have := spelled.length_pos; omega) rest
    exact takes_itemsWithin_cons blank spelled
      (spelled.takes_value depth isGap_nil (others.ends rest)) left

/-- So are the texts of members. -/
lemma SpellsMembers.takes_members {first : Bool} {members : List (String × Json)}
    {text : List Char} (spelled : SpellsMembers first members text) (depth fuel : Nat)
    (enough : text.length ≤ fuel) (held : List (String × Json)) (rest : List Char) :
    Takes (Scan.membersWithin (memberOf depth) first held fuel) (text ++ rest) rest
      (levelsOfMembers members) depth (members.reverse ++ held) := by
  obtain ⟨fuel, rfl⟩ := Nat.exists_eq_add_one.2 (spelled.length_pos.trans_le enough)
  cases spelled with
  | nil blank => exact takes_membersWithin_nil blank held
  | @cons _ name value members _ _ _ _ blank blanks spelled others =>
    have taken := spelled.takes_value depth blanks (others.ends rest)
    have left := others.takes_members depth fuel
      (by simp only [List.length_append, List.length_cons] at enough; omega)
      ((name, value) :: held) rest
    have order : ((name, value) :: members).reverse ++ held =
        members.reverse ++ (name, value) :: held := by
      simp
    rw [order]
    exact takes_membersWithin_cons blank
      (.behind (Scan.colon_append _) (taken.bind_ok rfl Iff.rfl)) left

end

/-- A step that takes all of a text. -/
lemma whole_of_takes {α : Type} {step : Scan α} {text : List Char} {levels depth : Nat} {value : α}
    (takes : Takes step text [] levels depth value) :
    step.whole (String.ofList text) = bounded levels depth value := by
  have both : Takes (do
      let value ← step
      Scan.finish
      pure value) text [] levels depth value := takes.bind_ok rfl Iff.rfl
  rw [Scan.whole, StateT.run, String.toList_ofList, both]
  cases bounded levels depth value <;> rfl

/-- A text that stands for a value is read as this value, if there are not too many levels. -/
lemma Spells.parse_eq {json : Json} {text : List Char} (spelled : Spells json text) :
    parse (String.ofList text) = bounded json.levels depthLimit json := by
  have takes : Takes (Scan.value depthLimit) ([] ++ text ++ []) [] json.levels depthLimit json :=
    spelled.takes_value depthLimit isGap_nil nofun
  exact whole_of_takes (by simpa using takes)

end Kmip.Json
