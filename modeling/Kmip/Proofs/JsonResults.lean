import Kmip.Proofs.Encoding
import Kmip.Proofs.JsonScan

/-!
# What comes of scanning

The results of a step, told apart from the text or the value that it takes (`Json.Results`): what is
built on primitive values works for both. A value that is parsed has no more levels than there may be
(`Json.levels_of_parse`), and sorting its members adds none (`Json.levels_sorted`).
-/

namespace Kmip

namespace Json

variable {m : Type → Type} {α β : Type}

/-- What can come of steps that may fail and may follow each other. -/
class Results (m : Type → Type) [Monad m] [MonadExceptOf Fault m] where
  /-- The value can come of the step. -/
  Yields {α : Type} (step : m α) (value : α) : Prop
  of_pure {α : Type} {value result : α} : Yields (pure value : m α) result → result = value
  of_throw {α : Type} {fault : Fault} {result : α} : ¬ Yields (throw fault : m α) result
  of_bind {α β : Type} {step : m α} {next : α → m β} {result : β} :
    Yields (step >>= next) result → ∃ value, Yields step value ∧ Yields (next value) result

export Results (Yields of_pure of_throw of_bind)

instance : Results (Except Fault) where
  Yields step value := step = .ok value
  of_pure done := (Except.ok.inj done).symm
  of_throw := nofun
  of_bind := Encoded.bind_eq_ok.1

instance : Results Scan where
  Yields step value := ∃ text rest, step text = .ok (value, rest)
  of_pure := by
    rintro _ _ _ ⟨text, rest, done⟩
    exact (congrArg Prod.fst (Except.ok.inj done)).symm
  of_throw := by
    rintro _ _ _ ⟨text, rest, done⟩
    cases done
  of_bind := by
    rintro _ _ _ _ _ ⟨text, rest, done⟩
    obtain ⟨⟨value, middle⟩, first, done⟩ := Encoded.bind_eq_ok.1 done
    exact ⟨value, ⟨text, middle, first⟩, middle, rest, done⟩

/-- What comes of a result is that result. -/
lemma of_ofExcept [Monad m] [MonadExceptOf Fault m] [Results m] {result : Except Fault α}
    {value : α} (yields : Yields (ofExcept result : m α) value) : result = .ok value := by
  cases result with
  | ok held => exact congrArg Except.ok (of_pure yields).symm
  | error fault => exact (of_throw yields).elim

/-- What comes of a whole text can come of the step that takes it. -/
lemma yields_of_whole {step : Scan α} {text : String} {value : α}
    (done : step.whole text = .ok value) : Yields step value := by
  simp only [Scan.whole] at done
  cases found : StateT.run (do
      let value ← step
      Scan.finish
      pure value) text.toList with
  | error fault =>
    rw [found] at done
    cases done
  | ok result =>
    rw [found] at done
    obtain rfl := Except.ok.inj done
    obtain ⟨⟨first, middle⟩, taken, more⟩ := Encoded.bind_eq_ok.1 found
    obtain ⟨_, -, more⟩ := Encoded.bind_eq_ok.1 more
    obtain rfl := Except.ok.inj more
    exact ⟨_, middle, taken⟩

/-- The characters with which the text of a value starts. -/
def Starts : Json → Char → Prop
  | null, c => c = 'n'
  | bool true, c => c = 't'
  | bool false, c => c = 'f'
  | integer _, c | float _, c => Scan.startsNumber c
  | string _, c => c = '"'
  | array _, c => c = '['
  | object _, c => c = '\x7b'

namespace Scan

variable {σ : Type} {item : Scan α} {member : σ → String → Scan σ}

/-- Whether an item comes next in an array, or else its bracket. -/
def nextItem (first : Bool) : Scan Bool := do
  match ← next? with
  | none => throw .malformed
  | some ']' =>
    advance
    pure false
  | some c =>
    if ¬ first then
      if c ≠ ',' then throw .malformed
      advance
      if (← next?) = some ']' then throw .malformed
    pure true

/-- The name of the member that comes next in an object, or none at its brace. -/
def nextName (first : Bool) : Scan (Option String) := do
  match ← next? with
  | none => throw .malformed
  | some '\x7d' =>
    advance
    pure none
  | some c =>
    if ¬ first then
      if c ≠ ',' then throw .malformed
      advance
      let _ ← next?
    let name ← quoted
    pure (some name)

lemma itemsWithin_succ (item : Scan α) (first : Bool) (fuel : Nat) :
    itemsWithin item first (fuel + 1) = nextItem first >>= fun more =>
      if more then item >>= fun value => itemsWithin item false fuel >>= fun rest =>
        pure (value :: rest)
      else pure [] := by
  rw [itemsWithin, nextItem, bind_assoc]
  refine bind_congr fun next => ?_
  split
  · rfl
  · rfl
  · next c other =>
    cases first with
    | true => simp
    | false =>
      by_cases comma : c = ','
      · subst comma
        -- the separator is passed, and what stands behind it must not be the end
        change (do
          advance
          if (← next?) = some ']' then throw .malformed
          let value ← item
          let rest ← itemsWithin item false fuel
          pure (value :: rest) : Scan (List α)) = (do
          advance
          if (← next?) = some ']' then throw .malformed
          pure true : Scan Bool) >>= _
        rw [bind_assoc]
        refine bind_congr fun _ => ?_
        rw [bind_assoc]
        refine bind_congr fun behind => ?_
        by_cases closed : behind = some ']'
        · rw [if_pos closed, if_pos closed]; rfl
        · simp [closed]
      · simp [comma]; rfl

lemma membersWithin_succ (member : σ → String → Scan σ) (first : Bool) (state : σ) (fuel : Nat) :
    membersWithin member first state (fuel + 1) = nextName first >>= fun name? =>
      name?.elim (pure state) fun name => member state name >>= fun next =>
        membersWithin member false next fuel := by
  rw [membersWithin, nextName, bind_assoc]
  refine bind_congr fun next => ?_
  split
  · rfl
  · rfl
  · next c _ =>
    cases first with
    | true => simp
    | false =>
      by_cases comma : c = ','
      · simp [comma]
      · simp [comma]

/-- The items of an array are items that were taken. -/
lemma yields_of_mem_itemsWithin {first : Bool} {fuel : Nat} {values : List α}
    (yields : Yields (itemsWithin item first fuel) values) :
    ∀ value ∈ values, Yields item value := by
  induction fuel generalizing first values with
  | zero => exact (of_throw yields).elim
  | succ fuel ih =>
    rw [itemsWithin_succ] at yields
    obtain ⟨more, -, yields⟩ := of_bind yields
    split at yields
    · obtain ⟨value, one, yields⟩ := of_bind yields
      obtain ⟨rest, others, yields⟩ := of_bind yields
      obtain rfl := of_pure yields
      exact List.forall_mem_cons.2 ⟨one, ih others⟩
    · obtain rfl := of_pure yields
      exact List.forall_mem_nil _

/-- What is kept by every member is kept by all members of an object. -/
lemma induction_membersWithin {p : σ → Prop}
    (keeps : ∀ state name next, p state → Yields (member state name) next → p next) {first : Bool}
    {state final : σ} {fuel : Nat} (held : p state)
    (yields : Yields (membersWithin member first state fuel) final) : p final := by
  induction fuel generalizing first state with
  | zero => exact (of_throw yields).elim
  | succ fuel ih =>
    rw [membersWithin_succ] at yields
    obtain ⟨name?, -, yields⟩ := of_bind yields
    cases name? with
    | none =>
      obtain rfl := of_pure yields
      exact held
    | some name =>
      obtain ⟨next, one, yields⟩ := of_bind yields
      exact ih (keeps _ _ _ held one) yields

/-- The items of an array are items that were taken. -/
lemma yields_of_mem_items {values : List α} (yields : Yields (items item) values) :
    ∀ value ∈ values, Yields item value := by
  obtain ⟨_, -, yields⟩ := of_bind yields
  exact yields_of_mem_itemsWithin yields

/-- What is kept by every member is kept by all members of an object. -/
lemma induction_members {p : σ → Prop}
    (keeps : ∀ state name next, p state → Yields (member state name) next → p next)
    {state final : σ} (held : p state) (yields : Yields (members member state) final) :
    p final := by
  obtain ⟨_, -, yields⟩ := of_bind yields
  exact induction_membersWithin keeps held yields

/-- Nothing comes of a value of another type. -/
lemma not_yields_mismatch {expected : String} {result : α} :
    ¬ Yields (mismatch expected : Scan α) result := by
  intro yields
  obtain ⟨next, -, yields⟩ := of_bind yields
  split at yields
  · exact of_throw yields
  · exact of_throw yields
  · exact of_throw yields
  · obtain ⟨value, -, yields⟩ := of_bind yields
    exact of_throw yields

/-- A number holds no other value. -/
lemma starts_of_value? {numeral : Numeral} {c : Char} {json : Json}
    (found : numeral.value? = some json) (number : startsNumber c) :
    json.Starts c ∧ json.levels = 0 := by
  have rounded (found : numeral.rounded? = some json) : json.Starts c ∧ json.levels = 0 := by
    unfold Numeral.rounded? at found
    simp only at found
    obtain ⟨exponent, -, found⟩ := Option.bind_eq_some_iff.1 found
    obtain ⟨magnitude, -, found⟩ := Option.bind_eq_some_iff.1 found
    obtain rfl := Option.some.inj found
    exact ⟨number, rfl⟩
  unfold Numeral.value? at found
  split at found
  · exact rounded found
  · obtain ⟨n, -, found⟩ := Option.bind_eq_some_iff.1 found
    split at found <;> split at found
    · obtain rfl := Option.some.inj found
      exact ⟨number, rfl⟩
    · exact rounded found
    · obtain rfl := Option.some.inj found
      exact ⟨number, rfl⟩
    · exact rounded found

lemma starts_of_number {c : Char} {json : Json} (yields : Yields number json)
    (starts : startsNumber c) : json.Starts c ∧ json.levels = 0 := by
  obtain ⟨text, rest, scanned⟩ := yields
  unfold number at scanned
  split at scanned
  · split at scanned
    · next value found =>
      obtain rfl := congrArg Prod.fst (Except.ok.inj scanned)
      exact starts_of_value? found starts
    · cases scanned
  · cases scanned

/-- The first character tells the type of a value that holds no other. -/
lemma starts_of_atom {c : Char} {json : Json} (yields : Yields (Scan.atom c) json) :
    json.Starts c ∧ json.levels = 0 := by
  have word {chars : List Char} (value : Json) (starts : value.Starts c ∧ value.levels = 0)
      (yields : Yields (do
        Scan.word chars
        pure value : Scan Json) json) : json.Starts c ∧ json.levels = 0 := by
    obtain ⟨_, -, yields⟩ := of_bind yields
    rwa [of_pure yields]
  unfold Scan.atom at yields
  split at yields
  · next same => exact word null ⟨same, rfl⟩ yields
  split at yields
  · next same => exact word (bool true) ⟨same, rfl⟩ yields
  split at yields
  · next same => exact word (bool false) ⟨same, rfl⟩ yields
  split at yields
  · next same =>
    obtain ⟨text, -, yields⟩ := of_bind yields
    rw [of_pure yields]
    exact ⟨same, rfl⟩
  split at yields
  · next starts => exact starts_of_number yields starts
  · exact (of_throw yields).elim

end Scan

lemma levelsOfItems_le {items : List Json} {depth : Nat} :
    levelsOfItems items ≤ depth ↔ ∀ item ∈ items, item.levels ≤ depth := by
  induction items with
  | nil => simp [levelsOfItems]
  | cons item rest ih => simp [levelsOfItems, ih]

lemma levelsOfMembers_le {members : List (String × Json)} {depth : Nat} :
    levelsOfMembers members ≤ depth ↔ ∀ member ∈ members, member.2.levels ≤ depth := by
  induction members with
  | nil => simp [levelsOfMembers]
  | cons member rest ih =>
    obtain ⟨name, value⟩ := member
    simp [levelsOfMembers, ih]

/-- A value that is scanned has no more levels than there may be. -/
lemma levels_le_of_value {depth : Nat} {json : Json} (yields : Yields (Scan.value depth) json) :
    json.levels ≤ depth := by
  induction depth generalizing json with
  | zero =>
    obtain ⟨next, -, yields⟩ := of_bind yields
    split at yields
    · exact (of_throw yields).elim
    · exact (Scan.starts_of_atom yields).2.le
  | succ depth ih =>
    obtain ⟨next, -, yields⟩ := of_bind yields
    split at yields
    · exact (of_throw yields).elim
    · obtain ⟨_, -, yields⟩ := of_bind yields
      obtain ⟨items, taken, yields⟩ := of_bind yields
      obtain rfl := of_pure yields
      have each := Scan.yields_of_mem_items taken
      exact Nat.succ_le_succ (levelsOfItems_le.2 fun item mem => ih (each item mem))
    · obtain ⟨_, -, yields⟩ := of_bind yields
      obtain ⟨held, taken, yields⟩ := of_bind yields
      obtain rfl := of_pure yields
      have each : ∀ member ∈ held, member.2.levels ≤ depth := by
        refine Scan.induction_members (p := fun held => ∀ member ∈ held, member.2.levels ≤ depth)
          ?_ (List.forall_mem_nil _) taken
        intro state name next within yields
        obtain ⟨_, -, yields⟩ := of_bind yields
        obtain ⟨value, taken, yields⟩ := of_bind yields
        obtain rfl := of_pure yields
        exact List.forall_mem_cons.2 ⟨ih taken, within⟩
      refine Nat.succ_le_succ (levelsOfMembers_le.2 fun member mem => ?_)
      exact each member (List.mem_reverse.1 mem)
    · exact (Scan.starts_of_atom yields).2.le.trans (Nat.zero_le _)

lemma levelsOfMembers_insertSorted (name : String) (value : Json) (held : List (String × Json)) :
    levelsOfMembers (insertSorted name value held) ≤ max value.levels (levelsOfMembers held) := by
  induction held with
  | nil => exact le_rfl
  | cons member rest ih =>
    obtain ⟨other, inner⟩ := member
    simp only [insertSorted]
    split
    · simp only [levelsOfMembers]
      omega
    · split
      · exact le_rfl
      · simp only [levelsOfMembers]
        omega

mutual

/-- Sorting members adds no levels. -/
lemma levels_sorted (json : Json) : json.sorted.levels ≤ json.levels := by
  cases json with
  | array items => exact Nat.succ_le_succ (levels_sortedItems items)
  | object members =>
    exact Nat.succ_le_succ ((levels_sortedMembers [] members).trans (Nat.zero_max _).le)
  | null | bool value | integer value | float value | string text => exact le_rfl

lemma levels_sortedItems (items : List Json) :
    levelsOfItems (sortedItems items) ≤ levelsOfItems items := by
  cases items with
  | nil => exact le_rfl
  | cons item rest => exact max_le_max (levels_sorted item) (levels_sortedItems rest)

lemma levels_sortedMembers (held members : List (String × Json)) :
    levelsOfMembers (sortedMembers held members) ≤
      max (levelsOfMembers held) (levelsOfMembers members) := by
  cases members with
  | nil => exact le_max_left _ _
  | cons member rest =>
    obtain ⟨name, value⟩ := member
    have value_sorted := levels_sorted value
    have inserted := levelsOfMembers_insertSorted name value.sorted held
    have others := levels_sortedMembers (insertSorted name value.sorted held) rest
    simp only [sortedMembers, levelsOfMembers]
    omega

end

/-- A value that is parsed has no more levels than there may be. -/
lemma levels_of_parse {text : String} {json : Json} (read : parse text = .ok json) :
    json.levels ≤ depthLimit :=
  levels_le_of_value (yields_of_whole read)

end Json

end Kmip
