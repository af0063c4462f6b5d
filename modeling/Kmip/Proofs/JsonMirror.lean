import Kmip.Json.Primitive
import Kmip.Proofs.JsonResults

/-!
# Steps for values of one type

A step for values of one type takes the texts that the step for any value takes, and gives what can be
made of the value (`Json.Mirrors`). This is so of primitive values (`Scan.mirrors_text`,
`Scan.mirrors_boolean`, `Scan.mirrors_whole`), and it is kept by arrays and by objects
(`Scan.mirrors_items`, `Scan.mirrors_members`).
-/

namespace Kmip.Json

variable {α β σ : Type} {text rest : List Char} {json : Json}

/-- The step takes a text exactly if `plain` does and something can be made of what `plain` gives. -/
def Mirrors (step : Scan α) (plain : Scan β) (made : β → Except Fault α) : Prop :=
  ∀ text result rest, step text = .ok (result, rest) ↔
    ∃ value, plain text = .ok (value, rest) ∧ made value = .ok result

namespace Scan

/-- Two steps succeed if the first does, and the second on its result. -/
lemma bind_eq_ok {step : Scan α} {next : α → Scan β} {result : β} :
    (step >>= next) text = .ok (result, rest) ↔
      ∃ value middle, step text = .ok (value, middle) ∧ next value middle = .ok (result, rest) := by
  cases done : step text with
  | error fault => simp [bind_of_error done]
  | ok found =>
    obtain ⟨first, middle⟩ := found
    simp [bind_of_ok done, Prod.ext_iff]

lemma pure_eq_ok {value result : α} :
    (pure value : Scan α) text = .ok (result, rest) ↔ value = result ∧ text = rest := by
  change (.ok (value, text) : Except Fault (α × List Char)) = .ok (result, rest) ↔ _
  rw [Except.ok.injEq, Prod.mk.injEq]

/-- A step takes a whole text if it leaves nothing but blanks. -/
lemma whole_eq_ok {step : Scan α} {text : String} {value : α} :
    step.whole text = .ok value ↔
      ∃ rest left, step text.toList = .ok (value, rest) ∧ finish rest = .ok ((), left) := by
  have both : step.whole text = .ok value ↔ ∃ left, (do
      let value ← step
      finish
      pure value : Scan α) text.toList = .ok (value, left) := by
    rw [whole, StateT.run]
    cases (do
      let value ← step
      finish
      pure value : Scan α) text.toList with
    | error fault => simp [Except.map]
    | ok found => simp [Except.map, Prod.ext_iff]
  rw [both]
  constructor
  · rintro ⟨left, done⟩
    obtain ⟨value, rest, taken, done⟩ := bind_eq_ok.1 done
    obtain ⟨_, left, finished, done⟩ := bind_eq_ok.1 done
    obtain ⟨rfl, rfl⟩ := pure_eq_ok.1 done
    exact ⟨rest, left, taken, finished⟩
  · rintro ⟨rest, left, taken, finished⟩
    exact ⟨left, bind_eq_ok.2 ⟨value, rest, taken, bind_eq_ok.2 ⟨_, left, finished, rfl⟩⟩⟩

/-- Looking at what comes next passes over the blanks only. -/
lemma next?_bind (next : Option Char → Scan α) :
    (next? >>= next) text =
      next (text.dropWhile isSpace).head? (text.dropWhile isSpace) :=
  rfl

/-- Named values up to the end of an object. -/
def namedWithin (plain : Scan β) : (first : Bool) → (fuel : Nat) → Scan (List (String × β))
  | _, 0 => throw .malformed
  | first, fuel + 1 => nextName first >>= fun name? =>
    name?.elim (pure []) fun name => plain >>= fun value =>
      namedWithin plain false fuel >>= fun rest => pure ((name, value) :: rest)

/-- The named values of an object whose brace has been passed. -/
def named (plain : Scan β) : Scan (List (String × β)) := do
  namedWithin plain true ((← get).length + 1)

lemma membersWithin_memberOf (depth : Nat) (first : Bool) (held : List (String × Json))
    (fuel : Nat) :
    membersWithin (memberOf depth) first held fuel =
      namedWithin (colon >>= fun _ => value depth) first fuel >>= fun members =>
        pure (members.reverse ++ held) := by
  induction fuel generalizing first held with
  | zero => rfl
  | succ fuel ih =>
    rw [membersWithin_succ, namedWithin, bind_assoc]
    refine bind_congr (m := Scan) fun name? => ?_
    cases name? with
    | none => simp
    | some name => simp [memberOf, ih]

variable {depth : Nat} {c : Char} {tail : List Char}

lemma next?_bind_cons (dark : isSpace c = false) (next : Option Char → Scan α) :
    (next? >>= next) (c :: tail) = next (some c) (c :: tail) :=
  bind_of_ok (next?_append isGap_nil dark tail)

/-- A value without items and members is taken by its first character. -/
lemma value_of_atom (dark : isSpace c = false) (array : c ≠ '[') (object : c ≠ '\x7b') :
    value depth (c :: tail) = atom c (c :: tail) := by
  cases depth with
  | zero => exact next?_bind_cons dark _
  | succ depth =>
    rw [value, next?_bind_cons dark]
    simp

/-- The items of an array stand behind its bracket. -/
lemma value_of_array :
    value (depth + 1) ('[' :: tail) =
      (items (value depth) >>= fun items => pure (.array items)) tail :=
  next?_bind_cons rfl _

/-- The members of an object stand behind its brace. -/
lemma value_of_object :
    value (depth + 1) ('\x7b' :: tail) =
      (named (colon >>= fun _ => value depth) >>= fun members => pure (.object members)) tail := by
  have taken : (members (memberOf depth) [] >>= fun held => pure (.object held.reverse) : Scan Json) =
      named (colon >>= fun _ => value depth) >>= fun members => pure (.object members) := by
    simp [members, named, membersWithin_memberOf]
  rw [← taken]
  exact next?_bind_cons rfl _

/-- The first character tells the type of a value. -/
lemma starts_of_value (dark : isSpace c = false) (done : value depth (c :: tail) = .ok (json, rest)) :
    json.Starts c := by
  by_cases array : c = '['
  · subst array
    cases depth with
    | zero => cases (next?_bind_cons dark _).symm.trans done
    | succ depth =>
      rw [value_of_array] at done
      obtain ⟨items, _, -, done⟩ := bind_eq_ok.1 done
      obtain ⟨rfl, -⟩ := pure_eq_ok.1 done
      rfl
  by_cases object : c = '\x7b'
  · subst object
    cases depth with
    | zero => cases (next?_bind_cons dark _).symm.trans done
    | succ depth =>
      rw [value_of_object] at done
      obtain ⟨held, _, -, done⟩ := bind_eq_ok.1 done
      obtain ⟨rfl, -⟩ := pure_eq_ok.1 done
      rfl
  · rw [value_of_atom dark array object] at done
    exact (starts_of_atom ⟨_, _, done⟩).1

end Scan

section

variable {γ : Type} {step : Scan α} {plain : Scan β} {made : β → Except Fault α}

/-- A step mirrors itself. -/
lemma mirrors_refl (step : Scan α) : Mirrors step step .ok := by
  intro text result rest
  simp

/-- Behind one and the same step. -/
lemma mirrors_behind {next : γ → Scan α} {also : γ → Scan β} (front : Scan γ)
    (mirrors : ∀ found, Mirrors (next found) (also found) made) :
    Mirrors (front >>= next) (front >>= also) made := by
  intro text result rest
  simp only [Scan.bind_eq_ok, mirrors _ _ result rest]
  constructor
  · rintro ⟨found, middle, passed, value, done, built⟩
    exact ⟨value, ⟨found, middle, passed, done⟩, built⟩
  · rintro ⟨value, ⟨found, middle, passed, done⟩, built⟩
    exact ⟨found, middle, passed, value, done, built⟩

lemma mirrors_pure {value : β} {result : α} (built : made value = .ok result) :
    Mirrors (pure result) (pure value) made := by
  intro text other rest
  simp only [Scan.pure_eq_ok]
  constructor
  · rintro ⟨rfl, rfl⟩
    exact ⟨value, ⟨rfl, rfl⟩, built⟩
  · rintro ⟨_, ⟨rfl, rfl⟩, same⟩
    exact ⟨Except.ok.inj (built.symm.trans same), rfl⟩

/-- A step that fails mirrors one of whose values nothing can be made. -/
lemma mirrors_of_refused (fails : ∀ result, ¬ Yields step result)
    (refused : ∀ value, Yields plain value → ∀ result, made value ≠ .ok result) :
    Mirrors step plain made := by
  intro text result rest
  refine iff_of_false (fun done => fails result ⟨_, _, done⟩) ?_
  rintro ⟨value, done, built⟩
  exact refused value ⟨_, _, done⟩ result built

lemma mirrors_throw (fault : Fault) :
    Mirrors (throw fault : Scan α) (throw fault : Scan β) made :=
  mirrors_of_refused (fun _ => of_throw) fun _ yields => (of_throw yields).elim

lemma Lifts.eq_ok {result : Except Fault α} {value : α} (lifts : Lifts step result) :
    step text = .ok (value, rest) ↔ result = .ok value ∧ text = rest := by
  rw [lifts text]
  cases result <;> simp [Except.map]

/-- More can be made of what a step gives, without taking anything. -/
lemma Mirrors.bind {next : α → Scan γ} {after : α → Except Fault γ} (mirrors : Mirrors step plain made)
    (lifts : ∀ value, Lifts (next value) (after value)) :
    Mirrors (step >>= next) plain fun value => made value >>= after := by
  intro text result rest
  simp only [Scan.bind_eq_ok, mirrors _ _ _, (lifts _).eq_ok, Encoded.bind_eq_ok]
  constructor
  · rintro ⟨given, middle, ⟨value, done, built⟩, last, rfl⟩
    exact ⟨value, done, given, built, last⟩
  · rintro ⟨value, done, given, built, last⟩
    exact ⟨given, rest, ⟨value, done, built⟩, last, rfl⟩

/-- The value may be made of something else. -/
lemma Mirrors.map {wrap : β → γ} {made' : γ → Except Fault α} (mirrors : Mirrors step plain made)
    (same : ∀ value, made' (wrap value) = made value) :
    Mirrors step (plain >>= fun value => pure (wrap value)) made' := by
  intro text result rest
  simp only [mirrors _ _ _, Scan.bind_eq_ok, Scan.pure_eq_ok]
  constructor
  · rintro ⟨value, done, built⟩
    exact ⟨_, ⟨value, rest, done, rfl, rfl⟩, (same value).trans built⟩
  · rintro ⟨_, ⟨value, middle, done, rfl, rfl⟩, built⟩
    exact ⟨value, done, (same value).symm.trans built⟩

end

namespace Scan

variable {depth : Nat} {c : Char} {tail : List Char}

/-- The step mirrors the step for any value on the texts that start with a character. -/
def MirrorsAt (depth : Nat) (c : Char) (step : Scan α) (made : Json → Except Fault α) : Prop :=
  ∀ tail result rest, step (c :: tail) = .ok (result, rest) ↔
    ∃ json, value depth (c :: tail) = .ok (json, rest) ∧ made json = .ok result

/-- A step that looks at the first character mirrors the step for any value if it does so for each
first character. -/
lemma mirrors_next {next : Option Char → Scan α} {made : Json → Except Fault α}
    (none : ∀ result, ¬ Yields (next none) result)
    (some : ∀ c, isSpace c = false → MirrorsAt depth c (next (some c)) made) :
    Mirrors (next? >>= next) (value depth) made := by
  intro text result rest
  have skipped : value depth text = value depth (text.dropWhile isSpace) := by
    cases depth <;> simp only [value, next?_bind, List.dropWhile_idempotent]
  rw [skipped, next?_bind]
  cases dropped : text.dropWhile isSpace with
  | nil =>
    refine iff_of_false (fun done => none result ⟨_, _, done⟩) ?_
    rintro ⟨json, done, -⟩
    cases depth <;> cases done
  | cons c tail =>
    have dark : isSpace c = false := by
      have first := List.head?_dropWhile_not isSpace text
      rwa [dropped] at first
    exact some c dark tail result rest

/-- Where nothing can be made of a value, the step has to fail. -/
lemma mirrorsAt_of_refused {step : Scan α} {made : Json → Except Fault α} (dark : isSpace c = false)
    (fails : ∀ result, ¬ Yields step result)
    (refused : ∀ json : Json, json.Starts c → ∀ result, made json ≠ .ok result) :
    MirrorsAt depth c step made := by
  intro tail result rest
  refine iff_of_false (fun done => fails result ⟨_, _, done⟩) ?_
  rintro ⟨json, done, made⟩
  exact refused json (starts_of_value dark done) result made

/-- Where the step for any value starts with this character as another one does. -/
lemma mirrorsAt_of_value {step : Scan α} {plain : Scan Json} {made : Json → Except Fault α}
    (mirrors : Mirrors step plain made)
    (same : ∀ tail, value depth (c :: tail) = plain (c :: tail)) : MirrorsAt depth c step made := by
  intro tail result rest
  rw [same]
  exact mirrors _ result rest

/-- A text is taken where any value is, if it is one. -/
lemma mirrors_text : Mirrors Scan.primitive.text (value depth) fun json => json.primitive.text := by
  refine mirrors_next (fun _ => not_yields_mismatch) fun c dark => ?_
  split
  · next same =>
    obtain rfl := Option.some.inj same
    exact mirrorsAt_of_value ((mirrors_refl quoted).map fun _ => rfl) fun tail =>
      value_of_atom dark (by decide) (by decide)
  · next other =>
    refine mirrorsAt_of_refused dark (fun _ => not_yields_mismatch) fun json starts result made => ?_
    cases json with
    | string text => exact other (congrArg some starts)
    | _ => cases made

/-- So is a truth value. -/
lemma mirrors_boolean :
    Mirrors Scan.primitive.boolean (value depth) fun json => json.primitive.boolean := by
  have spelled (truth : Bool) (chars : List Char) :
      Mirrors (word chars >>= fun _ => pure truth) (word chars >>= fun _ => pure (bool truth))
        fun json => json.primitive.boolean :=
    ((mirrors_refl (word chars)).bind fun _ => lifts_pure truth).map fun _ => rfl
  refine mirrors_next (fun _ => not_yields_mismatch) fun c dark => ?_
  split
  · next same =>
    obtain rfl := Option.some.inj same
    exact mirrorsAt_of_value (spelled true _) fun tail =>
      value_of_atom dark (by decide) (by decide)
  · next same =>
    obtain rfl := Option.some.inj same
    exact mirrorsAt_of_value (spelled false _) fun tail =>
      value_of_atom dark (by decide) (by decide)
  · next yes no =>
    refine mirrorsAt_of_refused dark (fun _ => not_yields_mismatch) fun json starts result made => ?_
    cases json with
    | bool truth =>
      cases truth with
      | true => exact yes (congrArg some starts)
      | false => exact no (congrArg some starts)
    | _ => cases made

/-- So is a whole number. -/
lemma mirrors_whole (low high : Int) (expected : String) :
    Mirrors (Scan.primitive.whole low high expected) (value depth)
      fun json => json.primitive.whole low high expected := by
  refine mirrors_next (fun _ => of_throw) fun c dark => ?_
  dsimp only
  split
  · next starts =>
    have number : StartsAtom c := .inr (.inr (.inr (.inr starts)))
    refine mirrorsAt_of_value (Mirrors.bind (mirrors_refl Scan.number) fun json => ?_) fun tail => ?_
    · change Lifts _ (json.within low high expected)
      cases json.within low high expected with
      | ok n => exact lifts_pure n
      | error fault => exact lifts_throw fault
    · rw [value_of_atom dark number.other.2.1 number.other.2.2.1, atom_of_startsNumber starts]
  · next other =>
    refine mirrorsAt_of_refused dark (fun _ => not_yields_mismatch) fun json starts result made => ?_
    cases json with
    | integer n => exact other starts
    | _ => cases made

variable {item : Scan α} {plain : Scan β} {made : β → Except Fault α}

lemma mirrors_itemsWithin (each : Mirrors item plain made) (first : Bool) (fuel : Nat) :
    Mirrors (itemsWithin item first fuel) (itemsWithin plain first fuel)
      fun values => values.mapM made := by
  induction fuel generalizing first with
  | zero => exact mirrors_throw _
  | succ fuel ih =>
    rw [itemsWithin_succ, itemsWithin_succ]
    refine mirrors_behind _ fun more => ?_
    split
    · intro text result rest
      simp only [bind_eq_ok, pure_eq_ok, each _ _ _, ih false _ _ _]
      constructor
      · rintro ⟨one, middle, ⟨value, done, built⟩, others, _, ⟨values, left, all⟩, rfl, rfl⟩
        refine ⟨value :: values, ⟨value, middle, done, values, _, left, rfl, rfl⟩, ?_⟩
        rw [List.mapM_cons]
        exact Encoded.bind_eq_ok.2 ⟨one, built, Encoded.bind_eq_ok.2 ⟨others, all, rfl⟩⟩
      · rintro ⟨_, ⟨value, middle, done, values, _, left, rfl, rfl⟩, built⟩
        rw [List.mapM_cons] at built
        obtain ⟨one, built, all⟩ := Encoded.bind_eq_ok.1 built
        obtain ⟨others, all, made⟩ := Encoded.bind_eq_ok.1 all
        exact ⟨one, middle, ⟨value, done, built⟩, others, _, ⟨values, left, all⟩,
          Except.ok.inj made, rfl⟩
    · exact mirrors_pure rfl

/-- The items of an array are taken where all of them can be made. -/
lemma mirrors_items (each : Mirrors item plain made) :
    Mirrors (items item) (items plain) fun values => values.mapM made :=
  mirrors_behind get fun _ => mirrors_itemsWithin each true _

lemma mirrors_membersWithin {member : σ → String → Scan σ}
    {take : σ → String → β → Except Fault σ}
    (each : ∀ state name, Mirrors (member state name) plain (take state name)) (first : Bool)
    (state : σ) (fuel : Nat) :
    Mirrors (membersWithin member first state fuel) (namedWithin plain first fuel)
      fun members => members.foldlM (fun state entry => take state entry.1 entry.2) state := by
  induction fuel generalizing first state with
  | zero => exact mirrors_throw _
  | succ fuel ih =>
    rw [membersWithin_succ, namedWithin]
    refine mirrors_behind _ fun name? => ?_
    cases name? with
    | none => exact mirrors_pure rfl
    | some name =>
      intro text final rest
      simp only [Option.elim, bind_eq_ok, pure_eq_ok, each _ _ _ _ _, ih false _ _ _ _]
      constructor
      · rintro ⟨next, middle, ⟨value, done, taken⟩, members, left, all⟩
        refine ⟨_, ⟨value, middle, done, members, _, left, rfl, rfl⟩, ?_⟩
        exact Encoded.bind_eq_ok.2 ⟨next, taken, all⟩
      · rintro ⟨_, ⟨value, middle, done, members, _, left, rfl, rfl⟩, all⟩
        obtain ⟨next, taken, all⟩ := Encoded.bind_eq_ok.1 all
        exact ⟨next, middle, ⟨value, done, taken⟩, members, left, all⟩

/-- The members of an object are taken where all of them can be, one after the other. -/
lemma mirrors_members {member : σ → String → Scan σ} {take : σ → String → β → Except Fault σ}
    (each : ∀ state name, Mirrors (member state name) plain (take state name)) (state : σ) :
    Mirrors (members member state) (named plain)
      fun members => members.foldlM (fun state entry => take state entry.1 entry.2) state :=
  mirrors_behind get fun _ => mirrors_membersWithin each true state _

end Scan

end Kmip.Json
