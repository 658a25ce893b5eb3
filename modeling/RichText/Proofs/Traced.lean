import RichText.Traced

/-!
Sequences of computations that leave notices: one step after another that succeeded, and after one that
did not. A sequence has a result exactly if every step of it has one.
-/

namespace RichText

namespace Noted

variable {α β : Type}

theorem bind_notices (first : Noted α) (next : α → Noted β) :
    (first >>= next).notices = first.notices ++ (next first.value).notices := rfl

theorem bind_value (first : Noted α) (next : α → Noted β) :
    (first >>= next).value = (next first.value).value := rfl

end Noted

namespace Traced

variable {ε α β : Type} {first : Traced ε α} {value : α} {fault : ε}

theorem bind_of_ok (next : α → Traced ε β) (ok : first.outcome = .ok value) :
    first >>= next = ⟨first.notices ++ (next value).notices, (next value).outcome⟩ := by
  obtain ⟨notices, outcome⟩ := first
  obtain rfl : outcome = .ok value := ok
  rfl

theorem bind_of_error (next : α → Traced ε β) (failed : first.outcome = .error fault) :
    first >>= next = ⟨first.notices, .error fault⟩ := by
  obtain ⟨notices, outcome⟩ := first
  obtain rfl : outcome = .error fault := failed
  rfl

theorem bind_outcome (first : Traced ε α) (next : α → Traced ε β) :
    (first >>= next).outcome = first.outcome >>= fun value => (next value).outcome := by
  cases outcome : first.outcome with
  | error fault => rw [bind_of_error next outcome]; rfl
  | ok value => rw [bind_of_ok next outcome]; rfl

theorem ok_of_bind {next : α → Traced ε β} {result : β}
    (ok : (first >>= next).outcome = .ok result) :
    ∃ value, first.outcome = .ok value ∧ (next value).outcome = .ok result := by
  cases outcome : first.outcome with
  | error fault =>
      rw [bind_of_error next outcome] at ok
      exact absurd ok nofun
  | ok value =>
      rw [bind_of_ok next outcome] at ok
      exact ⟨value, rfl, ok⟩

instance : LawfulMonad (Traced ε) :=
  .mk' (Traced ε)
    (by
      rintro α ⟨notices, fault | value⟩
      · rfl
      · exact congrArg (fun all => (⟨all, .ok value⟩ : Traced ε α)) (List.append_nil notices))
    (fun _ _ => rfl)
    (by
      rintro α β γ ⟨notices, fault | value⟩ next last
      · rfl
      · rw [bind_of_ok next rfl, bind_of_ok (fun value => next value >>= last) rfl]
        generalize next value = second
        obtain ⟨more, fault | result⟩ := second
        · rfl
        · exact congrArg (fun all => (⟨all, (last result).outcome⟩ : Traced ε γ))
            (List.append_assoc notices more _))

theorem note_bind (notice : Notice) (next : Unit → Traced ε β) :
    note notice >>= next = ⟨notice :: (next ()).notices, (next ()).outcome⟩ := rfl

theorem of_except_ok_bind (value : α) (next : α → Traced ε β) :
    ofExcept (.ok value) >>= next = next value := rfl

theorem of_noted_bind (noted : Noted α) (next : α → Traced ε β) :
    ofNoted noted >>= next =
      ⟨noted.notices ++ (next noted.value).notices, (next noted.value).outcome⟩ := rfl

/-- What comes after a computation that always has a result matters for that result only. -/
theorem of_noted_bind_congr {noted : Noted α} {next further : α → Traced ε β}
    (same : next noted.value = further noted.value) :
    ofNoted noted >>= next = ofNoted noted >>= further := by
  rw [of_noted_bind, of_noted_bind, same]

/-- Steps that do the same with every item do the same with all of them. -/
theorem each_congr {step other : α → Traced ε β} {items : List α}
    (same : ∀ item ∈ items, step item = other item) : items.mapM step = items.mapM other := by
  induction items with
  | nil => rfl
  | cons item items induction =>
      rw [List.forall_mem_cons] at same
      rw [List.mapM_cons, List.mapM_cons, same.1, induction same.2]

end Traced

/-! ## Results -/

/-- An outcome that is a result and no fault. -/
def Returns {ε α : Type} (outcome : Except ε α) : Prop := ∃ value, outcome = .ok value

section Returns

variable {ε α β : Type}

theorem returns_ok (value : α) : Returns (.ok value : Except ε α) := ⟨value, rfl⟩

theorem not_returns_error (fault : ε) : ¬Returns (.error fault : Except ε α) := nofun

instance : (outcome : Except ε α) → Decidable (Returns outcome)
  | .ok value => isTrue (returns_ok value)
  | .error fault => isFalse (not_returns_error fault)

theorem returns_ok_iff {holds : Prop} (value : α) (proof : holds) :
    Returns (.ok value : Except ε α) ↔ holds := iff_of_true (returns_ok value) proof

theorem returns_error_iff {holds : Prop} (fault : ε) (fails : ¬holds) :
    Returns (.error fault : Except ε α) ↔ holds := iff_of_false (not_returns_error fault) fails

theorem returns_bind_iff (first : Except ε α) (next : α → Except ε β) :
    Returns (first >>= next) ↔ ∃ value, first = .ok value ∧ Returns (next value) := by
  cases first with
  | error fault =>
      apply returns_error_iff
      rintro ⟨value, same, -⟩
      exact absurd same nofun
  | ok value =>
      constructor
      · intro returns
        exact ⟨value, rfl, returns⟩
      · rintro ⟨other, same, returns⟩
        obtain rfl := Except.ok.inj same
        exact returns

/-- What comes after a first step always has a result. -/
theorem returns_bind_iff_first (first : Except ε α) (next : α → Except ε β)
    (further : ∀ value, Returns (next value)) : Returns (first >>= next) ↔ Returns first := by
  rw [returns_bind_iff]
  exact exists_congr fun value => and_iff_left (further value)

theorem returns_map_iff (first : Except ε α) (build : α → β) :
    Returns (first >>= fun value => pure (build value)) ↔ Returns first :=
  returns_bind_iff_first first _ fun _ => returns_ok _

theorem ok_of_to_option {outcome : Except ε α} {value : α}
    (same : outcome.toOption = some value) : outcome = .ok value := by
  cases outcome with
  | error fault => exact absurd same nofun
  | ok other => exact congrArg Except.ok (Option.some.inj same)

theorem map_ok_iff (build : α → β) (outcome : Except ε α) {result : β} :
    outcome.map build = .ok result ↔ ∃ value, outcome = .ok value ∧ build value = result := by
  cases outcome with
  | error fault => simp [Except.map]
  | ok value => simp [Except.map]

theorem returns_traced_map_iff (first : Traced ε α) (build : α → β) :
    Returns (first >>= fun value => pure (build value)).outcome ↔ Returns first.outcome := by
  rw [Traced.bind_outcome]
  exact returns_map_iff first.outcome build

theorem returns_each_iff (step : α → Except ε β) (items : List α) :
    Returns (items.mapM step) ↔ ∀ item ∈ items, Returns (step item) := by
  induction items with
  | nil =>
      apply returns_ok_iff
      intro item member
      exact absurd member List.not_mem_nil
  | cons item items induction =>
      rw [List.mapM_cons, returns_bind_iff, List.forall_mem_cons, ← induction]
      constructor
      · rintro ⟨value, first, rest⟩
        exact ⟨⟨value, first⟩, (returns_map_iff _ _).mp rest⟩
      · rintro ⟨⟨value, first⟩, rest⟩
        exact ⟨value, first, (returns_map_iff _ _).mpr rest⟩

end Returns

/-! ## Faults -/

/-- An outcome that is a fault, and one with a property. -/
def Fails {ε α : Type} (holds : ε → Prop) (outcome : Except ε α) : Prop :=
  ∃ fault, outcome = .error fault ∧ holds fault

section Fails

variable {ε α β : Type} {holds : ε → Prop}

theorem not_fails_ok (value : α) : ¬Fails holds (.ok value : Except ε α) := nofun

theorem fails_error_iff (fault : ε) : Fails holds (.error fault : Except ε α) ↔ holds fault := by
  constructor
  · rintro ⟨other, same, fits⟩
    obtain rfl := Except.error.inj same
    exact fits
  · intro fits
    exact ⟨fault, rfl, fits⟩

theorem fails_bind_iff (first : Except ε α) (next : α → Except ε β) :
    Fails holds (first >>= next) ↔
      Fails holds first ∨ ∃ value, first = .ok value ∧ Fails holds (next value) := by
  cases first with
  | error fault =>
      have failed : ((.error fault : Except ε α) >>= next) = .error fault := rfl
      rw [failed, fails_error_iff, fails_error_iff]
      constructor
      · exact .inl
      · rintro (fits | ⟨value, same, -⟩)
        · exact fits
        · exact absurd same nofun
  | ok value =>
      have passed : ((.ok value : Except ε α) >>= next) = next value := rfl
      rw [passed]
      constructor
      · intro fails
        exact .inr ⟨value, rfl, fails⟩
      · rintro (fails | ⟨other, same, fails⟩)
        · exact absurd fails (not_fails_ok value)
        · obtain rfl := Except.ok.inj same
          exact fails

theorem fails_map_iff (first : Except ε α) (build : α → β) :
    Fails holds (first >>= fun value => pure (build value)) ↔ Fails holds first := by
  rw [fails_bind_iff]
  apply or_iff_left
  rintro ⟨value, -, fails⟩
  exact not_fails_ok _ fails

/-- The items of a series are taken one by one up to the first that fails. -/
theorem fails_each_iff (step : α → Except ε β) (items : List α) :
    Fails holds (items.mapM step) ↔ ∃ before item after, items = before ++ item :: after ∧
      (∀ other ∈ before, Returns (step other)) ∧ Fails holds (step item) := by
  induction items with
  | nil =>
      constructor
      · intro fails
        exact absurd fails (not_fails_ok _)
      · rintro ⟨before, item, after, same, -⟩
        exact absurd same (by simp)
  | cons first items induction =>
      rw [List.mapM_cons, fails_bind_iff]
      constructor
      · rintro (fails | ⟨value, passed, fails⟩)
        · exact ⟨[], first, items, rfl, List.forall_mem_nil _, fails⟩
        · have later := (fails_map_iff (items.mapM step) (value :: ·)).mp fails
          obtain ⟨before, item, after, rfl, passes, fails⟩ := induction.mp later
          exact ⟨first :: before, item, after, rfl,
            List.forall_mem_cons.mpr ⟨⟨value, passed⟩, passes⟩, fails⟩
      · rintro ⟨before, item, after, same, passes, fails⟩
        cases before with
        | nil =>
            obtain ⟨rfl, rfl⟩ := List.cons.inj same
            exact .inl fails
        | cons head before =>
            obtain ⟨rfl, rfl⟩ := List.cons.inj same
            obtain ⟨⟨value, passed⟩, others⟩ := List.forall_mem_cons.mp passes
            have later := induction.mpr ⟨before, item, after, rfl, others, fails⟩
            exact .inr ⟨value, passed, (fails_map_iff _ _).mpr later⟩

theorem each_outcome (step : α → Traced ε β) (items : List α) :
    (items.mapM step).outcome = items.mapM fun item => (step item).outcome := by
  induction items with
  | nil => rfl
  | cons item items induction =>
      rw [List.mapM_cons, List.mapM_cons, Traced.bind_outcome, ← induction]
      apply bind_congr
      intro value
      rw [Traced.bind_outcome]
      rfl

end Fails

/-! ## Results with a property -/

/-- A computation that has a result, and one with a property. -/
def Yields {ε α : Type} (traced : Traced ε α) (holds : α → Prop) : Prop :=
  ∃ value, traced.outcome = .ok value ∧ holds value

section Yields

variable {ε α β : Type} {holds : α → Prop} {result : β → Prop} {traced : Traced ε α}

theorem yields_pure {value : α} (fits : holds value) : Yields (pure value : Traced ε α) holds :=
  ⟨value, rfl, fits⟩

theorem yields_note (notice : Notice) : Yields (Traced.note notice : Traced ε Unit) fun _ => True :=
  ⟨(), rfl, trivial⟩

theorem yields_bind {next : α → Traced ε β} (yields : Yields traced holds)
    (step : ∀ value, holds value → Yields (next value) result) : Yields (traced >>= next) result := by
  obtain ⟨value, outcome, fits⟩ := yields
  obtain ⟨text, after, done⟩ := step value fits
  refine ⟨text, ?_, done⟩
  rw [Traced.bind_of_ok next outcome]
  exact after

theorem yields_map {build : α → β} (yields : Yields traced holds)
    (builds : ∀ value, holds value → result (build value)) :
    Yields (traced >>= fun value => pure (build value)) result :=
  yields_bind yields fun value fits => yields_pure (builds value fits)

end Yields

/-- Whatever result a computation has, it has a property. -/
def Gives {ε α : Type} (traced : Traced ε α) (holds : α → Prop) : Prop :=
  ∀ value, traced.outcome = .ok value → holds value

section Gives

variable {ε α β : Type} {holds : α → Prop} {result : β → Prop} {traced : Traced ε α}

theorem gives_any (traced : Traced ε α) : Gives traced fun _ => True := fun _ _ => trivial

theorem gives_pure {value : α} (fits : holds value) : Gives (pure value : Traced ε α) holds := by
  intro other same
  obtain rfl := Except.ok.inj same
  exact fits

theorem gives_bind {next : α → Traced ε β} (gives : Gives traced holds)
    (step : ∀ value, holds value → Gives (next value) result) : Gives (traced >>= next) result := by
  intro value outcome
  obtain ⟨first, before, after⟩ := Traced.ok_of_bind outcome
  exact step first (gives first before) value after

theorem gives_map {build : α → β} (gives : Gives traced holds)
    (builds : ∀ value, holds value → result (build value)) :
    Gives (traced >>= fun value => pure (build value)) result :=
  gives_bind gives fun value fits => gives_pure (builds value fits)

/-- A property of all that comes after a step, whatever the step results in. -/
theorem gives_after {next : α → Traced ε β} (step : ∀ value, Gives (next value) result) :
    Gives (traced >>= next) result := gives_bind (gives_any traced) fun value _ => step value

end Gives

end RichText
