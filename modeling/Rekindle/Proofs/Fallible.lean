import Mathlib.Data.List.Forall2

/-!
# Computations that may fail

How a chain of computations that may fail succeeds: every link of it does. Lists of checks and of
computations succeed element by element.
-/

namespace Rekindle.Fallible

variable {ε δ α β : Type}

@[simp]
theorem ok_bind (value : α) (next : α → Except ε β) : (Except.ok value >>= next) = next value := rfl

@[simp]
theorem error_bind (fault : ε) (next : α → Except ε β) :
    (Except.error fault >>= next) = .error fault := rfl

@[simp]
theorem pure_eq_ok (value : α) : (pure value : Except ε α) = .ok value := rfl

@[simp]
theorem throw_eq_error (fault : ε) : (throw fault : Except ε α) = .error fault := rfl

theorem bind_eq_ok_iff {first : Except ε α} {next : α → Except ε β} {result : β} :
    (first >>= next) = .ok result ↔ ∃ value, first = .ok value ∧ next value = .ok result := by
  cases first with
  | error fault => simp
  | ok value => simp

theorem check_bind_eq_ok_iff {check : Except ε Unit} {next : Unit → Except ε β} {result : β} :
    (check >>= next) = .ok result ↔ check = .ok () ∧ next () = .ok result := by
  cases check with
  | error fault => simp
  | ok value => simp

theorem bind_eq_error_iff {first : Except ε α} {next : α → Except ε β} {fault : ε} :
    (first >>= next) = .error fault ↔
      first = .error fault ∨ ∃ value, first = .ok value ∧ next value = .error fault := by
  cases first with
  | error other => simp
  | ok value => simp

theorem mapError_eq_ok_iff {first : Except ε α} {change : ε → δ} {result : α} :
    first.mapError change = .ok result ↔ first = .ok result := by
  cases first with
  | error fault => simp [Except.mapError]
  | ok value => simp [Except.mapError]

theorem map_eq_ok_iff {first : Except ε α} {make : α → β} {result : β} :
    first.map make = .ok result ↔ ∃ value, first = .ok value ∧ make value = result := by
  cases first with
  | error fault => simp [Except.map]
  | ok value => simp [Except.map]

theorem forM_eq_ok_iff {items : List α} {check : α → Except ε Unit} :
    items.forM check = .ok () ↔ ∀ item ∈ items, check item = .ok () := by
  induction items with
  | nil => simp
  | cons item items ih =>
      simp only [List.forM_eq_forM] at ih
      simp only [List.forM_eq_forM, List.forM_cons, bind_eq_ok_iff, ih, List.forall_mem_cons]
      constructor
      · rintro ⟨_, headHolds, tailHolds⟩
        exact ⟨headHolds, tailHolds⟩
      · rintro ⟨headHolds, tailHolds⟩
        exact ⟨(), headHolds, tailHolds⟩

/-- A list of checks of numbered items succeeds when each of them does, where the number only
matters for messages. -/
theorem forM_zipIdx_eq_ok_iff {items : List α} {check : α × Nat → Except ε Unit}
    {accepts : α → Prop} (decides : ∀ item number, check (item, number) = .ok () ↔ accepts item) :
    items.zipIdx.forM check = .ok () ↔ ∀ item ∈ items, accepts item := by
  rw [forM_eq_ok_iff]
  constructor
  · intro passes item listed
    rw [← List.zipIdx_map_fst 0 items] at listed
    rcases List.mem_map.mp listed with ⟨⟨_, number⟩, numbered, rfl⟩
    exact (decides _ number).mp (passes _ numbered)
  · rintro accepted ⟨item, number⟩ numbered
    refine (decides item number).mpr (accepted item ?_)
    rw [← List.zipIdx_map_fst 0 items]
    exact List.mem_map_of_mem numbered

theorem mapM_eq_ok_iff {items : List α} {compute : α → Except ε β} {results : List β} :
    items.mapM compute = .ok results ↔
      List.Forall₂ (fun item result => compute item = .ok result) items results := by
  induction items generalizing results with
  | nil => cases results <;> simp
  | cons item items ih =>
      cases results with
      | nil => simp [bind_eq_ok_iff]
      | cons result results => simp [bind_eq_ok_iff, ih]

theorem exists_of_mapM_ok {items : List α} {compute : α → Except ε β} {results : List β}
    (computed : items.mapM compute = .ok results) :
    ∀ item ∈ items, ∃ result ∈ results, compute item = .ok result := by
  have pairs := mapM_eq_ok_iff.mp computed
  clear computed
  induction pairs with
  | nil => simp
  | cons first _ ih =>
      refine List.forall_mem_cons.mpr ⟨⟨_, List.mem_cons_self, first⟩, fun item listed => ?_⟩
      rcases ih item listed with ⟨result, isResult, holds⟩
      exact ⟨result, List.mem_cons_of_mem _ isResult, holds⟩

/-! ## In place

A computation that changes a state and may fail on the way keeps what it has changed until then. -/

section InPlace

variable {σ : Type}

/-- What a computation in place answers and the state it leaves. -/
def outcome (change : ExceptT ε (StateM σ) α) (state : σ) : Except ε α × σ :=
  StateT.run (ExceptT.run change) state

@[simp]
theorem outcome_bind (change : ExceptT ε (StateM σ) α) (next : α → ExceptT ε (StateM σ) β)
    (state : σ) :
    outcome (change >>= next) state = match outcome change state with
      | (.ok value, after) => outcome (next value) after
      | (.error fault, after) => (.error fault, after) := by
  simp only [outcome, ExceptT.run_bind, StateT.run_bind]
  rcases StateT.run (ExceptT.run change) state with ⟨_ | value, after⟩ <;> rfl

@[simp]
theorem outcome_map (change : ExceptT ε (StateM σ) α) (make : α → β) (state : σ) :
    outcome (make <$> change) state = match outcome change state with
      | (.ok value, after) => (.ok (make value), after)
      | (.error fault, after) => (.error fault, after) := by
  rw [← bind_pure_comp, outcome_bind]
  rcases outcome change state with ⟨_ | value, after⟩ <;> rfl

@[simp]
theorem outcome_pure (value : α) (state : σ) :
    outcome (pure value : ExceptT ε (StateM σ) α) state = (.ok value, state) := rfl

@[simp]
theorem outcome_throw (fault : ε) (state : σ) :
    outcome (throw fault : ExceptT ε (StateM σ) α) state = (.error fault, state) := rfl

@[simp]
theorem outcome_get (state : σ) :
    outcome (get : ExceptT ε (StateM σ) σ) state = (.ok state, state) := rfl

@[simp]
theorem outcome_modify (change : σ → σ) (state : σ) :
    outcome (modify change : ExceptT ε (StateM σ) PUnit) state = (.ok (), change state) := rfl

end InPlace

end Rekindle.Fallible
