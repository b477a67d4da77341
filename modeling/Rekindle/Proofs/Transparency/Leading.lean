import Rekindle.Machine.Host

/-!
# Where steps lead

The states that a thread comes to, step by step, and the runs that go through them. A thread whose
calls never go too deep meets the limit at none of these states.
-/

namespace Rekindle.Machine

/-- Some steps of a thread lead from one state to another. -/
inductive Leads (limit : Nat) (thread : ThreadId) :
    Store → List Activation → Store → List Activation → Prop where
  | refl {store : Store} {activations : List Activation} :
      Leads limit thread store activations store activations
  | step {store middle after : Store} {activations next last : List Activation}
      (first : step limit thread store activations = .running middle next)
      (others : Leads limit thread middle next after last) :
      Leads limit thread store activations after last

/-- Whether an attempt ends at the limit of the depth of calls. -/
def Attempt.meetsLimit : Attempt → Bool
  | .raised _ (.callDepthExceeded _) _ => true
  | _ => false

/-- A thread that comes to no state at which it meets the limit. -/
def Shallow (limit : Nat) (thread : ThreadId) (store : Store) (activations : List Activation) :
    Prop :=
  ∀ after last, Leads limit thread store activations after last →
    (attempt limit thread after last).meetsLimit = false

/-- Whether a thread comes to its end within some steps and does not meet the limit. -/
def endsShallow (limit : Nat) (thread : ThreadId) :
    (steps : Nat) → Store → List Activation → Bool
  | 0, _, _ => false
  | steps + 1, store, activations =>
    !(attempt limit thread store activations).meetsLimit &&
      match step limit thread store activations with
      | .running store activations => endsShallow limit thread steps store activations
      | .blocked _ _ | .finished _ _ => true

variable {limit : Nat} {thread : ThreadId} {store middle after : Store}
  {activations next last : List Activation}

theorem Leads.trans (first : Leads limit thread store activations middle next)
    (second : Leads limit thread middle next after last) :
    Leads limit thread store activations after last := by
  induction first with
  | refl => exact second
  | step leads _ ih => exact .step leads (ih second)

theorem step_of_running (running : attempt limit thread store activations = .running after next) :
    step limit thread store activations = .running after next := by
  rw [step, running, Attempt.settle]

theorem Leads.of_running (running : attempt limit thread store activations = .running after next) :
    Leads limit thread store activations after next :=
  .step (step_of_running running) .refl

theorem Shallow.leads (shallow : Shallow limit thread store activations)
    (leads : Leads limit thread store activations after last) : Shallow limit thread after last :=
  fun _ _ further => shallow _ _ (leads.trans further)

theorem Shallow.here (shallow : Shallow limit thread store activations) :
    (attempt limit thread store activations).meetsLimit = false :=
  shallow store activations .refl

theorem shallow_of_endsShallow {steps : Nat}
    (ends : endsShallow limit thread steps store activations = true) :
    Shallow limit thread store activations := by
  intro after last leads
  induction leads generalizing steps with
  | refl =>
      cases steps with
      | zero => cases ends
      | succ steps =>
          simp only [endsShallow, Bool.and_eq_true, Bool.not_eq_true'] at ends
          exact ends.1
  | step first _ ih =>
      cases steps with
      | zero => cases ends
      | succ steps =>
          simp only [endsShallow, first, Bool.and_eq_true] at ends
          exact ih ends.2

/-! ### Entering a routine -/

variable {target : BoundRoutine} {parameters : List Value} {waiting : List Activation}
  {instantiation : Instantiation}

/-- Enters a routine on top of what waits for its end. -/
def entering (limit : Nat) (store : Store) (target : BoundRoutine) (parameters : List Value)
    (waiting : List Activation) : Attempt :=
  match Frame.enter limit (depth waiting + 1) store target parameters with
  | .ok frame => .running store (.body frame :: waiting)
  | .error trap => .raised store trap waiting

theorem call_eq (owned : ownerOf store target = .ok instantiation) :
    call limit thread store target parameters waiting =
      acquire limit thread store instantiation (.call target parameters :: waiting) fun store =>
        entering limit store target parameters waiting := by
  simp only [call, owned]
  rfl

theorem initializerOf_eq_some_iff :
    initializerOf store instantiation = some target ↔ ∃ module id,
      store.modules[instantiation.module.position]? = some module ∧
      module.initializer instantiation.type = .ok (some id) ∧
      target = ⟨instantiation.module, id, instantiation.arguments⟩ := by
  unfold initializerOf
  constructor
  · intro found
    split at found
    · cases found
    · rename_i module loaded
      split at found
      · rename_i id isInitializer
        cases found
        exact ⟨module, id, loaded, isInitializer, rfl⟩
      · cases found
      · cases found
  · rintro ⟨module, id, loaded, isInitializer, rfl⟩
    simp only [loaded, isInitializer]

theorem startInitializer_eq (found : initializerOf store instantiation = some target) :
    startInitializer limit store instantiation activations =
      entering limit store target [] (.initializer instantiation :: activations) := by
  simp only [startInitializer, found]
  rfl

/-- A thread that never meets the limit is deep enough below it to enter what it enters. -/
theorem Shallow.enough (shallow : Shallow limit thread store activations)
    (attempted : attempt limit thread store activations =
      entering limit after target parameters waiting) : ¬limit < depth waiting + 1 := by
  intro tooDeep
  have meets := shallow.here
  rw [attempted, entering, Frame.enter, if_pos tooDeep] at meets
  cases meets

/-- A body without clauses receives nothing. -/
theorem receive_of_unguarded {frame : Frame} (unguarded : frame.body.handlers = []) (trap : Trap) :
    frame.receive trap = .error trap := by
  cases trap with
  | thrown value => simp only [Frame.receive, unguarded, List.find?_nil]
  | _ => rfl

/-! ### Runs -/

variable {steps : Nat} {result : Store × Except Trap (Option Value)}

theorem Leads.run_first (leads : Leads limit thread store activations after last)
    (runs : run limit thread steps after last = some result) :
    ∃ more, run limit thread more store activations = some result := by
  induction leads with
  | refl => exact ⟨steps, runs⟩
  | step first _ ih =>
      rcases ih runs with ⟨more, runsFirst⟩
      refine ⟨more + 1, ?_⟩
      simp only [run, first]
      exact runsFirst

/-- What is left of a run at a later state takes no more steps. -/
theorem Leads.run_last (leads : Leads limit thread store activations after last)
    (runs : run limit thread steps store activations = some result) :
    ∃ fewer ≤ steps, run limit thread fewer after last = some result := by
  induction leads generalizing steps with
  | refl => exact ⟨steps, Nat.le_refl steps, runs⟩
  | step first _ ih =>
      cases steps with
      | zero => cases runs
      | succ steps =>
          simp only [run, first] at runs
          rcases ih runs with ⟨fewer, below, runsLast⟩
          exact ⟨fewer, Nat.le_succ_of_le below, runsLast⟩

/-- A run that comes to its end does so within more steps, too. -/
theorem run_mono {more : Nat} (runs : run limit thread steps store activations = some result)
    (le : steps ≤ more) : run limit thread more store activations = some result := by
  induction steps generalizing more store activations with
  | zero => cases runs
  | succ steps ih =>
      rcases more with _ | more
      · omega
      · rw [run] at runs ⊢
        rcases first : step limit thread store activations with
          ⟨middle, next⟩ | ⟨middle, next⟩ | ⟨after, ended⟩
        · simp only [first] at runs ⊢
          exact ih runs (Nat.le_of_succ_le_succ le)
        · simp only [first] at runs
          cases runs
        · simp only [first] at runs ⊢
          exact runs

/-- Runs of one thread have one outcome. -/
theorem run_unique {more : Nat} {other : Store × Except Trap (Option Value)}
    (runs : run limit thread steps store activations = some result)
    (runsToo : run limit thread more store activations = some other) : result = other := by
  induction steps generalizing more store activations with
  | zero => cases runs
  | succ steps ih =>
      cases more with
      | zero => cases runsToo
      | succ more =>
          rw [run] at runs runsToo
          rcases first : step limit thread store activations with
            ⟨middle, next⟩ | ⟨middle, next⟩ | ⟨after, ended⟩
          · simp only [first] at runs runsToo
            exact ih runs runsToo
          · simp only [first] at runs
            cases runs
          · simp only [first, Option.some.injEq] at runs runsToo
            exact runs.symm.trans runsToo

end Rekindle.Machine
