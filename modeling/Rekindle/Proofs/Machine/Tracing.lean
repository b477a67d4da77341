import Rekindle.Proofs.Transparency.Leading

/-!
# What is seen of a run

An observer who looks at every state a thread goes through sees some events. The events of a run
are those up to a state and those from there on.
-/

namespace Rekindle.Machine

variable {Event : Type}

/-- What is seen of the states that a thread goes through within some steps. -/
def seen (see : List Activation → List Event) (limit : Nat) (thread : ThreadId) :
    (steps : Nat) → Store → List Activation → List Event
  | 0, _, _ => []
  | steps + 1, store, activations =>
    see activations ++
      match step limit thread store activations with
      | .running store activations => seen see limit thread steps store activations
      | .blocked _ _ | .finished _ _ => []

/-- Where nothing is to be done, nothing is seen. -/
theorem seen_nil {see : List Activation → List Event} (silent : see [] = [])
    (limit : Nat) (thread : ThreadId) (steps : Nat) (store : Store) :
    seen see limit thread steps store [] = [] := by
  cases steps with
  | zero => rfl
  | succ steps =>
      rw [seen, silent]
      rfl

/-- Some steps of a thread lead from one state to another, and events are seen on the way. -/
inductive Traces (see : List Activation → List Event) (limit : Nat) (thread : ThreadId) :
    Store → List Activation → List Event → Store → List Activation → Prop where
  | refl {store : Store} {activations : List Activation} :
      Traces see limit thread store activations [] store activations
  | step {store middle after : Store} {activations next last : List Activation}
      {events : List Event}
      (first : step limit thread store activations = .running middle next)
      (others : Traces see limit thread middle next events after last) :
      Traces see limit thread store activations (see activations ++ events) after last

variable {see : List Activation → List Event} {limit : Nat} {thread : ThreadId}
  {store middle after : Store} {activations next last : List Activation}
  {events more : List Event}

namespace Traces

theorem trans (first : Traces see limit thread store activations events middle next)
    (second : Traces see limit thread middle next more after last) :
    Traces see limit thread store activations (events ++ more) after last := by
  induction first with
  | refl => exact second
  | step first _ ih =>
      rw [List.append_assoc]
      exact .step first (ih second)

theorem leads (traces : Traces see limit thread store activations events after last) :
    Leads limit thread store activations after last := by
  induction traces with
  | refl => exact .refl
  | step first _ ih => exact .step first ih

theorem of_running (running : attempt limit thread store activations = .running after next) :
    Traces see limit thread store activations (see activations) after next := by
  have single : Traces see limit thread store activations (see activations ++ []) after next :=
    .step (step_of_running running) .refl
  rwa [List.append_nil] at single

/-- A step at which nothing is seen. -/
theorem quiet (silent : see activations = [])
    (running : attempt limit thread store activations = .running middle next)
    (others : Traces see limit thread middle next events after last) :
    Traces see limit thread store activations events after last := by
  have traces : Traces see limit thread store activations (see activations ++ events) after last :=
    .step (step_of_running running) others
  rwa [silent] at traces

theorem of_quiet (silent : see activations = [])
    (running : attempt limit thread store activations = .running after next) :
    Traces see limit thread store activations [] after next :=
  .quiet silent running .refl

/-- What is seen of a run is seen on the way to a later state or from there on. -/
theorem run_last (traces : Traces see limit thread store activations events after last)
    {steps : Nat} {result : Store × Except Trap (Option Value)}
    (runs : run limit thread steps store activations = some result) :
    ∃ fewer ≤ steps, run limit thread fewer after last = some result ∧
      seen see limit thread steps store activations =
        events ++ seen see limit thread fewer after last := by
  induction traces generalizing steps with
  | refl => exact ⟨steps, Nat.le_refl steps, runs, rfl⟩
  | step first _ ih =>
      cases steps with
      | zero => cases runs
      | succ steps =>
          simp only [run, first] at runs
          rcases ih runs with ⟨fewer, below, runsLast, same⟩
          refine ⟨fewer, Nat.le_succ_of_le below, runsLast, ?_⟩
          simp only [seen, first, same, List.append_assoc]

/-- When a run has come to another stack, there are fewer steps left. -/
theorem run_last_lt (traces : Traces see limit thread store activations events after last)
    (moved : last ≠ activations) {steps : Nat} {result : Store × Except Trap (Option Value)}
    (runs : run limit thread steps store activations = some result) :
    ∃ fewer < steps, run limit thread fewer after last = some result ∧
      seen see limit thread steps store activations =
        events ++ seen see limit thread fewer after last := by
  cases traces with
  | refl => exact absurd rfl moved
  | step first others =>
      cases steps with
      | zero => cases runs
      | succ steps =>
          simp only [run, first] at runs
          rcases others.run_last runs with ⟨fewer, below, runsLast, same⟩
          refine ⟨fewer, Nat.lt_succ_of_le below, runsLast, ?_⟩
          simp only [seen, first, same, List.append_assoc]

end Traces

/-! ### Seeing returns -/

/-- Whether there is an instruction, and it returns. -/
def isReturn : Option Instruction → Bool
  | some .ret => true
  | _ => false

/-- Whether a frame is about to return. -/
def Frame.isReturning (frame : Frame) : Bool := isReturn frame.instruction?

/-- Whether nothing is seen but frames that are about to return. -/
structure SeesReturns (see : List Activation → List Event) : Prop where
  body : ∀ (frame : Frame) below, frame.isReturning = false → see (.body frame :: below) = []
  other : ∀ (activation : Activation) below, activation.isBody = false →
    see (activation :: below) = []

end Rekindle.Machine
