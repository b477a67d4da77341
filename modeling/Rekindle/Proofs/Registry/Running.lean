import Rekindle.Proofs.Registry.Stepping

/-!
# Runs over a dispatcher

The ledger of a dispatcher is right after everything that a host asks for, extended by what was
registered meanwhile, if the host leaves the dispatcher alone and calls no initializer.
-/

namespace Rekindle.Machine

open Fallible Reload Validity

namespace Registry

variable {registry : Registry} {ledger : List Entry} {store after : Store} {limit : Nat}
  {activations : List Activation} {result : Except Trap (Option Value)}

/-! ### Runs -/

/-- A run of the host's thread extends a ledger that is right by what it registers. -/
theorem State.run_sound (state : registry.State ledger store activations) {steps : Nat}
    (runs : run limit hostThread steps store activations = some (after, result)) :
    registry.Sound (ledger ++ seen registry.completes limit hostThread steps store activations)
      after := by
  -- The end of an initializer of a hooked type is many steps, through which no ledger is right. It
  -- is taken as a whole, and fewer steps remain after it.
  induction steps using Nat.strong_induction_on generalizing ledger store activations with
  | _ steps ih =>
      cases steps with
      | zero => cases runs
      | succ steps =>
          cases state with
          | calm sound started stacked =>
              rcases stacked.step_stays sound started limit with ⟨silent, stays⟩
              simp only [run] at runs
              simp only [seen, silent, List.nil_append]
              rcases stepped : step limit hostThread store activations with
                ⟨middle, next⟩ | ⟨middle, next⟩ | ⟨last, ended⟩
              · rw [stepped] at runs stays
                exact ih steps (Nat.lt_succ_self steps) stays runs
              · rw [stepped] at runs
                cases runs
              · rw [stepped] at runs stays
                cases runs
                simp only [List.append_nil]
                exact stays
          | @dispatching store below sound started stacked =>
              have stepped : step limit hostThread store
                  (.initializer registry.dispatching :: below) =
                  .running (store.publish registry.dispatching (.ok ())) below := rfl
              simp only [run, stepped] at runs
              simp only [seen, stepped]
              exact ih steps (Nat.lt_succ_self steps)
                (.calm sound.dispatch (started.publish _) stacked) runs
          | @finishing hook frame store below sound wrapping started stacked =>
              rcases sound.wrapper_ends wrapping started.first limit below with
                ⟨entries, middle, traces, ended⟩
              have later : registry.State (ledger ++ entries) middle below := by
                refine .calm ended.sound (started.others ?_) stacked
                intro other listed apart
                exact ended.others other apart (stacked.ne_dispatching other listed)
              have moved : below ≠ .body frame ::
                  .initializer ⟨registry.handle, hook.type, frame.arguments⟩ :: below := by
                intro same
                have lengths := congrArg List.length same
                simp only [List.length_cons] at lengths
                omega
              rcases traces.run_last_lt moved runs with ⟨fewer, less, runsLast, same⟩
              rw [same, ← List.append_assoc]
              exact ih fewer less later runsLast

end Registry

end Rekindle.Machine
