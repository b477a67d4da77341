import Rekindle.Proofs.Registration.Lines
import Rekindle.Proofs.Transparency.Registering

/-!
# Wrappers

The initializer of a hooked type is a straight line: it calls the copy of what it was, if there is
one, and then registers the routines of its type. Whatever it does but for the copy touches the
dispatcher alone.
-/

namespace Rekindle.Machine

open Fallible Reload Validity

variable {weave : Weave} {site : Site} {limit : Nat} {thread : ThreadId} {store after : Store}
  {frame : Frame} {below : List Activation} {rest : List Instruction} {arity : Nat}

namespace Weave

/-- A registration leads past its instructions. -/
theorem Prepared.registration_leads (prepared : weave.Prepared store)
    (listed : site ∈ weave.sites) {id? : Option RoutineId}
    (ahead : frame.Ahead firstModule (registration arity site.routine id? ++ rest))
    (shallow : Shallow limit thread store (.body frame :: below)) :
    ∃ after next, Leads limit thread store (.body frame :: below) after (.body next :: below) ∧
      next.Ahead firstModule rest ∧ weave.Aside store after := by
  cases id? with
  | none => exact ⟨store, frame, .refl, ahead, .refl prepared⟩
  | some id =>
      have sees : SeesReturns fun _ => ([] : List Unit) := ⟨fun _ _ _ => rfl, fun _ _ _ => rfl⟩
      have usable := prepared.usable listed thread
      have aheadThere : frame.Ahead site.handle (registration arity site.routine (some id) ++ rest) := by
        rw [handle_of_mem_sites listed]
        exact ahead
      have toCall := usable.registration_calls sees limit below aheadThere
      have enough := usable.issue.enough sees (shallow.leads toCall.leads)
      rcases usable.registration_traces sees aheadThere enough with
        ⟨after, _, _, _, traces, registered⟩
      have issued := prepared.issue
      exact ⟨after, frame.moved 4 [], traces.leads, ahead.moved 4,
        issued.trans (issued.prepared.aside listed registered)⟩

/-- A wrapper that has nothing left to call but the dispatcher comes to its end. -/
theorem Prepared.wrapper_leads (prepared : weave.Prepared store) {load unload : Option RoutineId}
    (ahead : frame.Ahead firstModule (registration arity weave.dispatcher.registerLoad load ++
      registration arity weave.dispatcher.registerUnload unload ++ [.ret]))
    (shallow : Shallow limit thread store (.body frame :: below)) :
    ∃ after next, Leads limit thread store (.body frame :: below) after (.body next :: below) ∧
      attempt limit thread after (.body next :: below) = complete after none below ∧
      weave.Aside store after := by
  rw [List.append_assoc] at ahead
  have loads : weave.loadSite ∈ weave.sites := by simp [sites]
  have unloads : weave.unloadSite ∈ weave.sites := by simp [sites]
  rcases prepared.registration_leads loads ahead shallow with
    ⟨middle, later, toLater, aheadLater, aside⟩
  rcases aside.prepared.registration_leads unloads aheadLater (shallow.leads toLater) with
    ⟨after, last, toLast, aheadLast, lastAside⟩
  refine ⟨after, last, toLater.trans toLast, ?_, aside.trans lastAside⟩
  have current : last.instruction? = some .ret := aheadLast.instruction?
  have result : resultOf last = .ok none := by
    simp [resultOf, aheadLast.silent]
  simp only [attempt, current, stepBody, result]

end Weave

end Rekindle.Machine
