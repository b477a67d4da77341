import Rekindle.Proofs.Machine.Ahead
import Rekindle.Proofs.Registration.Calling

/-!
# Registrations

A registration is a piece of a straight line: it makes a callback of a routine and calls a routine
of the dispatcher with it. It leads past its instructions, unless the dispatcher is called too deep.
-/

namespace Rekindle.Machine

open Fallible Reload

variable {Event : Type} {see : List Activation → List Event} {site : Site} {limit : Nat}
  {thread : ThreadId} {store after : Store} {frame : Frame} {below : List Activation}
  {handle : ModuleHandle} {code rest : List Instruction} {arity : Nat} {id registrar : RoutineId}

/-- The callback that a registration makes of a routine. -/
def Frame.callback (frame : Frame) (arity : Nat) (id : RoutineId) (store : Store) : Value :=
  .callback { identity := store.nextCallback, targets := [frame.bound (ownRoutine arity id)] }

theorem Frame.Ahead.isReturning_moved (ahead : frame.Ahead handle code) (steps : Nat)
    (operands : List Value) :
    (frame.moved steps operands).isReturning = isReturn code[steps]? := by
  rw [Frame.isReturning, ahead.instruction?_moved]

theorem makes_callback (sees : SeesReturns see) (limit : Nat) (thread : ThreadId) (store : Store)
    (below : List Activation)
    (ahead : frame.Ahead handle (registration arity registrar (some id) ++ rest)) :
    Traces see limit thread store (.body frame :: below) []
      { store with nextCallback := store.nextCallback + 1 }
      (.body (frame.moved 3 [frame.callback arity id store]) :: below) := by
  have first : attempt limit thread store (.body frame :: below) =
      .running store (.body (frame.moved 1 [.null]) :: below) := by
    have current := ahead.instruction?_moved 0 []
    rw [← ahead.moved_zero]
    simp only [attempt, current]
    rfl
  have second : attempt limit thread store (.body (frame.moved 1 [.null]) :: below) =
      .running store (.body (frame.moved 2
        [.pointer (frame.bound (ownRoutine arity id)), .null]) :: below) := by
    simp only [attempt, ahead.instruction?_moved]
    rfl
  have third : attempt limit thread store (.body (frame.moved 2
      [.pointer (frame.bound (ownRoutine arity id)), .null]) :: below) =
      .running { store with nextCallback := store.nextCallback + 1 }
        (.body (frame.moved 3 [frame.callback arity id store]) :: below) := by
    simp only [attempt, ahead.instruction?_moved]
    rfl
  have starts : frame.isReturning = false := by
    rw [← ahead.moved_zero]
    exact ahead.isReturning_moved 0 []
  refine .quiet (sees.body _ _ starts) first (.quiet ?_ second (.of_quiet ?_ third))
  · exact sees.body _ _ (ahead.isReturning_moved 1 _)
  · exact sees.body _ _ (ahead.isReturning_moved 2 _)

namespace Site

theorem registrar_declared (site : Site) :
    ∃ declared, site.module.routine? site.routine = some declared ∧
      declared.parameters.length = 1 ∧ declared.returns = false := by
  rcases site.registers.routine_declared with ⟨markers, name, declared⟩
  exact ⟨_, declared, rfl, rfl⟩

theorem calls_registrar (loaded : store.modules[site.handle.position]? = some site.module)
    (limit : Nat) (thread : ThreadId) (below : List Activation)
    (ahead : frame.Ahead site.handle (registration arity site.routine (some id) ++ rest))
    (argument : Value) :
    attempt limit thread store (.body (frame.moved 3 [argument]) :: below) =
      .running store (.call site.target [argument] :: .body (frame.moved 3 []) :: below) := by
  rcases site.registrar_declared with ⟨declared, found, takesOne, _⟩
  have moduleFound : store.module (frame.moved 3 [argument]).module = .ok site.module := by
    have placed : (frame.moved 3 [argument]).module = site.handle := ahead.module_eq
    simp only [Store.module, placed, loaded]
  have current : (frame.moved 3 [argument]).instruction? =
      some (.call ⟨site.routine, .direct⟩) := ahead.instruction?_moved 3 [argument]
  have target_eq : (frame.moved 3 [argument]).bound ⟨site.routine, .direct⟩ = site.target := by
    simp only [Frame.bound, Frame.moved, ahead.module_eq, Site.target]
    rfl
  have prepares : prepareCall store (frame.moved 3 [argument]) ⟨site.routine, .direct⟩ =
      .ok ([argument], frame.moved 3 []) := by
    simp only [prepareCall, moduleFound, ok_bind, found, takesOne]
    rfl
  simp only [attempt, current, stepBody, prepares, target_eq]

theorem resumes_registrar (loaded : store.modules[site.handle.position]? = some site.module)
    (below : List Activation)
    (ahead : frame.Ahead site.handle (registration arity site.routine (some id) ++ rest)) :
    complete store none (.body (frame.moved 3 []) :: below) =
      .running store (.body (frame.moved 4 []) :: below) := by
  rcases site.registrar_declared with ⟨declared, found, _, silent⟩
  have placed : (frame.moved 3 []).module = site.handle := ahead.module_eq
  have current : (frame.moved 3 []).instruction? = some (.call ⟨site.routine, .direct⟩) :=
    ahead.instruction?_moved 3 []
  have resumes : (frame.moved 3 []).resume store none = .ok (frame.moved 4 []) := by
    simp only [Frame.resume, current, Frame.calleeReturns, placed, loaded, found, silent]
    rfl
  simp only [complete, resumes]

theorem Usable.issue (usable : site.Usable thread store) :
    site.Usable thread { store with nextCallback := store.nextCallback + 1 } :=
  ⟨usable.loaded, usable.active⟩

/-- A registration leads to the call of the routine of the dispatcher. -/
theorem Usable.registration_calls (usable : site.Usable thread store) (sees : SeesReturns see)
    (limit : Nat) (below : List Activation)
    (ahead : frame.Ahead site.handle (registration arity site.routine (some id) ++ rest)) :
    Traces see limit thread store (.body frame :: below) []
      { store with nextCallback := store.nextCallback + 1 }
      (.call site.target [frame.callback arity id store] :: .body (frame.moved 3 []) :: below) := by
  have toCallback := makes_callback sees limit thread store below ahead
  have calls := calls_registrar usable.issue.loaded limit thread below ahead
    (frame.callback arity id store)
  exact toCallback.trans (.of_quiet (sees.body _ _ (ahead.isReturning_moved 3 _)) calls)

/-- A registration leads past its instructions, and what is seen of it is the return of the routine
of the dispatcher. -/
theorem Usable.registration_traces (usable : site.Usable thread store) (sees : SeesReturns see)
    (ahead : frame.Ahead site.handle (registration arity site.routine (some id) ++ rest))
    (enough : ¬limit < depth (.body frame :: below) + 1) :
    ∃ after a b c, Traces see limit thread store (.body frame :: below)
        (see (.body (site.frame (frame.callback arity id store) 16 a b c []) ::
          .body (frame.moved 3 []) :: below)) after (.body (frame.moved 4 []) :: below) ∧
      site.Registered { store with nextCallback := store.nextCallback + 1 }
        (frame.callback arity id store) after := by
  have toCall := usable.registration_calls sees limit below ahead
  have combinable : (frame.callback arity id store).IsCombinable := trivial
  have enoughToo : ¬limit < depth (.body (frame.moved 3 []) :: below) + 1 := enough
  rcases usable.issue.registers sees combinable enoughToo with ⟨after, a, b, c, toEnd, registered⟩
  refine ⟨after, a, b, c, ?_, registered⟩
  have loaded : after.modules[site.handle.position]? = some site.module := by
    rw [registered.beside.modules_eq]
    exact usable.loaded
  have ends : attempt limit thread after
      (.body (site.frame (frame.callback arity id store) 16 a b c []) ::
        .body (frame.moved 3 []) :: below) =
      .running after (.body (frame.moved 4 []) :: below) :=
    resumes_registrar loaded below ahead
  exact toCall.trans (toEnd.trans (.of_running ends))

/-- A registration that is too deep is refused, with nothing registered. -/
theorem Usable.registration_refused (usable : site.Usable thread store) (sees : SeesReturns see)
    (ahead : frame.Ahead site.handle (registration arity site.routine (some id) ++ rest))
    (tooDeep : limit < depth (.body frame :: below) + 1) :
    ∃ ready after base waiting, Traces see limit thread store (.body frame :: below) [] ready waiting ∧
      see waiting = [] ∧
      attempt limit thread ready waiting =
        .raised after (.callDepthExceeded limit) (.body (frame.moved 3 []) :: below) ∧
      site.Beside store after ∧ site.Based store base ∧
      after.storage? site.slot.instantiation = some base := by
  have toCall := usable.registration_calls sees limit below ahead
  rcases usable.issue.holds sees limit (frame.callback arity id store)
    (.body (frame.moved 3 []) :: below) with
    ⟨ready, base, value, toReady, beside, based, holds, _⟩
  rcases holds.calls limit (frame.callback arity id store) (.body (frame.moved 3 []) :: below) with
    ⟨after, rests, attempted⟩
  have refused : Frame.enter limit (depth (.body (frame.moved 3 []) :: below) + 1) after site.target
      [frame.callback arity id store] = .error (.callDepthExceeded limit) := by
    rw [Frame.enter, if_pos]
    exact tooDeep
  have basedBefore : site.Based store base := by
    cases based with
    | present found => exact .present found
    | fresh missing declared => exact .fresh missing declared
  refine ⟨ready, after, base, _, toCall.trans toReady, sees.other _ _ rfl, ?_,
    (beside_issue site store).trans (beside.trans (beside_of_rests rests)), basedBefore,
    (rests.storages _).trans holds.present⟩
  rw [attempted, entering, refused]

end Site

end Rekindle.Machine
