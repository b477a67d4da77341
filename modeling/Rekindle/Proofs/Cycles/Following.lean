import Rekindle.Proofs.Cycles.Sweeping

/-!
# Following a dispatcher

A ledger follows a dispatcher through everything that a host asks for: before its module is loaded
nothing is registered, when it has just been loaded nothing is listed, and afterwards each request
adds to the ledger what it registers. The host may ask for anything, if it does not write to the
fields of the dispatcher.
-/

namespace Rekindle.Machine

open Fallible Reload

/-- A request that does not write to a dispatcher, and hands over no place in it. -/
def Request.Spares (placed : Placed) : Request → Prop
  | .load _ | .collectGarbage | .read _ _ _ => True
  | .invoke _ _ _ parameters => ∀ value ∈ parameters, value.Within placed.scope
  | .write other field _ value => value.Within placed.scope ∧ (other = placed.handle →
      ∀ declared, placed.module.field? field = some declared →
        declared.owner ≠ placed.dispatcher.type)

/-- A ledger and a store of which the dispatcher lists what the ledger does, if it is there. -/
inductive Desk.Follows (desk : Desk) : List Entry → Store → Prop where
  | absent {store : Store} (unloaded : store.modules.size ≤ desk.handle.position)
      (within : store.Within desk.scope) : Follows desk [] store
  | present {ledger : List Entry} {store : Store} (keeps : desk.Keeps ledger store) :
      Follows desk ledger store

variable {desk : Desk} {ledger : List Entry} {store after : Store} {limits : Limits}
  {steps limit : Nat} {thread : ThreadId} {request : Request} {activation : Activation}
  {activations : List Activation} {scope : Scope} {count : Nat}

theorem Request.Spares.within {placed : Placed} (spares : request.Spares placed) :
    request.Within placed.scope := by
  cases request with
  | load | collectGarbage | read => trivial
  | invoke => exact spares
  | write => exact spares.1

/-! ### Before the module is loaded -/

/-- Nothing is executed of a module that is not loaded. -/
theorem seen_of_unloaded {handle : ModuleHandle} (dispatcher : Dispatcher)
    (unloaded : count ≤ handle.position) (covers : scope.Covers count)
    (confined : store.Confined scope count)
    (all : ∀ activation ∈ activations, activation.Confined scope count) (steps : Nat) :
    seen (completed handle dispatcher) limit thread steps store activations = [] := by
  induction steps generalizing store activations with
  | zero => rfl
  | succ steps ih =>
      have silent : completed handle dispatcher activations = [] := by
        rcases activations with _ | ⟨activation, below⟩
        · rfl
        · cases activation with
          | body frame =>
              have placed := (List.forall_mem_cons.mp all).1.1
              refine completed_of_apart below fun here => ?_
              rw [here] at placed
              omega
          | _ => rfl
      have stepped : (step limit thread store activations).Confined scope count :=
        step_confined covers confined all
      rw [seen, silent, List.nil_append]
      rcases progress : step limit thread store activations with
        ⟨middle, next⟩ | ⟨middle, next⟩ | ⟨last, ended⟩
      · rw [progress] at stepped
        exact ih stepped.1 stepped.2
      · rfl
      · rfl

namespace Placed

/-- Before a module is loaded, nothing leads to it. -/
theorem scope_covers (placed : Placed) : placed.scope.Covers placed.handle.position := by
  refine ⟨fun _ _ => trivial, fun place inside isDispatcher => ?_⟩
  rw [isDispatcher] at inside
  exact absurd inside (Nat.lt_irrefl _)

end Placed

/-! ### One request -/

namespace Desk

/-- What a host begins with leaves alone what the dispatcher lists. -/
theorem Keeps.begins_calm (keeps : desk.Keeps ledger store) (spares : request.Spares desk.toPlaced)
    (begins : request.Begins store activation) : desk.Calm activation := by
  cases begins with
  | @call handle routine arguments target allowed parameters =>
      rcases Store.hostTarget_ok allowed with
        ⟨rfl, module, declared, type, loaded, found, typeDeclared, arity_eq, _⟩
      refine ⟨spares, ?_⟩
      rintro here ⟨occasion, isRegistrar⟩
      obtain rfl := keeps.module_eq loaded here
      rcases (desk.tended.registers occasion).routine_declared with ⟨_, _, isDeclared⟩
      rw [show routine = desk.dispatcher.registrar occasion from isRegistrar, isDeclared] at found
      cases found
      rw [desk.tended.plain type typeDeclared] at arity_eq
      exact .inr (List.eq_nil_of_length_eq_zero arity_eq.symm)
  | reading | writing => trivial

theorem Keeps.performed (keeps : desk.Keeps ledger store) (spares : request.Spares desk.toPlaced)
    (performed : request.Performed limits steps store after) :
    desk.Keeps (ledger ++ seen desk.completes limits.callDepth hostThread steps store
      (request.begins store)) after := by
  have rests (keepsAfter : desk.Keeps ledger after) (idle : request.begins store = []) :
      desk.Keeps (ledger ++ seen desk.completes limits.callDepth hostThread steps store
        (request.begins store)) after := by
    rwa [idle, seen_nil rfl, List.append_nil]
  have runs {activation : Activation} {ready : Store} {result : Except Trap (Option Value)}
      (begins : request.Begins store activation)
      (runs : run limits.callDepth hostThread steps store [activation] = some (ready, result)) :
      desk.Keeps (ledger ++ seen desk.completes limits.callDepth hostThread steps store
        (request.begins store)) ready := by
    have calm := keeps.begins_calm spares begins
    rw [begins.begins_eq]
    exact (State.calm keeps (List.forall_mem_singleton.mpr calm)).run_keeps runs
  cases performed with
  | refused idle => exact rests keeps idle
  | @loaded module after handle loads =>
      rcases Store.load_ok loads with ⟨_, rfl, _⟩
      exact rests (keeps.load module) rfl
  | collected => exact rests keeps.collectGarbage rfl
  | ran begins ran => exact runs begins ran
  | wrote allowed value ran =>
      refine (runs (.writing allowed value) ran).setSlot ?_ spares.1
      intro isDispatcher
      rcases Store.hostAddress_ok allowed with
        ⟨module, declared, _, loaded, found, _, _, _, instantiation_eq⟩
      rw [isDispatcher] at instantiation_eq
      have here := congrArg (·.module) instantiation_eq.symm
      obtain rfl := keeps.module_eq loaded here
      exact spares.2 here declared found (congrArg (·.type) instantiation_eq).symm

/-- When its module has just been loaded, a dispatcher lists nothing. -/
theorem keeps_of_loads {module : Module} {handle : ModuleHandle} (occurs : store.Occurs)
    (within : store.Within desk.scope) (here : store.modules.size = desk.handle.position)
    (loads : store.load module = .ok (after, handle))
    (loaded : after.modules[desk.handle.position]? = some desk.module) : desk.Keeps [] after := by
  rcases Store.load_ok loads with ⟨_, rfl, _⟩
  have missing : store.storage? desk.dispatching = none :=
    occurs.storage?_of_unloaded (Nat.le_of_eq here)
  refine ⟨fun occasion => ⟨loaded, ?_, fun _ => rfl⟩, within⟩
  intro storage found
  cases missing.symm.trans found

namespace Follows

theorem keeps (follows : desk.Follows ledger store)
    (loaded : store.modules[desk.handle.position]? = some desk.module) :
    desk.Keeps ledger store := by
  cases follows with
  | absent unloaded =>
      have inside := (Array.getElem?_eq_some_iff.mp loaded).1
      omega
  | present keeps => exact keeps

/-- A request adds to the ledger what it registers. -/
theorem performed (follows : desk.Follows ledger store) (occurs : store.Occurs)
    (spares : request.Spares desk.toPlaced)
    (arrives : ∀ module, after.modules[desk.handle.position]? = some module →
      module = desk.module)
    (performed : request.Performed limits steps store after) :
    desk.Follows (ledger ++ seen desk.completes limits.callDepth hostThread steps store
      (request.begins store)) after := by
  cases follows with
  | present keeps => exact .present (keeps.performed spares performed)
  | absent unloaded within =>
      have covers := desk.scope_covers.mono unloaded
      have silent : seen desk.completes limits.callDepth hostThread steps store
          (request.begins store) = [] :=
        seen_of_unloaded desk.dispatcher unloaded covers ⟨rfl, within⟩
          (fun _ listed => (Request.begins_of_mem listed).confined spares.within _) steps
      rw [silent]
      by_cases further : after.modules.size ≤ desk.handle.position
      · exact .absent further (performed.within covers spares.within within)
      · rcases performed.modules_eq_or_loads with same | ⟨module, handle, loads⟩
        · exact absurd (same ▸ unloaded) further
        · have grown := congrArg (·.modules) (Store.load_ok loads).2.1
          simp only at grown
          have here : store.modules.size = desk.handle.position := by
            rw [grown, Array.size_push] at further
            omega
          have loaded : after.modules[desk.handle.position]? = some module := by
            rw [grown, ← here, Array.getElem?_push_size]
          rw [arrives module loaded] at loaded
          exact .present (keeps_of_loads occurs within here loads loaded)

end Follows

end Desk

end Rekindle.Machine
