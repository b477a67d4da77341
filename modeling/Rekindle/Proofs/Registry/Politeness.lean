import Rekindle.Proofs.Machine.Requests
import Rekindle.Proofs.Registry.Running

/-!
# Polite hosts

A host that leaves it to the machine to initialize types, and to the hooked types to register with
the dispatcher. Then the ledger of everything that was registered meanwhile is right.
-/

namespace Rekindle.Machine

open Fallible Reload Validity

/-- A value that leads to no routine, and to no place of an instantiation. -/
def Value.Spares (instantiation : Instantiation) : Value → Prop
  | .pointer _ | .callback _ => False
  | .address place => place.instantiation ≠ instantiation
  | .null | .bool _ | .int32 _ | .int64 _ | .float64 _ | .string _ => True

/-- A request that names no initializer of a module and none of the routines that add to its
dispatcher, does not write to the dispatcher, and hands over nothing that leads to a routine or to
the dispatcher. -/
def Request.IsPolite (handle : ModuleHandle) (module : Module) (dispatcher : Dispatcher) :
    Request → Prop
  | .load _ | .collectGarbage | .read _ _ _ => True
  | .invoke other routine _ parameters =>
    (∀ value ∈ parameters, value.Spares ⟨handle, dispatcher.type, []⟩) ∧ (other = handle →
      (∀ declared, module.routine? routine = some declared → declared.isInitializer = false) ∧
        ∀ occasion, routine ≠ dispatcher.registrar occasion)
  | .write other field _ value =>
    value.Spares ⟨handle, dispatcher.type, []⟩ ∧ (other = handle →
      ∀ declared, module.field? field = some declared → declared.owner ≠ dispatcher.type)

namespace Registry

variable {registry : Registry} {ledger : List Entry} {store after : Store} {limits : Limits}
  {steps : Nat} {request : Request} {requests : List Request} {activation : Activation}

theorem within_of_spares {value : Value} (spares : value.Spares registry.dispatching) :
    value.Within registry.scope := by
  cases value with
  | pointer | callback => cases spares
  | address place => exact spares
  | _ => trivial

theorem within_of_polite
    (polite : request.IsPolite registry.handle registry.module registry.dispatcher) :
    request.Within registry.scope := by
  cases request with
  | load | collectGarbage | read => trivial
  | invoke => exact fun value listed => within_of_spares (polite.1 value listed)
  | write => exact within_of_spares polite.1

/-! ### One request -/

/-- What a host begins with politely may be on the stack while a ledger is right. -/
theorem Keeps.begins_stacked (keeps : registry.Keeps ledger store)
    (polite : request.IsPolite registry.handle registry.module registry.dispatcher)
    (begins : request.Begins store activation) :
    registry.Stacked [activation] ∧ initializing [activation] = [] := by
  have within := within_of_polite polite
  cases begins with
  | call allowed parameters =>
      rcases Store.hostTarget_ok allowed with
        ⟨rfl, module, declared, type, loaded, found, typeDeclared, arity_eq, _⟩
      refine ⟨.call ?_ within .nil, rfl⟩
      intro here
      obtain rfl := keeps.module_eq loaded here
      rcases polite.2 here with ⟨plain, registers⟩
      refine ⟨⟨⟨declared, found, plain declared found⟩, registers⟩, ?_⟩
      intro other otherFound
      rw [found] at otherFound
      cases otherFound
      exact ⟨type, typeDeclared, arity_eq⟩
  | reading allowed | writing allowed =>
      rcases Store.hostAddress_ok allowed with
        ⟨module, declared, type, loaded, found, typeDeclared, arity_eq, _, instantiation_eq⟩
      refine ⟨.access ?_ .nil, rfl⟩
      rw [instantiation_eq]
      intro here
      obtain rfl := keeps.module_eq loaded here
      exact ⟨type, typeDeclared, arity_eq⟩

/-- Nothing is registered when nothing runs. -/
theorem Sound.rests (sound : registry.Sound ledger after) (idle : request.begins store = [])
    (limit steps : Nat) :
    registry.Sound (ledger ++ seen registry.completes limit hostThread steps store
      (request.begins store)) after := by
  rwa [idle, seen_nil rfl, List.append_nil]

/-- What a host begins with politely extends a ledger by what is registered meanwhile. -/
theorem Sound.runs {result : Except Trap (Option Value)} (sound : registry.Sound ledger store)
    (polite : request.IsPolite registry.handle registry.module registry.dispatcher)
    (begins : request.Begins store activation)
    (runs : run limits.callDepth hostThread steps store [activation] = some (after, result)) :
    registry.Sound (ledger ++ seen registry.completes limits.callDepth hostThread steps store
      (request.begins store)) after := by
  rcases sound.keeps.begins_stacked polite begins with ⟨stacked, idle⟩
  rw [begins.begins_eq]
  refine State.run_sound (.calm sound ⟨?_, ?_⟩ stacked) runs
  · rw [idle]
    exact List.nodup_nil
  · rw [idle]
    exact List.forall_mem_nil _

theorem Sound.performed (sound : registry.Sound ledger store)
    (polite : request.IsPolite registry.handle registry.module registry.dispatcher)
    (performed : request.Performed limits steps store after) :
    registry.Sound (ledger ++ seen registry.completes limits.callDepth hostThread steps store
      (request.begins store)) after := by
  cases performed with
  | refused idle => exact sound.rests idle _ _
  | @loaded module after handle loads =>
      rcases Store.load_ok loads with ⟨_, rfl, _⟩
      exact (sound.load module).rests rfl _ _
  | collected =>
      have collected : registry.Sound ledger store.collectGarbage :=
        sound.persists (sound.keeps.of_same sound.keeps.loaded rfl)
          ⟨fun _ => .rfl, fun _ running => running⟩ sound.within
      exact collected.rests rfl _ _
  | ran begins runs => exact sound.runs polite begins runs
  | wrote allowed value runs =>
      have ran := sound.runs polite (.writing allowed value) runs
      refine ran.setSlot ?_ (within_of_spares polite.1)
      intro isDispatcher
      rcases Store.hostAddress_ok allowed with
        ⟨module, declared, _, loaded, found, _, _, _, instantiation_eq⟩
      rw [isDispatcher] at instantiation_eq
      have here := congrArg (·.module) instantiation_eq.symm
      obtain rfl := sound.keeps.module_eq loaded here
      exact polite.2 here declared found (congrArg (·.type) instantiation_eq).symm

/-! ### Many requests -/

theorem Sound.attends {entries : List Entry} (sound : registry.Sound ledger store)
    (polite : ∀ request ∈ requests,
      request.IsPolite registry.handle registry.module registry.dispatcher)
    (attends : Attends limits registry.completes store requests after entries) :
    registry.Sound (ledger ++ entries) after := by
  induction attends generalizing ledger with
  | done =>
      rw [List.append_nil]
      exact sound
  | next steps performs _ ih =>
      rcases List.forall_mem_cons.mp polite with ⟨first, others⟩
      rw [← List.append_assoc]
      exact ih (sound.performed first (Request.performed performs)) others

/-! ### Loading the module -/

/-- Before the module is loaded, nothing leads to it. -/
theorem scope_covers (registry : Registry) : registry.scope.Covers registry.handle.position := by
  refine ⟨?_, ?_⟩
  · intro target inside here
    rw [here] at inside
    exact absurd inside (Nat.lt_irrefl _)
  · intro place inside isDispatcher
    rw [isDispatcher] at inside
    exact absurd inside (Nat.lt_irrefl _)

/-- When the module has just been loaded, nothing is registered and nothing initialized. -/
theorem sound_of_loads {before : Store} (occurs : before.Occurs)
    (within : before.Within registry.scope)
    (loads : before.load registry.module = .ok (store, registry.handle)) :
    registry.Sound [] store := by
  rcases Store.load_ok loads with ⟨_, rfl, handle_eq⟩
  have missing (instantiation : Instantiation) (here : instantiation.module = registry.handle) :
      before.storage? instantiation = none := by
    refine occurs.storage?_of_unloaded (Nat.le_of_eq ?_)
    rw [here, handle_eq]
  refine ⟨⟨?_, ?_, fun _ => rfl⟩, ⟨fun _ => List.nodup_nil, ?_⟩, within⟩
  · rw [handle_eq]
    exact Array.getElem?_push_size
  · intro storage found
    cases (missing registry.dispatching rfl).symm.trans found
  · intro occasion target
    have uninitialized (hook : Hook) : ({ before with
        modules := before.modules.push registry.module } : Store).status?
          ⟨registry.handle, hook.type, target.arguments⟩ = none :=
      Option.map_eq_none_iff.mpr (missing _ rfl)
    simp [onOccasion, uninitialized]

end Registry

end Rekindle.Machine
