import Rekindle.Machine.Host
import Rekindle.Proofs.Machine.Changing
import Rekindle.Proofs.Machine.Confined
import Rekindle.Proofs.Machine.Tracing

/-!
# Requests

What a host asks of a machine, one thing after the other. A request that is accepted comes to a run
of the host's thread. While the host hands over only what is in a scope, the machine stays in it.
-/

namespace Rekindle.Machine

open Fallible

/-- What a host asks of a machine. -/
inductive Request where
  | load (module : Module)
  | collectGarbage
  | invoke (handle : ModuleHandle) (routine : RoutineId) (arguments : List ValueType)
    (parameters : List Value)
  | read (handle : ModuleHandle) (field : FieldId) (arguments : List ValueType)
  | write (handle : ModuleHandle) (field : FieldId) (arguments : List ValueType) (value : Value)

namespace Request

/-- What is put on the host's thread for a request. -/
def begins (request : Request) (store : Store) : List Activation :=
  match request with
  | .load _ | .collectGarbage => []
  | .invoke handle routine arguments parameters =>
    match store.hostTarget handle routine arguments with
    | .ok target => [.call target parameters]
    | .error _ => []
  | .read handle field arguments | .write handle field arguments _ =>
    match store.hostAddress handle field arguments with
    | .ok place => [.access place.instantiation]
    | .error _ => []

/-- What a request makes of a store, if a number of steps suffices for it. -/
def perform (request : Request) (limits : Limits) (steps : Nat) (store : Store) : Option Store :=
  match request with
  | .load module =>
    match store.load module with
    | .ok (after, _) => some after
    | .error _ => some store
  | .collectGarbage => some store.collectGarbage
  | .invoke handle routine arguments parameters =>
    (store.invoke limits steps handle routine arguments parameters).map (·.1)
  | .read handle field arguments =>
    (store.readField limits steps handle field arguments).map (·.1)
  | .write handle field arguments value =>
    (store.writeField limits steps handle field arguments value).map (·.1)

/-- A request that hands over nothing that leads outside a scope. -/
def Within (scope : Scope) : Request → Prop
  | .load _ | .collectGarbage | .read _ _ _ => True
  | .invoke _ _ _ parameters => ∀ value ∈ parameters, value.Within scope
  | .write _ _ _ value => value.Within scope

end Request

/-- Requests that are performed one after the other, each with as many steps as it takes, what the
store comes to and what is seen meanwhile. -/
inductive Attends {Event : Type} (limits : Limits) (see : List Activation → List Event) :
    Store → List Request → Store → List Event → Prop where
  | done {store : Store} : Attends limits see store [] store []
  | next (steps : Nat) {store middle after : Store} {request : Request} {requests : List Request}
      {events : List Event} (performs : request.perform limits steps store = some middle)
      (others : Attends limits see middle requests after events) :
      Attends limits see store (request :: requests) after
        (seen see limits.callDepth hostThread steps store (request.begins store) ++ events)

/-! ### What a host is allowed -/

namespace Store

variable {store : Store} {module : Module} {handle : ModuleHandle} {arguments : List ValueType}

theorem module_ok (found : store.module handle = .ok module) :
    store.modules[handle.position]? = some module := by
  unfold Store.module at found
  split at found
  · cases found
    assumption
  · cases found

/-- A host may name a type under as many arguments as it has parameters, all of them closed. -/
theorem checkArguments_ok {type : TypeId} {member : String}
    (allowed : checkArguments module type arguments member = .ok ()) :
    ∃ declared, module.type? type = some declared ∧ declared.arity = arguments.length ∧
      ∀ argument ∈ arguments, argument.isClosed = true := by
  unfold checkArguments at allowed
  split at allowed
  · cases allowed
  · rename_i declared found
    split at allowed
    · cases allowed
    · rename_i arity_eq
      split at allowed
      · cases allowed
      · rename_i noneOpen
        refine ⟨declared, found, not_not.mp arity_eq, fun argument listed => ?_⟩
        simpa using List.find?_eq_none.mp noneOpen argument listed

theorem hostTarget_ok {routine : RoutineId} {target : BoundRoutine}
    (allowed : store.hostTarget handle routine arguments = .ok target) :
    target = ⟨handle, routine, arguments⟩ ∧ ∃ module declared type,
      store.modules[handle.position]? = some module ∧ module.routine? routine = some declared ∧
        module.type? declared.owner = some type ∧ type.arity = arguments.length ∧
          ∀ argument ∈ arguments, argument.isClosed = true := by
  unfold hostTarget at allowed
  rcases bind_eq_ok_iff.mp allowed with ⟨module, loaded, allowed⟩
  split at allowed
  · cases allowed
  · rename_i declared found
    rcases bind_eq_ok_iff.mp allowed with ⟨⟨⟩, checked, rest⟩
    cases rest
    rcases checkArguments_ok checked with ⟨type, typeDeclared, fitting⟩
    exact ⟨rfl, module, declared, type, module_ok loaded, found, typeDeclared, fitting⟩

theorem hostAddress_ok {field : FieldId} {place : Address}
    (allowed : store.hostAddress handle field arguments = .ok place) :
    ∃ module declared type, store.modules[handle.position]? = some module ∧
      module.field? field = some declared ∧ module.type? declared.owner = some type ∧
        type.arity = arguments.length ∧ (∀ argument ∈ arguments, argument.isClosed = true) ∧
          place.instantiation = ⟨handle, declared.owner, arguments⟩ := by
  unfold hostAddress at allowed
  rcases bind_eq_ok_iff.mp allowed with ⟨module, loaded, allowed⟩
  split at allowed
  · cases allowed
  · rename_i declared found
    split at allowed
    · cases allowed
    · rcases bind_eq_ok_iff.mp allowed with ⟨⟨⟩, checked, allowed⟩
      rcases bind_eq_ok_iff.mp allowed with ⟨slot, _, rest⟩
      cases rest
      rcases checkArguments_ok checked with ⟨type, typeDeclared, arity_eq, closed⟩
      exact ⟨module, declared, type, module_ok loaded, found, typeDeclared, arity_eq, closed, rfl⟩

end Store

/-! ### What becomes of a request -/

variable {limits : Limits} {steps : Nat} {store after : Store} {request : Request}
  {requests : List Request} {activation : Activation}

/-- What the host's thread begins with for a request. -/
inductive Request.Begins (store : Store) : Request → Activation → Prop where
  | call {handle : ModuleHandle} {routine : RoutineId} {arguments : List ValueType}
      {target : BoundRoutine} (allowed : store.hostTarget handle routine arguments = .ok target)
      (parameters : List Value) :
      Begins store (.invoke handle routine arguments parameters) (.call target parameters)
  | reading {handle : ModuleHandle} {field : FieldId} {arguments : List ValueType}
      {place : Address} (allowed : store.hostAddress handle field arguments = .ok place) :
      Begins store (.read handle field arguments) (.access place.instantiation)
  | writing {handle : ModuleHandle} {field : FieldId} {arguments : List ValueType}
      {place : Address} (allowed : store.hostAddress handle field arguments = .ok place)
      (value : Value) :
      Begins store (.write handle field arguments value) (.access place.instantiation)

/-- What becomes of a request that is performed. -/
inductive Request.Performed (limits : Limits) (steps : Nat) (store : Store) :
    Request → Store → Prop where
  | refused {request : Request} (idle : request.begins store = []) :
      Performed limits steps store request store
  | loaded {module : Module} {after : Store} {handle : ModuleHandle}
      (loads : store.load module = .ok (after, handle)) :
      Performed limits steps store (.load module) after
  | collected : Performed limits steps store .collectGarbage store.collectGarbage
  | ran {request : Request} {activation : Activation} {after : Store}
      {result : Except Trap (Option Value)} (begins : request.Begins store activation)
      (runs : run limits.callDepth hostThread steps store [activation] = some (after, result)) :
      Performed limits steps store request after
  | wrote {handle : ModuleHandle} {field : FieldId} {arguments : List ValueType} {place : Address}
      {ready : Store} {result : Except Trap (Option Value)}
      (allowed : store.hostAddress handle field arguments = .ok place) (value : Value)
      (runs : run limits.callDepth hostThread steps store [.access place.instantiation] =
        some (ready, result)) :
      Performed limits steps store (.write handle field arguments value)
        (ready.setSlot place value)

theorem Request.Begins.begins_eq (begins : request.Begins store activation) :
    request.begins store = [activation] := by
  cases begins with
  | call allowed | reading allowed | writing allowed => simp only [Request.begins, allowed]

theorem Request.begins_of_mem (listed : activation ∈ request.begins store) :
    request.Begins store activation := by
  cases request with
  | load | collectGarbage => cases listed
  | invoke handle routine arguments parameters =>
      simp only [begins] at listed
      split at listed
      · rename_i allowed
        cases List.mem_singleton.mp listed
        exact .call allowed parameters
      · cases listed
  | read handle field arguments =>
      simp only [begins] at listed
      split at listed
      · rename_i allowed
        cases List.mem_singleton.mp listed
        exact .reading allowed
      · cases listed
  | write handle field arguments value =>
      simp only [begins] at listed
      split at listed
      · rename_i allowed
        cases List.mem_singleton.mp listed
        exact .writing allowed value
      · cases listed

theorem useField_performed {α : Type} {handle : ModuleHandle} {field : FieldId}
    {arguments : List ValueType} {use : Store → Address → Except Trap (Store × α)}
    {result : Except Trap α}
    (uses : store.useField limits steps handle field arguments use = some (after, result)) :
    (∃ trap, store.hostAddress handle field arguments = .error trap ∧ after = store) ∨
      ∃ place ready outcome, store.hostAddress handle field arguments = .ok place ∧
        run limits.callDepth hostThread steps store [.access place.instantiation] =
          some (ready, outcome) ∧
        (after = ready ∨ ∃ value, use ready place = .ok (after, value)) := by
  unfold Store.useField at uses
  rcases allowed : store.hostAddress handle field arguments with trap | place
  · rw [allowed] at uses
    cases uses
    exact .inl ⟨trap, rfl, rfl⟩
  · simp only [allowed] at uses
    rcases runs : run limits.callDepth hostThread steps store [.access place.instantiation] with
      _ | ⟨ready, trap | value⟩
    · rw [runs] at uses
      cases uses
    · rw [runs] at uses
      cases uses
      exact .inr ⟨place, after, _, rfl, runs, .inl rfl⟩
    · simp only [runs] at uses
      rcases used : use ready place with trap | ⟨last, given⟩
      · simp only [used] at uses
        cases uses
        exact .inr ⟨place, after, _, rfl, runs, .inl rfl⟩
      · simp only [used] at uses
        cases uses
        exact .inr ⟨place, ready, _, rfl, runs, .inr ⟨given, used⟩⟩

theorem Request.performed (performs : request.perform limits steps store = some after) :
    request.Performed limits steps store after := by
  cases request with
  | load module =>
      simp only [perform] at performs
      split at performs
      · rename_i loads
        cases performs
        exact .loaded loads
      · cases performs
        exact .refused rfl
  | collectGarbage =>
      cases performs
      exact .collected
  | invoke handle routine arguments parameters =>
      rcases Option.map_eq_some_iff.mp performs with ⟨⟨after, result⟩, invokes, rfl⟩
      unfold Store.invoke at invokes
      rcases allowed : store.hostTarget handle routine arguments with trap | target
      · rw [allowed] at invokes
        cases invokes
        exact .refused (by simp only [begins, allowed])
      · rw [allowed] at invokes
        exact .ran (.call allowed parameters) invokes
  | read handle field arguments =>
      rcases Option.map_eq_some_iff.mp performs with ⟨⟨after, result⟩, reads, rfl⟩
      rcases useField_performed reads with ⟨trap, refused, rfl⟩ |
        ⟨place, ready, outcome, allowed, runs, rfl | ⟨value, used⟩⟩
      · exact .refused (by simp only [begins, refused])
      · exact .ran (.reading allowed) runs
      · split at used <;> cases used
        exact .ran (.reading allowed) runs
  | write handle field arguments value =>
      rcases Option.map_eq_some_iff.mp performs with ⟨⟨after, result⟩, writes, rfl⟩
      rcases useField_performed writes with ⟨trap, refused, rfl⟩ |
        ⟨place, ready, outcome, allowed, runs, rfl | ⟨_, used⟩⟩
      · exact .refused (by simp only [begins, refused])
      · exact .ran (.writing allowed value) runs
      · split at used <;> cases used
        exact .wrote allowed value runs

/-! ### What requests keep -/

theorem Request.Performed.occurs (performed : request.Performed limits steps store after)
    (occurs : store.Occurs) : after.Occurs := by
  cases performed with
  | refused => exact occurs
  | loaded loads => exact occurs.loaded loads
  | collected => exact occurs.collected
  | ran _ runs => exact occurs.run runs
  | wrote _ value runs => exact (occurs.run runs).wrote _ value

/-- A request loads a module, or leaves the loaded modules as they are. -/
theorem Request.Performed.modules_eq_or_loads
    (performed : request.Performed limits steps store after) :
    after.modules = store.modules ∨ ∃ module handle, store.load module = .ok (after, handle) := by
  cases performed with
  | refused | collected => exact .inl rfl
  | loaded loads => exact .inr ⟨_, _, loads⟩
  | ran _ runs => exact .inl (run_changes runs).modules_eq
  | wrote _ _ runs => exact .inl (run_changes runs).modules_eq

theorem Request.Performed.size_le (performed : request.Performed limits steps store after) :
    store.modules.size ≤ after.modules.size := by
  rcases performed.modules_eq_or_loads with same | ⟨module, handle, loads⟩
  · exact Nat.le_of_eq (by rw [same])
  · rw [(Store.load_ok loads).2.1]
    simp

variable {scope : Scope}

theorem Request.Begins.confined (begins : request.Begins store activation)
    (known : request.Within scope) (count : Nat) : activation.Confined scope count := by
  cases begins with
  | call => exact known
  | reading | writing => trivial

theorem Request.Performed.within (performed : request.Performed limits steps store after)
    (covers : scope.Covers store.modules.size) (known : request.Within scope)
    (within : store.Within scope) : after.Within scope := by
  have confined : store.Confined scope store.modules.size := ⟨rfl, within⟩
  cases performed with
  | refused | collected => exact within
  | loaded loads =>
      rw [(Store.load_ok loads).2.1]
      exact within
  | ran begins runs =>
      have all := List.forall_mem_singleton.mpr (begins.confined known store.modules.size)
      exact (run_confined covers confined all runs).within
  | @wrote handle field arguments place ready result allowed value runs =>
      have waits : (Activation.access place.instantiation).Confined scope store.modules.size :=
        trivial
      have all := List.forall_mem_singleton.mpr waits
      exact (run_confined covers confined all runs).within.setSlot place known

section Attends

variable {Event : Type} {see : List Activation → List Event} {events : List Event}
  (attends : Attends limits see store requests after events)
include attends

theorem Attends.occurs (occurs : store.Occurs) : after.Occurs := by
  induction attends with
  | done => exact occurs
  | next steps performs _ ih => exact ih ((Request.performed performs).occurs occurs)

theorem Attends.size_le : store.modules.size ≤ after.modules.size := by
  induction attends with
  | done => exact Nat.le_refl _
  | next steps performs _ ih => exact Nat.le_trans (Request.performed performs).size_le ih

/-- A host that hands over only what is in a scope leads to nothing outside of it, if everything of
the modules that are loaded in the end is in it. -/
theorem Attends.within (covers : scope.Covers after.modules.size)
    (known : ∀ request ∈ requests, request.Within scope) (within : store.Within scope) :
    after.Within scope := by
  induction attends with
  | done => exact within
  | next steps performs others ih =>
      rcases List.forall_mem_cons.mp known with ⟨first, rest⟩
      have performed := Request.performed performs
      have early := covers.mono (Nat.le_trans performed.size_le others.size_le)
      exact ih covers rest (performed.within early first within)

end Attends

end Rekindle.Machine
