import Rekindle.Proofs.Machine.Storage
import Rekindle.Proofs.Registration.Crowd
import Rekindle.Proofs.Reload.Members

/-!
# Registering a callback

The routine of the dispatcher that adds its argument to the callback in a field, followed through
its instructions. A phase says what the locals and operands of the routine hold at each of them:
which value was last seen in the slot, and from the combination on, that its targets are those of
that value followed by those of the argument. Each step of a thread in a phase leads to a phase
again, and is one of a few moves.
-/

namespace Rekindle.Machine

open Reload

/-- A routine of a module that adds its argument to the callback in a field, both declared as the
dispatcher declares them, on a type without an initializer. -/
structure Registers (module : Module) (owner : TypeId) (routine : RoutineId) (field : FieldId) :
    Prop where
  routine_declared : ∃ markers name, module.routine? routine =
    some { Dispatcher.registerDecl markers name { field, binding := .direct } with owner }
  field_declared : ∃ name, module.field? field = some { Dispatcher.slotDecl name with owner }
  field_listed : ∃ declared, module.type? owner = some declared ∧ field ∈ declared.fields
  not_initialized : module.initializer owner = .ok none

theorem registers_unload {markers : Markers} {module after : Module} {dispatcher : Dispatcher}
    (added : Dispatcher.Added markers module after dispatcher) :
    Registers after dispatcher.type dispatcher.registerUnload dispatcher.unloadActions where
  routine_declared := ⟨markers, Names.registerUnload, added.routine?_registerUnload⟩
  field_declared := ⟨Names.unloadActions, added.field?_unloadActions⟩
  field_listed := ⟨_, added.type?_type, by simp [Dispatcher.completeType]⟩
  not_initialized := added.initializer_type

theorem registers_load {markers : Markers} {module after : Module} {dispatcher : Dispatcher}
    (added : Dispatcher.Added markers module after dispatcher) :
    Registers after dispatcher.type dispatcher.registerLoad dispatcher.loadActions where
  routine_declared := ⟨markers, Names.registerLoad, added.routine?_registerLoad⟩
  field_declared := ⟨Names.loadActions, added.field?_loadActions⟩
  field_listed := ⟨_, added.type?_type, by simp [Dispatcher.completeType]⟩
  not_initialized := added.initializer_type

/-- A value that is null, or a callback whose identity was given out and stands for its targets. -/
def Value.Issued (objects : Nat → List BoundRoutine) (next : Nat) : Value → Prop
  | .null => True
  | .callback object => object.identity < next ∧ objects object.identity = object.targets
  | _ => False

namespace Value

variable {objects : Nat → List BoundRoutine} {next : Nat} {first second : Value}

theorem same_self_of_issued (issued : first.Issued objects next) : first.same first = true := by
  cases first <;> simp_all [Issued, same]

/-- Issued values that the machine cannot tell apart have the same targets. -/
theorem targets_eq_of_same (firstIssued : first.Issued objects next)
    (secondIssued : second.Issued objects next) (same : first.same second = true) :
    first.targets = second.targets := by
  cases first <;> cases second <;> simp_all [Issued, Value.same, targets]

/-- Issued values can be combined, and issuing one more object makes the combination issued. -/
theorem combine_issued (firstIssued : first.Issued objects next)
    (secondIssued : second.Issued objects next) :
    ∃ combined, combine next first second = some combined ∧
      combined.Issued (Function.update objects next (first.targets ++ second.targets))
        (next + 1) := by
  cases first <;> cases second <;> simp_all [Issued, combine, targets]
  · rw [Function.update_of_ne (by omega)]
    exact ⟨by omega, secondIssued.2⟩
  · rw [Function.update_of_ne (by omega)]
    exact ⟨by omega, firstIssued.2⟩

theorem Issued.update (issued : first.Issued objects next) (targets : List BoundRoutine) :
    first.Issued (Function.update objects next targets) (next + 1) := by
  cases first <;> simp_all [Issued]
  rw [Function.update_of_ne (by omega)]
  exact ⟨by omega, issued.2⟩

end Value

/-- The slot of the field that a registering routine adds to. -/
structure Site where
  module : Module
  handle : ModuleHandle
  owner : TypeId
  routine : RoutineId
  field : FieldId
  registers : Registers module owner routine field

namespace Site

variable (site : Site)

def target : BoundRoutine where
  module := site.handle
  routine := site.routine
  arguments := []

def reference : FieldRef where
  field := site.field
  binding := .direct

def slot : Address where
  instantiation := { module := site.handle, type := site.owner, arguments := [] }
  slot := match Store.slotOf site.module site.field with
    | .ok position => position
    | .error _ => 0

/-- An execution of the routine at one of its instructions. -/
def frame (argument : Value) (position : Nat) (current observed combined : Value)
    (operands : List Value) : Frame where
  module := site.handle
  routine := site.routine
  name := site.module.routineName site.routine
  body := Dispatcher.registerBody site.reference
  returns := false
  arguments := []
  parameters := #[argument]
  locals := #[current, observed, combined]
  operands := ⟨operands⟩
  position

/-- What holds of the store while callbacks are registered: the module is loaded, the slot is there
as soon as its storage is, and it holds an issued value. -/
structure Settled (objects : Nat → List BoundRoutine) (store : Store) : Prop where
  loaded : store.modules[site.handle.position]? = some site.module
  present : (store.storage? site.slot.instantiation).isSome → (store.slot? site.slot).isSome
  issued : (store.held site.slot).Issued objects store.nextCallback

/-- A later store: nothing that was issued is lost, the slot stays where it is, and no initializer
has failed since. -/
structure Later (objects : Nat → List BoundRoutine) (store : Store)
    (objectsAfter : Nat → List BoundRoutine) (after : Store) : Prop where
  settled : site.Settled objectsAfter after
  issued : ∀ value : Value, value.Issued objects store.nextCallback →
    value.Issued objectsAfter after.nextCallback
  present : (store.slot? site.slot).isSome → (after.slot? site.slot).isSome
  failed : after.HasFailed site.slot.instantiation → store.HasFailed site.slot.instantiation

/-- What a thread that registers an argument is about to do. `won` tells whether its exchange
succeeded, and `seen` is what it last saw in the slot. -/
inductive Phase (argument : Value) (objects : Nat → List BoundRoutine) (store : Store) :
    (won : Bool) → (seen : Option Value) → Activation → Prop where
  | calling : Phase argument objects store false none (.call site.target [argument])
  | reading {a b d} : Phase argument objects store false none
      (.body (site.frame argument 0 a b d []))
  | keeping {v a b d} (known : v.Issued objects store.nextCallback) :
      Phase argument objects store false (some v) (.body (site.frame argument 1 a b d [v]))
  | starting {v b d} (known : v.Issued objects store.nextCallback) :
      Phase argument objects store false (some v) (.body (site.frame argument 2 v b d []))
  | taking {v b d} (known : v.Issued objects store.nextCallback) :
      Phase argument objects store false (some v) (.body (site.frame argument 3 v b d [v]))
  | taken {v a d} (known : v.Issued objects store.nextCallback) :
      Phase argument objects store false (some v) (.body (site.frame argument 4 a v d []))
  | loading {v a d} (known : v.Issued objects store.nextCallback) :
      Phase argument objects store false (some v) (.body (site.frame argument 5 a v d [v]))
  | combining {v a d} (known : v.Issued objects store.nextCallback) :
      Phase argument objects store false (some v)
        (.body (site.frame argument 6 a v d [argument, v]))
  | combined {v a b d} (known : v.Issued objects store.nextCallback)
      (made : d.Issued objects store.nextCallback) (adds : d.targets = v.targets ++ argument.targets) :
      Phase argument objects store false (some v) (.body (site.frame argument 7 a v b [d]))
  | addressing {v a d} (known : v.Issued objects store.nextCallback)
      (made : d.Issued objects store.nextCallback) (adds : d.targets = v.targets ++ argument.targets) :
      Phase argument objects store false (some v) (.body (site.frame argument 8 a v d []))
  | addressed {v a d} (known : v.Issued objects store.nextCallback)
      (made : d.Issued objects store.nextCallback) (adds : d.targets = v.targets ++ argument.targets)
      (present : (store.slot? site.slot).isSome) :
      Phase argument objects store false (some v)
        (.body (site.frame argument 9 a v d [.address site.slot]))
  | offering {v a d} (known : v.Issued objects store.nextCallback)
      (made : d.Issued objects store.nextCallback) (adds : d.targets = v.targets ++ argument.targets)
      (present : (store.slot? site.slot).isSome) :
      Phase argument objects store false (some v)
        (.body (site.frame argument 10 a v d [d, .address site.slot]))
  | exchanging {v a d} (known : v.Issued objects store.nextCallback)
      (made : d.Issued objects store.nextCallback) (adds : d.targets = v.targets ++ argument.targets)
      (present : (store.slot? site.slot).isSome) :
      Phase argument objects store false (some v)
        (.body (site.frame argument 11 a v d [v, d, .address site.slot]))
  | exchanged {won v held a d} (known : held.Issued objects store.nextCallback)
      (decided : held.same v = won) :
      Phase argument objects store won (some held) (.body (site.frame argument 12 a v d [held]))
  | noted {won v held d} (known : held.Issued objects store.nextCallback)
      (decided : held.same v = won) :
      Phase argument objects store won (some held) (.body (site.frame argument 13 held v d []))
  | comparing {won v held d} (known : held.Issued objects store.nextCallback)
      (decided : held.same v = won) :
      Phase argument objects store won (some held) (.body (site.frame argument 14 held v d [held]))
  | deciding {won v held d} (known : held.Issued objects store.nextCallback)
      (decided : held.same v = won) :
      Phase argument objects store won (some held)
        (.body (site.frame argument 15 held v d [v, held]))
  | returning {seen a b d} : Phase argument objects store true seen
      (.body (site.frame argument 16 a b d []))

/-- The activations of a thread in a phase, possibly with the initialization of the type that
declares the routine on top. -/
def Underway (argument : Value) (objects : Nat → List BoundRoutine) (store : Store) (won : Bool)
    (seen : Option Value) (activations : List Activation) : Prop :=
  ∃ doing, site.Phase argument objects store won seen doing ∧
    (activations = [doing] ∨
      activations = [.initializer site.slot.instantiation, doing])

/-- What a step of a thread does to the slot, and where it leads. -/
inductive Move (limit : Nat) (argument : Value) (objects : Nat → List BoundRoutine)
    (store : Store) (won : Bool) (seen : Option Value) : Option Contact → Progress → Prop where
  /-- The slot is left alone. -/
  | quiet {objectsAfter after activations progress}
      (later : site.Later objects store objectsAfter after)
      (kept : after.held site.slot = store.held site.slot)
      (underway : site.Underway argument objectsAfter after won seen activations)
      (leads : progress = .running after activations ∨ progress = .blocked after activations) :
      Move limit argument objects store won seen none progress
  /-- The slot is read. -/
  | observed {objectsAfter after activations}
      (later : site.Later objects store objectsAfter after)
      (kept : after.held site.slot = store.held site.slot) (still : won = false)
      (underway : site.Underway argument objectsAfter after false (some (store.held site.slot))
        activations) :
      Move limit argument objects store won seen (some .observed) (.running after activations)
  /-- The slot held what was last seen in it, and receives the combination. -/
  | exchanged {objectsAfter after activations}
      (later : site.Later objects store objectsAfter after) (still : won = false)
      (adds : (after.held site.slot).targets =
        (store.held site.slot).targets ++ argument.targets)
      (underway : site.Underway argument objectsAfter after true (some (store.held site.slot))
        activations) :
      Move limit argument objects store won seen (some (.exchanged true))
        (.running after activations)
  /-- The slot held something else than what was last seen in it. -/
  | refused {objectsAfter after activations v}
      (later : site.Later objects store objectsAfter after)
      (kept : after.held site.slot = store.held site.slot) (still : won = false)
      (saw : seen = some v) (changed : (store.held site.slot).same v = false)
      (underway : site.Underway argument objectsAfter after false (some (store.held site.slot))
        activations) :
      Move limit argument objects store won seen (some (.exchanged false))
        (.running after activations)
  /-- The routine returns. -/
  | returned {objectsAfter after} (later : site.Later objects store objectsAfter after)
      (kept : after.held site.slot = store.held site.slot) (done : won = true) :
      Move limit argument objects store won seen none (.finished after (.ok none))
  /-- The routine cannot be entered or go on. -/
  | trapped {objectsAfter after trap} (later : site.Later objects store objectsAfter after)
      (kept : after.held site.slot = store.held site.slot) (still : won = false)
      (reason : limit = 0 ∨ store.HasFailed site.slot.instantiation) :
      Move limit argument objects store won seen none (.finished after (.error trap))

end Site

end Rekindle.Machine
