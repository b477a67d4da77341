import Rekindle.Proofs.Machine.Balance
import Rekindle.Proofs.Machine.Requests
import Rekindle.Proofs.Transparency.Lookups
import Rekindle.Proofs.ValueType.Substitution

/-!
# What fits the loaded modules

A routine or a type of a loaded module fits together with a closed argument for each parameter of
the type. What the instructions of a frame name fits when the frame does: the check has counted the
arguments of every reference, and closing them puts closed arguments in place of all parameters.
-/

namespace Rekindle.Machine

open Fallible Reload Validity

/-- A closed argument for each parameter of a type. -/
structure ClosedBy (type : TypeDecl) (arguments : List ValueType) : Prop where
  count : arguments.length = type.arity
  closed : ∀ argument ∈ arguments, argument.isClosed = true

/-- A type of a loaded module under closed arguments. -/
def Instantiation.Fits (modules : Array Module) (instantiation : Instantiation) : Prop :=
  ∃ module type, modules[instantiation.module.position]? = some module ∧
    module.type? instantiation.type = some type ∧ ClosedBy type instantiation.arguments

/-- A routine of a loaded module under closed arguments of the type that declares it. -/
def BoundRoutine.Fits (modules : Array Module) (target : BoundRoutine) : Prop :=
  ∃ module routine type, modules[target.module.position]? = some module ∧
    module.routine? target.routine = some routine ∧ module.type? routine.owner = some type ∧
      ClosedBy type target.arguments

/-- Values that lead to no other routines than those that fit. -/
def fitting (modules : Array Module) : Scope where
  routines := BoundRoutine.Fits modules
  places := fun _ => True

/-- The routine whose body a frame executes. -/
def Frame.executed (frame : Frame) : BoundRoutine where
  module := frame.module
  routine := frame.routine
  arguments := frame.arguments

theorem Frame.Stays.executed_eq {scope : Scope} {frame after : Frame}
    (stays : frame.Stays scope after) : after.executed = frame.executed := by
  simp only [executed, stays.module_eq, stays.routine_eq, stays.arguments_eq]

/-- A frame that executes the body of a routine that fits. -/
structure Frame.Fits (modules : Array Module) (frame : Frame) : Prop where
  executed : frame.executed.Fits modules
  body : ∃ module routine, modules[frame.module.position]? = some module ∧
    module.routine? frame.routine = some routine ∧ routine.body = some frame.body
  within : frame.Within (fitting modules)

/-! ### Loading more modules -/

section Push

variable {modules : Array Module}

theorem Store.Occurs.allPassed {store : Store} (occurs : store.Occurs) :
    AllPassed store.modules := by
  induction occurs with
  | fresh =>
      intro position module loaded
      cases loaded
  | loaded _ loads ih => exact ih.load loads
  | stepped _ limit thread activations ih =>
      rw [(step_changes limit thread _ activations).modules_eq]
      exact ih
  | wrote _ _ _ ih | madeCallback _ _ ih | collected _ ih => exact ih

theorem Instantiation.Fits.push {instantiation : Instantiation}
    (fits : instantiation.Fits modules) (added : Module) :
    instantiation.Fits (modules.push added) := by
  rcases fits with ⟨module, type, loaded, declared, closedBy⟩
  exact ⟨module, type, getElem?_push loaded added, declared, closedBy⟩

theorem BoundRoutine.Fits.push {target : BoundRoutine} (fits : target.Fits modules)
    (added : Module) : target.Fits (modules.push added) := by
  rcases fits with ⟨module, routine, type, loaded, found, declared, closedBy⟩
  exact ⟨module, routine, type, getElem?_push loaded added, found, declared, closedBy⟩

theorem Value.Within.push {value : Value} (within : value.Within (fitting modules))
    (added : Module) : value.Within (fitting (modules.push added)) :=
  within.widen (fun _ fits => BoundRoutine.Fits.push fits added) fun _ _ => trivial

theorem Frame.Fits.push {frame : Frame} (fits : frame.Fits modules) (added : Module) :
    frame.Fits (modules.push added) := by
  rcases fits.body with ⟨module, routine, loaded, found, hasBody⟩
  exact ⟨fits.executed.push added, ⟨module, routine, getElem?_push loaded added, found, hasBody⟩,
    fits.within.widen (fun _ known => BoundRoutine.Fits.push known added) fun _ _ => trivial⟩

end Push

/-! ### Closed arguments -/

section Close

variable {module : Module} {arguments : List ValueType}

/-- Closing the arguments of a reference gives closed arguments for the type it leads to. -/
theorem closedBy_close (closed : ∀ argument ∈ arguments, argument.isClosed = true)
    {owner : TypeId} {binding : Binding}
    (fits : BindingFits module arguments.length owner binding) :
    ∃ type, module.type? owner = some type ∧ ClosedBy type (binding.close arguments) := by
  rcases length_close fits arguments with ⟨type, declared, arity_eq⟩
  rcases fits with ⟨_, _, _, inner⟩
  refine ⟨type, declared, arity_eq.symm, fun argument listed => ?_⟩
  rcases List.mem_map.mp listed with ⟨given, bound, rfl⟩
  have below := (ValueType.typeFits_iff.mp (typesFit_iff.mp inner given bound)).1
  exact (ValueType.isClosed_substitute_iff closed).mpr below

end Close

/-! ### Owners -/

section Owners

variable {store : Store} {target : BoundRoutine} {instantiation : Instantiation}

theorem ownerOf_eq_ok_iff : ownerOf store target = .ok instantiation ↔ ∃ module routine,
    store.modules[target.module.position]? = some module ∧
      module.routine? target.routine = some routine ∧
        instantiation = ⟨target.module, routine.owner, target.arguments⟩ := by
  unfold ownerOf Store.module
  rcases store.modules[target.module.position]? with _ | module
  · simp
  · rcases found : module.routine? target.routine with _ | routine
    · simp [found]
    · simp [found, eq_comm]

/-- A routine fits if the instantiation that it belongs to does. -/
theorem fits_of_ownerOf (owned : ownerOf store target = .ok instantiation) :
    target.Fits store.modules ↔ instantiation.Fits store.modules := by
  rcases ownerOf_eq_ok_iff.mp owned with ⟨module, routine, loaded, found, rfl⟩
  constructor
  · rintro ⟨again, other, type, loadedAgain, foundAgain, declared, closedBy⟩
    rw [loaded] at loadedAgain
    cases loadedAgain
    rw [found] at foundAgain
    cases foundAgain
    exact ⟨module, type, loaded, declared, closedBy⟩
  · rintro ⟨again, type, loadedAgain, declared, closedBy⟩
    rw [loaded] at loadedAgain
    cases loadedAgain
    exact ⟨module, routine, type, loaded, found, declared, closedBy⟩

/-- The initializer of an instantiation belongs to it. -/
theorem ownerOf_initializer (passed : AllPassed store.modules)
    (found : initializerOf store instantiation = some target) :
    ownerOf store target = .ok instantiation := by
  rcases initializerOf_eq_some_iff.mp found with ⟨module, id, loaded, isInitializer, rfl⟩
  have valid := checkModule_eq_ok_iff.mp (passed _ module loaded)
  rcases exists_of_initializer valid.members isInitializer with ⟨routine, declared, _, owner_eq⟩
  refine ownerOf_eq_ok_iff.mpr ⟨module, routine, loaded, declared, ?_⟩
  rw [owner_eq]

end Owners

/-! ### What a host names -/

namespace Store

variable {store : Store} {module : Module} {handle : ModuleHandle} {arguments : List ValueType}

theorem hostTarget_fits {routine : RoutineId} {target : BoundRoutine}
    (allowed : store.hostTarget handle routine arguments = .ok target) :
    target.Fits store.modules := by
  rcases hostTarget_ok allowed with
    ⟨rfl, module, declared, type, loaded, found, typeDeclared, arity_eq, closed⟩
  exact ⟨module, declared, type, loaded, found, typeDeclared, arity_eq.symm, closed⟩

theorem hostAddress_fits {field : FieldId} {place : Address}
    (allowed : store.hostAddress handle field arguments = .ok place) :
    place.instantiation.Fits store.modules := by
  rcases hostAddress_ok allowed with
    ⟨module, declared, type, loaded, _, typeDeclared, arity_eq, closed, instantiation_eq⟩
  rw [instantiation_eq]
  exact ⟨module, type, loaded, typeDeclared, arity_eq.symm, closed⟩

end Store

/-! ### What a frame names -/

namespace Frame.Fits

variable {store : Store} {frame after : Frame} {instruction : Instruction}

/-- A later state of a frame fits if what it holds leads only to what fits. -/
theorem stays {modules : Array Module} (fits : frame.Fits modules)
    (stays : frame.Stays (fitting modules) after) : after.Fits modules := by
  refine ⟨?_, ?_, stays.within⟩
  · rw [stays.executed_eq]
    exact fits.executed
  · rw [stays.module_eq, stays.routine_eq, stays.body_eq]
    exact fits.body

/-- The operand of an instruction of a frame makes sense for the arguments of the frame. -/
theorem operand (fits : frame.Fits store.modules) (passed : AllPassed store.modules)
    (current : frame.instruction? = some instruction) :
    ∃ module routine, store.modules[frame.module.position]? = some module ∧
      OperandFits module frame.arguments.length routine frame.body instruction ∧
        ∀ argument ∈ frame.arguments, argument.isClosed = true := by
  rcases fits.executed with ⟨module, routine, type, loaded, found, declared, closedBy⟩
  rcases fits.body with ⟨again, same, loadedAgain, foundAgain, hasBody⟩
  have arguments : frame.arguments.length = type.arity := closedBy.count
  simp only [Frame.executed] at loaded found
  rw [loaded] at loadedAgain
  cases loadedAgain
  rw [found] at foundAgain
  cases foundAgain
  have valid := checkModule_eq_ok_iff.mp (passed _ module loaded)
  rcases valid.routines _ routine found with ⟨owner, ownerDeclared, _, _, bodies⟩
  rw [declared] at ownerDeclared
  cases ownerDeclared
  have listed : instruction ∈ frame.body.instructions.toList :=
    Array.mem_toList_iff.mpr (Array.mem_of_getElem? current)
  refine ⟨module, routine, loaded, ?_, closedBy.closed⟩
  rw [arguments]
  exact ((bodies _ hasBody).instructions instruction listed).operand

/-- What a frame calls or loads fits. -/
theorem bound (fits : frame.Fits store.modules) (passed : AllPassed store.modules)
    (current : frame.instruction? = some instruction) {reference : RoutineRef}
    (names : instruction = .call reference ∨ instruction = .loadRoutine reference) :
    (frame.bound reference).Fits store.modules := by
  rcases fits.operand passed current with ⟨module, routine, loaded, operand, closed⟩
  have refFits : RoutineRefFits module frame.arguments.length reference := by
    rcases names with rfl | rfl <;> exact operand
  rcases refFits with ⟨callee, found, _, _, binding⟩
  rcases closedBy_close closed binding with ⟨type, declared, closedBy⟩
  exact ⟨module, callee, type, loaded, found, declared, closedBy⟩

/-- The instantiation whose field a frame uses fits. -/
theorem address (fits : frame.Fits store.modules) (passed : AllPassed store.modules)
    (current : frame.instruction? = some instruction) {reference : FieldRef}
    (names : instruction = .loadField reference ∨ instruction = .storeField reference ∨
      instruction = .loadFieldAddress reference) {place : Address}
    (placed : frame.address store reference = .ok place) :
    place.instantiation.Fits store.modules := by
  rcases fits.operand passed current with ⟨module, routine, loaded, operand, closed⟩
  have refFits : FieldRefFits module frame.arguments.length reference := by
    rcases names with rfl | rfl | rfl <;> exact operand
  rcases refFits with ⟨field, found, _, binding⟩
  have reached := address_confined (fitting store.modules) frame store reference
  rw [placed] at reached
  rcases reached with ⟨again, same, loadedAgain, foundAgain, instantiation_eq⟩
  rw [loaded] at loadedAgain
  cases loadedAgain
  rw [found] at foundAgain
  cases foundAgain
  rcases closedBy_close closed binding with ⟨type, declared, closedBy⟩
  rw [instantiation_eq]
  exact ⟨module, type, loaded, declared, closedBy⟩

end Frame.Fits

end Rekindle.Machine
