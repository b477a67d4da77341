import Rekindle.Proofs.Hosting.Fitting
import Rekindle.Proofs.Hosting.Serving

/-!
# Static members only

The check of a module admits references to static routines and to static fields that are no
literals, and an initializer is static by what it is. So a thread whose values lead to static
members goes on to static members: whatever it calls is static, and it leaves every place alone that
is not the place of a static field.
-/

namespace Rekindle.Machine

open Fallible Validity Reload

/-! ### Static members of loaded modules -/

/-- A static routine of a loaded module. -/
def BoundRoutine.IsStatic (modules : Array Module) (target : BoundRoutine) : Prop :=
  ∃ module routine, modules[target.module.position]? = some module ∧
    module.routine? target.routine = some routine ∧ routine.isStatic = true

/-- The place of a static field of a loaded module, which is no literal. -/
def Address.IsStatic (modules : Array Module) (place : Address) : Prop :=
  ∃ module id field, modules[place.instantiation.module.position]? = some module ∧
    module.field? id = some field ∧ field.hasStorage = true ∧
      field.owner = place.instantiation.type ∧ Store.slotOf module id = .ok place.slot

/-- Values that lead to static members only. -/
def statics (modules : Array Module) : Scope where
  routines := BoundRoutine.IsStatic modules
  places := Address.IsStatic modules

/-- A frame that executes the body of its routine, and whose values lead to static members only. -/
structure Frame.OnStatics (modules : Array Module) (frame : Frame) : Prop where
  body : ∃ module routine, modules[frame.module.position]? = some module ∧
    module.routine? frame.routine = some routine ∧ routine.body = some frame.body
  within : frame.Within (statics modules)

/-- A part of a stack that executes or calls static routines only, or some others. -/
def Activation.OnStatics (modules : Array Module) (others : BoundRoutine → Prop) : Activation → Prop
  | .body frame =>
    (frame.executed.IsStatic modules ∨ others frame.executed) ∧ frame.OnStatics modules
  | .call target parameters =>
    (target.IsStatic modules ∨ others target) ∧
      ∀ value ∈ parameters, value.Within (statics modules)
  | .targets listed => ∀ target ∈ listed, target.IsStatic modules ∨ others target
  | .initializer _ | .access _ => True

/-- A store whose slots lead to static members only, and that differs from an earlier one only in
the places of static fields. -/
structure Store.OnStatics (modules : Array Module) (earlier store : Store) : Prop where
  modules_eq : store.modules = modules
  within : store.Within (statics modules)
  spares : ∀ place value, ¬ place.IsStatic modules → earlier.slot? place = some value →
    store.slot? place = some value

variable {modules : Array Module} {others : BoundRoutine → Prop} {limit : Nat} {thread : ThreadId}
  {earlier store after : Store} {instantiation : Instantiation} {activations : List Activation}
  {frame : Frame} {target : BoundRoutine}

/-! ### What a frame names -/

namespace Frame.OnStatics

theorem stays (keeps : frame.OnStatics modules) {next : Frame}
    (stays : frame.Stays (statics modules) next) : next.OnStatics modules := by
  refine ⟨?_, stays.within⟩
  rw [stays.module_eq, stays.routine_eq, stays.body_eq]
  exact keeps.body

/-- The operand of the current instruction makes sense in the module of the frame. -/
theorem operand (keeps : frame.OnStatics modules) (passed : AllPassed modules)
    {instruction : Instruction} (current : frame.instruction? = some instruction) :
    ∃ module routine arity, modules[frame.module.position]? = some module ∧
      OperandFits module arity routine frame.body instruction := by
  rcases keeps.body with ⟨module, routine, loaded, found, hasBody⟩
  have valid := checkModule_eq_ok_iff.mp (passed _ module loaded)
  rcases valid.routines _ routine found with ⟨owner, _, _, _, bodies⟩
  have listed : instruction ∈ frame.body.instructions.toList :=
    Array.mem_toList_iff.mpr (Array.mem_of_getElem? current)
  exact ⟨module, routine, owner.arity, loaded,
    ((bodies _ hasBody).instructions instruction listed).operand⟩

/-- What a frame calls or loads is static. -/
theorem bound (keeps : frame.OnStatics modules) (passed : AllPassed modules)
    {instruction : Instruction} (current : frame.instruction? = some instruction)
    {reference : RoutineRef}
    (names : instruction = .call reference ∨ instruction = .loadRoutine reference) :
    (frame.bound reference).IsStatic modules := by
  rcases keeps.operand passed current with ⟨module, routine, arity, loaded, operand⟩
  have fits : RoutineRefFits module arity reference := by
    rcases names with rfl | rfl <;> exact operand
  rcases fits with ⟨callee, found, static, _, _⟩
  exact ⟨module, callee, loaded, found, static⟩

/-- The place of a field that a frame names is that of a static field. -/
theorem address (keeps : frame.OnStatics store.modules) (passed : AllPassed store.modules)
    {instruction : Instruction} (current : frame.instruction? = some instruction)
    {reference : FieldRef}
    (names : instruction = .loadField reference ∨ instruction = .storeField reference ∨
      instruction = .loadFieldAddress reference) {place : Address}
    (placed : frame.address store reference = .ok place) : place.IsStatic store.modules := by
  rcases keeps.operand passed current with ⟨module, routine, arity, loaded, operand⟩
  have fits : FieldRefFits module arity reference := by
    rcases names with rfl | rfl | rfl <;> exact operand
  rcases fits with ⟨field, found, storage, _⟩
  simp only [Frame.address, Store.module, loaded, ok_bind, found, bind_eq_ok_iff] at placed
  rcases placed with ⟨slot, slotFound, ⟨⟩⟩
  exact ⟨module, reference.field, field, loaded, found, storage, rfl, slotFound⟩

end Frame.OnStatics

/-- An initializer is static. -/
theorem initializerOf_isStatic (passed : AllPassed store.modules)
    (found : initializerOf store instantiation = some target) : target.IsStatic store.modules := by
  rcases initializerOf_eq_some_iff.mp found with ⟨module, id, loaded, isInitializer, rfl⟩
  have valid := checkModule_eq_ok_iff.mp (passed _ module loaded)
  rcases exists_of_initializer valid.members isInitializer with ⟨routine, declared, accepted, _⟩
  simp only [RoutineDecl.isInitializer, Bool.and_eq_true] at accepted
  exact ⟨module, routine, loaded, declared, accepted.1.1⟩

/-! ### Stores -/

namespace Store.OnStatics

theorem begin (modules_eq : store.modules = modules) (within : store.Within (statics modules)) :
    Store.OnStatics modules store store :=
  ⟨modules_eq, within, fun _ _ _ held => held⟩

variable (keeps : Store.OnStatics modules earlier store)
include keeps

theorem ask {ticket : Ticket Trap} {storage : Storage}
    (asked : store.Asked thread instantiation after ticket storage) :
    Store.OnStatics modules earlier after := by
  refine ⟨asked.modules_eq.trans keeps.modules_eq, keeps.within.ask asked, ?_⟩
  intro place value apart held
  have kept := keeps.spares place value apart held
  rw [asked.slot?_eq]
  split
  · next same =>
      rcases Option.bind_eq_some_iff.mp kept with ⟨before, present, slot⟩
      rcases asked.storage_eq with found | ⟨missing, _⟩
      · rw [same, found] at present
        cases present
        exact slot
      · rw [same, missing] at present
        cases present
  · exact kept

theorem setSlot {place : Address} {value : Value} (placed : place.IsStatic modules)
    (known : value.Within (statics modules)) :
    Store.OnStatics modules earlier (store.setSlot place value) := by
  refine ⟨keeps.modules_eq, keeps.within.setSlot place known, ?_⟩
  intro other held apart before
  have elsewhere : other ≠ place := fun same => apart (same ▸ placed)
  rw [slot?_setSlot, if_neg elsewhere]
  exact keeps.spares other held apart before

theorem publish (instantiation : Instantiation) (outcome : Except Trap Unit) :
    Store.OnStatics modules earlier (store.publish instantiation outcome) := by
  refine ⟨keeps.modules_eq, keeps.within.publish _ _, ?_⟩
  intro place value apart held
  rw [slot?_publish]
  exact keeps.spares place value apart held

theorem touched (touched : store.Touched (statics modules) after) :
    Store.OnStatics modules earlier after := by
  cases touched with
  | same => exact keeps
  | wrote placed within => exact keeps.setSlot placed within
  | issued => exact ⟨keeps.modules_eq, keeps.within, keeps.spares⟩

end Store.OnStatics

/-! ### Steps -/

/-- Everything that is on static members, with some others that may be executed. -/
def staticDomain (modules : Array Module) (others : BoundRoutine → Prop) (earlier : Store) :
    Domain where
  scope := statics modules
  stores := Store.OnStatics modules earlier
  frames := fun frame =>
    (frame.executed.IsStatic modules ∨ others frame.executed) ∧ frame.OnStatics modules
  calls := fun target => target.IsStatic modules ∨ others target
  asks := fun _ => True

/-- What the check of modules admits does not lead out to other members. -/
theorem staticDomain_isClosed (passed : AllPassed modules) :
    (staticDomain modules others earlier).IsClosed where
  within keeps := keeps.within
  framesWithin known := known.2.within
  asked keeps _ asked := by
    rcases Store.ask_ok asked with ⟨storage, asked⟩
    exact keeps.ask asked
  published instantiation outcome keeps := keeps.publish instantiation outcome
  touched keeps touched := keeps.touched touched
  stays known stays := ⟨stays.executed_eq ▸ known.1, known.2.stays stays⟩
  starts keeps called loaded found hasBody within :=
    ⟨called, ⟨_, _, keeps.modules_eq ▸ loaded, found, hasBody⟩, within⟩
  owned _ _ _ := trivial
  initializes keeps _ found :=
    .inl (keeps.modules_eq ▸ initializerOf_isStatic (keeps.modules_eq ▸ passed) found)
  leads static := .inl static
  binds _ known current names := known.2.bound passed current names
  places keeps known current names located :=
    ⟨trivial, keeps.modules_eq ▸ Frame.OnStatics.address (keeps.modules_eq ▸ known.2)
      (keeps.modules_eq ▸ passed) current names located⟩

theorem Activation.onStatics_iff {activation : Activation} :
    activation.OnStatics modules others ↔
      activation.Within (staticDomain modules others earlier) := by
  cases activation <;> exact Iff.rfl

/-- A step of a thread that is on static members stays on static members. -/
theorem step_onStatics (passed : AllPassed modules) (keeps : Store.OnStatics modules earlier store)
    (all : ∀ activation ∈ activations, activation.OnStatics modules others) :
    (step limit thread store activations).Within (staticDomain modules others earlier) :=
  step_within (staticDomain_isClosed passed) keeps fun activation listed =>
    Activation.onStatics_iff.mp (all activation listed)

end Rekindle.Machine
