import Mathlib.Tactic.IntervalCases
import Rekindle.Proofs.Reload.Members
import Rekindle.Proofs.Validity.Extension

/-!
# A valid dispatcher

Adding the dispatcher disturbs nothing and adds nothing that the check of a module rejects.
-/

namespace Rekindle.Reload.Dispatcher

open Validity Rekindle.Module

variable {markers : Markers} {module after : Module} {dispatcher : Dispatcher}

/-! ### Nothing is disturbed -/

theorem Added.fieldDecl?_eq_none (added : Added markers module after dispatcher) {id : FieldId}
    (inside : id.position < module.fields.size) : dispatcher.fieldDecl? id = none := by
  have first := added.unloadActions_position
  have second := added.loadActions_position
  have apart : id ≠ dispatcher.loadActions ∧ id ≠ dispatcher.unloadActions := by
    simp only [Ne, ← FieldId.position_inj]
    omega
  simp [fieldDecl?, apart]

theorem Added.routineDecl?_eq_none (added : Added markers module after dispatcher) {id : RoutineId}
    (inside : id.position < module.routines.size) : dispatcher.routineDecl? markers id = none := by
  have first := added.registerUnload_position
  have second := added.registerLoad_position
  have third := added.unload_position
  have fourth := added.load_position
  have apart : id ≠ dispatcher.load ∧ id ≠ dispatcher.unload ∧ id ≠ dispatcher.registerLoad ∧
      id ≠ dispatcher.registerUnload := by
    simp only [Ne, ← RoutineId.position_inj]
    omega
  simp [routineDecl?, apart]

theorem Added.type?_of_declared (added : Added markers module after dispatcher) {id : TypeId}
    {type : TypeDecl} (declared : module.type? id = some type) : after.type? id = some type := by
  have apart : id ≠ dispatcher.type := by
    have inside := position_lt_of_type? declared
    rw [Ne, ← TypeId.position_inj, added.type_position]
    omega
  rw [added.type?_eq, if_neg apart]
  exact declared

theorem Added.field?_of_declared (added : Added markers module after dispatcher) {id : FieldId}
    {field : FieldDecl} (declared : module.field? id = some field) :
    after.field? id = some field := by
  have inside : id.position < module.fields.size := (Array.getElem?_eq_some_iff.mp declared).1
  rw [added.field?_eq, added.fieldDecl?_eq_none inside]
  exact declared

theorem Added.routine?_of_declared (added : Added markers module after dispatcher)
    {id : RoutineId} {routine : RoutineDecl} (declared : module.routine? id = some routine) :
    after.routine? id = some routine := by
  rw [added.routine?_eq, added.routineDecl?_eq_none (position_lt_of_routine? declared)]
  exact declared

theorem Added.grows (added : Added markers module after dispatcher) : Grows module after := by
  refine ⟨?_, ?_, ?_, ?_⟩
  · intro id type declared
    exact ⟨type.fields, type.routines, added.type?_of_declared declared⟩
  · intro id field declared
    exact added.field?_of_declared declared
  · intro id routine declared
    exact ⟨routine.body, added.routine?_of_declared declared, fun hasBody => hasBody⟩
  · rw [added.typeCount]
    omega

/-! ### The bodies -/

/-- The heights in the body that adds to a slot. -/
def registerHeights (offset : Nat) : Option Nat :=
  [0, 1, 0, 1, 0, 1, 2, 1, 0, 1, 2, 3, 1, 0, 1, 2, 0][offset]?

/-- The heights in the body that invokes what is in a slot. -/
def invokeHeights (offset : Nat) : Option Nat := [0, 1, 2, 1, 0, 1, 0][offset]?

variable {routine : RoutineDecl} {slot : FieldRef}

theorem registerBody_balanced (silent : routine.returns = false) (slot : FieldRef) :
    Balanced module routine (registerBody slot) registerHeights := by
  refine ⟨by simp [entries, registerBody, registerHeights], ?_⟩
  intro offset height known
  have inside : offset < 17 := (List.getElem?_eq_some_iff.mp known).1
  interval_cases offset <;> cases known <;>
    refine ⟨_, rfl, ?_, ?_, ?_⟩ <;>
    simp [registerBody, resultHeight, silent, successors, pops, pushes, registerHeights]

theorem invokeBody_balanced (silent : routine.returns = false) (slot : FieldRef) :
    Balanced module routine (invokeBody slot) invokeHeights := by
  refine ⟨by simp [entries, invokeBody, invokeHeights], ?_⟩
  intro offset height known
  have inside : offset < 7 := (List.getElem?_eq_some_iff.mp known).1
  interval_cases offset <;> cases known <;>
    refine ⟨_, rfl, ?_, ?_, ?_⟩ <;>
    simp [invokeBody, resultHeight, silent, successors, pops, pushes, invokeHeights]

theorem registerBody_fits (fits : FieldRefFits module 0 slot)
    (parameters : routine.parameters.length = 1) (silent : routine.returns = false) :
    BodyFits module 0 routine (registerBody slot) := by
  refine ⟨?_, ?_, ?_, _, registerBody_balanced silent slot⟩
  · simp [registerBody, TypeFits]
  · simp only [registerBody, List.forall_mem_cons, List.not_mem_nil, false_implies, implies_true,
      and_true]
    refine ⟨?_, ?_, ?_, ?_, ?_, ?_, ?_, ?_, ?_, ?_, ?_, ?_, ?_, ?_, ?_, ?_, ?_⟩ <;>
      refine ⟨by simp [Instruction.target?, Body.size], ?_⟩ <;>
      first
      | exact fits
      | simp [OperandFits, parameters]
  · simp [registerBody]

theorem invokeBody_fits (fits : FieldRefFits module 0 slot) (silent : routine.returns = false) :
    BodyFits module 0 routine (invokeBody slot) := by
  refine ⟨?_, ?_, ?_, _, invokeBody_balanced silent slot⟩
  · simp [invokeBody]
  · simp only [invokeBody, List.forall_mem_cons, List.not_mem_nil, false_implies, implies_true,
      and_true]
    refine ⟨?_, ?_, ?_, ?_, ?_, ?_, ?_⟩ <;>
      refine ⟨by simp [Instruction.target?, Body.size], ?_⟩ <;>
      first
      | exact fits
      | simp [OperandFits]
  · simp [invokeBody]

/-! ### The module as a whole -/

theorem Added.loadSlot_fits (added : Added markers module after dispatcher) :
    FieldRefFits after 0 (slotRef dispatcher.loadActions) :=
  ⟨_, added.field?_loadActions, rfl, _, added.type?_type, rfl, trivial⟩

theorem Added.unloadSlot_fits (added : Added markers module after dispatcher) :
    FieldRefFits after 0 (slotRef dispatcher.unloadActions) :=
  ⟨_, added.field?_unloadActions, rfl, _, added.type?_type, rfl, trivial⟩

theorem Added.registerDecl_fits (added : Added markers module after dispatcher) (name : String)
    (fits : FieldRefFits after 0 slot) :
    RoutineFits after { registerDecl markers name slot with owner := dispatcher.type } := by
  refine ⟨_, added.type?_type, trivial, ?_, ?_⟩
  · simp [registerDecl, TypeFits]
  · intro body hasBody
    cases hasBody
    exact registerBody_fits fits rfl rfl

theorem Added.invokeDecl_fits (added : Added markers module after dispatcher) (name : String)
    (fits : FieldRefFits after 0 slot) :
    RoutineFits after { invokeDecl markers name slot with owner := dispatcher.type } := by
  refine ⟨_, added.type?_type, trivial, ?_, ?_⟩
  · simp [invokeDecl, RoutineDecl.static]
  · intro body hasBody
    cases hasBody
    exact invokeBody_fits fits rfl

theorem Added.routine_fits (added : Added markers module after dispatcher) {id : RoutineId}
    (isMember : dispatcher.routineDecl? markers id = some routine) :
    RoutineFits after { routine with owner := dispatcher.type } := by
  unfold routineDecl? at isMember
  split at isMember
  · cases isMember
    exact added.invokeDecl_fits _ added.loadSlot_fits
  · split at isMember
    · cases isMember
      exact added.invokeDecl_fits _ added.unloadSlot_fits
    · split at isMember
      · cases isMember
        exact added.registerDecl_fits _ added.loadSlot_fits
      · split at isMember
        · cases isMember
          exact added.registerDecl_fits _ added.unloadSlot_fits
        · cases isMember

theorem Added.field_fits (added : Added markers module after dispatcher) {id : FieldId}
    {field : FieldDecl} (isSlot : dispatcher.fieldDecl? id = some field) :
    FieldFits after { field with owner := dispatcher.type } := by
  have slotFits (name : String) :
      FieldFits after { slotDecl name with owner := dispatcher.type } :=
    ⟨_, added.type?_type, trivial, nofun⟩
  unfold fieldDecl? at isSlot
  split at isSlot
  · cases isSlot
    exact slotFits _
  · split at isSlot
    · cases isSlot
      exact slotFits _
    · cases isSlot

theorem Added.members_fit (added : Added markers module after dispatcher) :
    MembersFit after dispatcher.type (dispatcher.completeType markers) := by
  refine ⟨?_, ?_⟩
  · simp only [completeType, List.forall_mem_cons, List.not_mem_nil, false_implies, implies_true,
      and_true]
    exact ⟨⟨_, added.field?_unloadActions, rfl⟩, ⟨_, added.field?_loadActions, rfl⟩⟩
  · simp only [completeType, List.forall_mem_cons, List.not_mem_nil, false_implies, implies_true,
      and_true]
    exact ⟨⟨_, added.routine?_registerUnload, rfl⟩, ⟨_, added.routine?_registerLoad, rfl⟩,
      ⟨_, added.routine?_unload, rfl⟩, ⟨_, added.routine?_load, rfl⟩⟩

theorem Added.membersOwned (added : Added markers module after dispatcher)
    (owned : MembersOwned module) : MembersOwned after := by
  intro id type found
  rw [added.type?_eq] at found
  split at found
  · rename_i same
    cases found
    subst same
    exact added.members_fit
  · exact (owned id type found).grow added.grows

theorem Added.valid (added : Added markers module after dispatcher) (valid : Valid module) :
    Valid after := by
  have grows := added.grows
  have absent : module.type? dispatcher.type = none := by
    rw [type?, added.type_position]
    exact Array.getElem?_eq_none (Nat.le_refl _)
  refine ⟨?_, added.membersOwned valid.members, ?_, ?_⟩
  · apply valid.nesting.grow grows
    · intro id
      rw [added.topLevel_eq, List.mem_append, List.mem_singleton]
      constructor
      · rintro (old | rfl)
        · exact .inl old
        · exact .inr ⟨absent, _, added.type?_type⟩
      · rintro (old | ⟨missing, type, found⟩)
        · exact .inl old
        · rw [added.type?_eq] at found
          split at found
          · rename_i same
            exact .inr same
          · simp [missing] at found
    · intro id type missing found
      rw [added.type?_eq] at found
      split at found
      · cases found
        exact ⟨rfl, rfl⟩
      · simp [missing] at found
  · intro id field found
    rw [added.field?_eq] at found
    rcases isSlot : dispatcher.fieldDecl? id with _ | slot
    · rw [isSlot] at found
      exact (valid.fields id field found).grow grows
    · rw [isSlot] at found
      cases found
      exact added.field_fits isSlot
  · intro id routine found
    rw [added.routine?_eq] at found
    rcases isMember : dispatcher.routineDecl? markers id with _ | member
    · rw [isMember] at found
      exact (valid.routines id routine found).grow grows
    · rw [isMember] at found
      cases found
      exact added.routine_fits isMember

end Rekindle.Reload.Dispatcher
