import Rekindle.Proofs.Module.Tables
import Rekindle.Reload.Dispatcher

/-!
# The members of the dispatcher

A module to which the dispatcher was added has one more type, two more fields and four more
routines, and every declaration it had before.
-/

namespace Rekindle.Reload

open Fallible Rekindle.Module

/-- Room for more types, fields and routines that have handles. -/
structure Room (module : Module) (types fields routines : Nat) : Prop where
  types_le : module.types.size + types ≤ tableLimit
  fields_le : module.fields.size + fields ≤ tableLimit
  routines_le : module.routines.size + routines ≤ tableLimit

namespace Dispatcher

def slotRef (field : FieldId) : FieldRef where
  field
  binding := .direct

/-- The dispatcher type with its members. -/
def completeType (markers : Markers) (dispatcher : Dispatcher) : TypeDecl :=
  { typeDecl markers with
    fields := [dispatcher.unloadActions, dispatcher.loadActions]
    routines := [dispatcher.registerUnload, dispatcher.registerLoad, dispatcher.unload,
      dispatcher.load] }

/-- The routine of a dispatcher behind one of its four handles. -/
def routineDecl? (markers : Markers) (dispatcher : Dispatcher) (id : RoutineId) :
    Option RoutineDecl :=
  if id = dispatcher.load then some (invokeDecl markers Names.load (slotRef dispatcher.loadActions))
  else if id = dispatcher.unload then
    some (invokeDecl markers Names.unload (slotRef dispatcher.unloadActions))
  else if id = dispatcher.registerLoad then
    some (registerDecl markers Names.registerLoad (slotRef dispatcher.loadActions))
  else if id = dispatcher.registerUnload then
    some (registerDecl markers Names.registerUnload (slotRef dispatcher.unloadActions))
  else none

/-- The field of a dispatcher behind one of its two handles. -/
def fieldDecl? (dispatcher : Dispatcher) (id : FieldId) : Option FieldDecl :=
  if id = dispatcher.loadActions then some (slotDecl Names.loadActions)
  else if id = dispatcher.unloadActions then some (slotDecl Names.unloadActions)
  else none

/-- A module to which the dispatcher was added. -/
structure Added (markers : Markers) (module after : Module) (dispatcher : Dispatcher) : Prop where
  type_position : dispatcher.type.position = module.types.size
  unloadActions_position : dispatcher.unloadActions.position = module.fields.size
  loadActions_position : dispatcher.loadActions.position = module.fields.size + 1
  registerUnload_position : dispatcher.registerUnload.position = module.routines.size
  registerLoad_position : dispatcher.registerLoad.position = module.routines.size + 1
  unload_position : dispatcher.unload.position = module.routines.size + 2
  load_position : dispatcher.load.position = module.routines.size + 3
  type?_eq : ∀ id, after.type? id =
    if id = dispatcher.type then some (dispatcher.completeType markers) else module.type? id
  field?_eq : ∀ id, after.field? id =
    match dispatcher.fieldDecl? id with
    | some field => some { field with owner := dispatcher.type }
    | none => module.field? id
  routine?_eq : ∀ id, after.routine? id =
    match dispatcher.routineDecl? markers id with
    | some routine => some { routine with owner := dispatcher.type }
    | none => module.routine? id
  typeCount : after.types.size = module.types.size + 1
  fieldCount : after.fields.size = module.fields.size + 2
  routineCount : after.routines.size = module.routines.size + 4
  topLevel_eq : after.topLevel = module.topLevel ++ [dispatcher.type]

variable {markers : Markers} {module after : Module} {dispatcher : Dispatcher}

theorem bindField_inside {field : FieldId} {declared : FieldDecl} {type : TypeDecl}
    (found : module.field? field = some declared)
    (owner : module.type? declared.owner = some type) (plain : type.arity = 0) :
    module.bindField field .inside = .ok (slotRef field) := by
  simp [bindField, found, Module.bind, owner, plain, slotRef]

/-- A module to which the dispatcher type was added with its fields only. -/
structure Slotted (markers : Markers) (module slotted : Module) (type : TypeId)
    (unloadActions loadActions : FieldId) : Prop where
  type_position : type.position = module.types.size
  unloadActions_position : unloadActions.position = module.fields.size
  loadActions_position : loadActions.position = module.fields.size + 1
  type?_eq : ∀ id, slotted.type? id =
    if id = type then some { typeDecl markers with fields := [unloadActions, loadActions] }
    else module.type? id
  field?_eq : ∀ id, slotted.field? id =
    if id = loadActions then some { slotDecl Names.loadActions with owner := type }
    else if id = unloadActions then some { slotDecl Names.unloadActions with owner := type }
    else module.field? id
  typeCount : slotted.types.size = module.types.size + 1
  fieldCount : slotted.fields.size = module.fields.size + 2
  routines_eq : slotted.routines = module.routines
  topLevel_eq : slotted.topLevel = module.topLevel ++ [type]

theorem addSlots_succeeds {typed : Module} {type : TypeId}
    (typeAdded : TypeAdded module typed (typeDecl markers) type) (room : Room module 1 2 4) :
    ∃ first slotted unloadActions loadActions,
      typed.addField type (slotDecl Names.unloadActions) = .ok (first, unloadActions) ∧
      first.addField type (slotDecl Names.loadActions) = .ok (slotted, loadActions) ∧
      Slotted markers module slotted type unloadActions loadActions := by
  have fieldRoom := room.fields_le
  have typed_type : typed.type? type = some (typeDecl markers) := by
    rw [typeAdded.type?_eq, if_pos rfl]
    rfl
  have typedRoom : typed.fields.size < tableLimit := by
    rw [typeAdded.fields_eq]
    omega
  rcases addField_succeeds (slotDecl Names.unloadActions) typed_type rfl typedRoom with
    ⟨first, unloadActions, first_eq, firstAdded, first_type⟩
  have first_field := firstAdded.field?_eq unloadActions
  rw [if_pos rfl] at first_field
  have otherName : first.firstField (·.name = Names.loadActions) [unloadActions] = .ok none := by
    simp [firstField, first_field, slotDecl, FieldDecl.static, Names.unloadActions,
      Names.loadActions]
  have firstRoom : first.fields.size < tableLimit := by
    rw [firstAdded.fieldCount, typeAdded.fields_eq]
    omega
  rcases addField_succeeds (slotDecl Names.loadActions) first_type otherName firstRoom with
    ⟨slotted, loadActions, slotted_eq, slottedAdded, _⟩
  refine ⟨first, slotted, unloadActions, loadActions, first_eq, slotted_eq,
    typeAdded.position_eq, ?_, ?_, ?_, ?_, ?_, ?_, ?_, ?_⟩
  · rw [firstAdded.position_eq, typeAdded.fields_eq]
  · rw [slottedAdded.position_eq, firstAdded.fieldCount, typeAdded.fields_eq]
  · intro id
    rw [slottedAdded.type?_eq, first_type]
    split
    · rfl
    · rename_i other
      rw [firstAdded.type?_eq, if_neg other, typeAdded.type?_eq, if_neg other]
  · intro id
    rw [slottedAdded.field?_eq, firstAdded.field?_eq, field?, typeAdded.fields_eq]
    rfl
  · rw [slottedAdded.typeCount, firstAdded.typeCount, typeAdded.typeCount]
  · rw [slottedAdded.fieldCount, firstAdded.fieldCount, typeAdded.fields_eq]
  · rw [slottedAdded.routines_eq, firstAdded.routines_eq, typeAdded.routines_eq]
  · rw [slottedAdded.topLevel_eq, firstAdded.topLevel_eq, typeAdded.topLevel_eq]

/-- The members of the dispatcher can be added to a type that has none yet. -/
theorem addMembers_succeeds {typed : Module} {type : TypeId}
    (typeAdded : TypeAdded module typed (typeDecl markers) type) (room : Room module 1 2 4) :
    ∃ after dispatcher, addMembers markers typed type = .ok (after, dispatcher) ∧
      Added markers module after dispatcher := by
  have routineRoom := room.routines_le
  rcases addSlots_succeeds typeAdded room with
    ⟨first, slotted, unloadActions, loadActions, first_eq, slotted_eq, isSlotted⟩
  have slotted_type := isSlotted.type?_eq type
  rw [if_pos rfl] at slotted_type
  have fieldsApart : unloadActions ≠ loadActions := by
    rw [Ne, ← FieldId.position_inj, isSlotted.unloadActions_position,
      isSlotted.loadActions_position]
    omega
  have slotted_unload := isSlotted.field?_eq unloadActions
  rw [if_neg fieldsApart, if_pos rfl] at slotted_unload
  have unloadSlot := bindField_inside slotted_unload slotted_type rfl
  have counts : slotted.routines.size = module.routines.size := by rw [isSlotted.routines_eq]
  rcases addRoutine_succeeds (registerDecl markers Names.registerUnload (slotRef unloadActions))
    slotted_type (by omega) with ⟨third, registerUnload, third_eq, thirdAdded, third_type⟩
  have third_load := isSlotted.field?_eq loadActions
  rw [if_pos rfl, field?, ← thirdAdded.fields_eq] at third_load
  have loadSlot := bindField_inside third_load third_type rfl
  have thirdCount := thirdAdded.routineCount
  rcases addRoutine_succeeds (registerDecl markers Names.registerLoad (slotRef loadActions))
    third_type (by omega) with ⟨fourth, registerLoad, fourth_eq, fourthAdded, fourth_type⟩
  have fourthCount := fourthAdded.routineCount
  rcases addRoutine_succeeds (invokeDecl markers Names.unload (slotRef unloadActions))
    fourth_type (by omega) with ⟨fifth, unload, fifth_eq, fifthAdded, fifth_type⟩
  have fifthCount := fifthAdded.routineCount
  rcases addRoutine_succeeds (invokeDecl markers Names.load (slotRef loadActions))
    fifth_type (by omega) with ⟨sixth, load, sixth_eq, sixthAdded, sixth_type⟩
  have sixthCount := sixthAdded.routineCount
  refine ⟨sixth,
    { type, unloadActions, loadActions, registerUnload, registerLoad, unload, load }, ?_, ?_⟩
  · simp only [addMembers, first_eq, slotted_eq, ok_bind, unloadSlot, third_eq, loadSlot, fourth_eq,
      fifth_eq, sixth_eq, pure_eq_ok]
  · refine ⟨isSlotted.type_position, isSlotted.unloadActions_position,
      isSlotted.loadActions_position, ?_, ?_, ?_, ?_, ?_, ?_, ?_, ?_, ?_, ?_, ?_⟩
    · rw [thirdAdded.position_eq, counts]
    · rw [fourthAdded.position_eq, thirdCount, counts]
    · rw [fifthAdded.position_eq, fourthCount, thirdCount, counts]
    · rw [sixthAdded.position_eq, fifthCount, fourthCount, thirdCount, counts]
    · intro id
      split
      · rename_i same
        rw [same]
        exact sixth_type
      · rename_i other
        rw [sixthAdded.type?_eq, if_neg other, fifthAdded.type?_eq, if_neg other, fourthAdded.type?_eq, if_neg other,
          thirdAdded.type?_eq, if_neg other, isSlotted.type?_eq, if_neg other]
    · intro id
      rw [field?, sixthAdded.fields_eq, fifthAdded.fields_eq, fourthAdded.fields_eq,
        thirdAdded.fields_eq]
      refine (isSlotted.field?_eq id).trans ?_
      simp only [fieldDecl?]
      split
      · rfl
      · split <;> rfl
    · intro id
      have kept : slotted.routine? id = module.routine? id := by
        rw [routine?, routine?, isSlotted.routines_eq]
      rw [sixthAdded.routine?_eq, fifthAdded.routine?_eq, fourthAdded.routine?_eq,
        thirdAdded.routine?_eq, kept]
      simp only [routineDecl?]
      split
      · rfl
      · split
        · rfl
        · split
          · rfl
          · split <;> rfl
    · rw [sixthAdded.typeCount, fifthAdded.typeCount, fourthAdded.typeCount, thirdAdded.typeCount,
        isSlotted.typeCount]
    · rw [sixthAdded.fields_eq, fifthAdded.fields_eq, fourthAdded.fields_eq, thirdAdded.fields_eq,
        isSlotted.fieldCount]
    · rw [sixthCount, fifthCount, fourthCount, thirdCount, counts]
    · rw [sixthAdded.topLevel_eq, fifthAdded.topLevel_eq, fourthAdded.topLevel_eq,
        thirdAdded.topLevel_eq, isSlotted.topLevel_eq]

/-- The dispatcher can be added to every module that has room for it and no type of its name. -/
theorem addTo_succeeds (markers : Markers) (absent : module.findType Names.dispatcher = none)
    (room : Room module 1 2 4) :
    ∃ after dispatcher, addTo markers module = .ok (after, dispatcher) ∧
      Added markers module after dispatcher := by
  have typeAdded := addType_added (typeDecl markers) room.types_le
  rcases addMembers_succeeds typeAdded room with ⟨after, dispatcher, members_eq, added⟩
  refine ⟨after, dispatcher, ?_, added⟩
  simp only [addTo, absent, members_eq]
  rfl

/-- What the dispatcher was added to had no type of its name. -/
theorem addTo_added (adds : addTo markers module = .ok (after, dispatcher))
    (room : Room module 1 2 4) :
    module.findType Names.dispatcher = none ∧ Added markers module after dispatcher := by
  rcases absent : module.findType Names.dispatcher with _ | type
  · rcases addTo_succeeds markers absent room with ⟨grown, members, succeeds, added⟩
    rw [adds] at succeeds
    cases succeeds
    exact ⟨rfl, added⟩
  · simp [addTo, absent] at adds

/-! ### Lookups of the members -/

theorem Added.type?_type (added : Added markers module after dispatcher) :
    after.type? dispatcher.type = some (dispatcher.completeType markers) := by
  rw [added.type?_eq, if_pos rfl]

theorem Added.field?_loadActions (added : Added markers module after dispatcher) :
    after.field? dispatcher.loadActions =
      some { slotDecl Names.loadActions with owner := dispatcher.type } := by
  simp [added.field?_eq, fieldDecl?]

theorem Added.field?_unloadActions (added : Added markers module after dispatcher) :
    after.field? dispatcher.unloadActions =
      some { slotDecl Names.unloadActions with owner := dispatcher.type } := by
  have apart : dispatcher.unloadActions ≠ dispatcher.loadActions := by
    rw [Ne, ← FieldId.position_inj, added.unloadActions_position, added.loadActions_position]
    omega
  simp [added.field?_eq, fieldDecl?, apart]

theorem Added.routine?_registerUnload (added : Added markers module after dispatcher) :
    after.routine? dispatcher.registerUnload =
      some { registerDecl markers Names.registerUnload (slotRef dispatcher.unloadActions) with
        owner := dispatcher.type } := by
  have first := added.registerUnload_position
  have second := added.registerLoad_position
  have third := added.unload_position
  have fourth := added.load_position
  have apart : dispatcher.registerUnload ≠ dispatcher.load ∧
      dispatcher.registerUnload ≠ dispatcher.unload ∧
      dispatcher.registerUnload ≠ dispatcher.registerLoad := by
    simp only [Ne, ← RoutineId.position_inj]
    omega
  simp [added.routine?_eq, routineDecl?, apart]

theorem Added.routine?_registerLoad (added : Added markers module after dispatcher) :
    after.routine? dispatcher.registerLoad =
      some { registerDecl markers Names.registerLoad (slotRef dispatcher.loadActions) with
        owner := dispatcher.type } := by
  have second := added.registerLoad_position
  have third := added.unload_position
  have fourth := added.load_position
  have apart : dispatcher.registerLoad ≠ dispatcher.load ∧
      dispatcher.registerLoad ≠ dispatcher.unload := by
    simp only [Ne, ← RoutineId.position_inj]
    omega
  simp [added.routine?_eq, routineDecl?, apart]

theorem Added.routine?_unload (added : Added markers module after dispatcher) :
    after.routine? dispatcher.unload =
      some { invokeDecl markers Names.unload (slotRef dispatcher.unloadActions) with
        owner := dispatcher.type } := by
  have third := added.unload_position
  have fourth := added.load_position
  have apart : dispatcher.unload ≠ dispatcher.load := by
    simp only [Ne, ← RoutineId.position_inj]
    omega
  simp [added.routine?_eq, routineDecl?, apart]

theorem Added.routine?_load (added : Added markers module after dispatcher) :
    after.routine? dispatcher.load =
      some { invokeDecl markers Names.load (slotRef dispatcher.loadActions) with
        owner := dispatcher.type } := by
  simp [added.routine?_eq, routineDecl?]

/-- The dispatcher type has no initializer. -/
theorem Added.initializer_type (added : Added markers module after dispatcher) :
    after.initializer dispatcher.type = .ok none := by
  simp only [initializer, added.type?_type, completeType, firstRoutine,
    added.routine?_registerUnload, added.routine?_registerLoad, added.routine?_unload,
    added.routine?_load]
  rfl

end Dispatcher

end Rekindle.Reload
