import Rekindle.Module.Edit
import Rekindle.Proofs.Fallible

/-!
# What editing changes

The tables of a module after each way of editing it, as they are seen through lookups: what a handle
led to before, it leads to afterwards, apart from the entry that was edited. Handles have 32 bits,
so a new entry has a handle of its own only while its table has no more than that many entries.
-/

namespace Rekindle

/-- The number of entries of a table that can have handles. -/
def tableLimit : Nat := 4294967296

theorem TypeId.position_ofPosition {position : Nat} (room : position < tableLimit) :
    (TypeId.ofPosition position).position = position := by
  simp only [TypeId.ofPosition, TypeId.position, UInt32.toNat_ofNat']
  exact Nat.mod_eq_of_lt room

theorem FieldId.position_ofPosition {position : Nat} (room : position < tableLimit) :
    (FieldId.ofPosition position).position = position := by
  simp only [FieldId.ofPosition, FieldId.position, UInt32.toNat_ofNat']
  exact Nat.mod_eq_of_lt room

theorem RoutineId.position_ofPosition {position : Nat} (room : position < tableLimit) :
    (RoutineId.ofPosition position).position = position := by
  simp only [RoutineId.ofPosition, RoutineId.position, UInt32.toNat_ofNat']
  exact Nat.mod_eq_of_lt room

@[simp]
theorem TypeId.ofPosition_position (id : TypeId) : TypeId.ofPosition id.position = id := by
  simp [TypeId.ofPosition, TypeId.position]

@[simp]
theorem FieldId.ofPosition_position (id : FieldId) : FieldId.ofPosition id.position = id := by
  simp [FieldId.ofPosition, FieldId.position]

@[simp]
theorem RoutineId.ofPosition_position (id : RoutineId) :
    RoutineId.ofPosition id.position = id := by
  simp [RoutineId.ofPosition, RoutineId.position]

theorem TypeId.position_inj {id other : TypeId} : id.position = other.position ↔ id = other :=
  ⟨fun same => by rw [← id.ofPosition_position, same, other.ofPosition_position],
    fun same => same ▸ rfl⟩

theorem FieldId.position_inj {id other : FieldId} : id.position = other.position ↔ id = other :=
  ⟨fun same => by rw [← id.ofPosition_position, same, other.ofPosition_position],
    fun same => same ▸ rfl⟩

theorem RoutineId.position_inj {id other : RoutineId} :
    id.position = other.position ↔ id = other :=
  ⟨fun same => by rw [← id.ofPosition_position, same, other.ofPosition_position],
    fun same => same ▸ rfl⟩

namespace Module

variable {module after : Module}

/-! ### Edits that succeeded -/

theorem addNestedType_ok {outer id : TypeId} {type : TypeDecl}
    (added : module.addNestedType outer type = .ok (after, id)) :
    ∃ around, module.type? outer = some around ∧ id = TypeId.ofPosition module.types.size ∧
      after = { module with
        types := (module.setType outer { around with nested := around.nested ++ [id] }).types.push
          { type with outer := some outer, nested := [], fields := [], routines := [] } } := by
  unfold addNestedType at added
  split at added
  · cases added
  · rename_i around declared
    cases added
    exact ⟨around, declared, rfl, rfl⟩

theorem addField_ok {owner : TypeId} {field : FieldDecl} {id : FieldId}
    (added : module.addField owner field = .ok (after, id)) :
    ∃ type, module.type? owner = some type ∧
      module.firstField (·.name = field.name) type.fields = .ok none ∧
      id = FieldId.ofPosition module.fields.size ∧
      after = { module.setType owner { type with fields := type.fields ++ [id] } with
        fields := module.fields.push { field with owner } } := by
  unfold addField at added
  split at added
  · cases added
  · rename_i type declared
    split at added
    · cases added
    · cases added
    · rename_i unnamed
      cases added
      exact ⟨type, declared, unnamed, rfl, rfl⟩

theorem addRoutine_ok {owner : TypeId} {routine : RoutineDecl} {id : RoutineId}
    (added : module.addRoutine owner routine = .ok (after, id)) :
    ∃ type, module.type? owner = some type ∧ id = RoutineId.ofPosition module.routines.size ∧
      after = { module.setType owner { type with routines := type.routines ++ [id] } with
        routines := module.routines.push { routine with owner } } := by
  unfold addRoutine at added
  split at added
  · cases added
  · rename_i type declared
    cases added
    exact ⟨type, declared, rfl, rfl⟩

/-! ### Handles that lead somewhere -/

theorem position_lt_of_type? {id : TypeId} {type : TypeDecl}
    (declared : module.type? id = some type) : id.position < module.types.size :=
  (Array.getElem?_eq_some_iff.mp declared).1

theorem position_lt_of_routine? {id : RoutineId} {routine : RoutineDecl}
    (declared : module.routine? id = some routine) : id.position < module.routines.size :=
  (Array.getElem?_eq_some_iff.mp declared).1

theorem mem_typeIds {id : TypeId} : id ∈ module.typeIds ↔ id.position < module.types.size := by
  constructor
  · intro listed
    rcases List.mem_map.mp listed with ⟨position, inside, rfl⟩
    have below : position < module.types.size := List.mem_range.mp inside
    simp only [TypeId.ofPosition, TypeId.position, UInt32.toNat_ofNat']
    exact Nat.lt_of_le_of_lt (Nat.mod_le _ _) below
  · intro inside
    exact List.mem_map.mpr ⟨id.position, List.mem_range.mpr inside, id.ofPosition_position⟩

theorem mem_fieldIds {id : FieldId} : id ∈ module.fieldIds ↔ id.position < module.fields.size := by
  constructor
  · intro listed
    rcases List.mem_map.mp listed with ⟨position, inside, rfl⟩
    have below : position < module.fields.size := List.mem_range.mp inside
    simp only [FieldId.ofPosition, FieldId.position, UInt32.toNat_ofNat']
    exact Nat.lt_of_le_of_lt (Nat.mod_le _ _) below
  · intro inside
    exact List.mem_map.mpr ⟨id.position, List.mem_range.mpr inside, id.ofPosition_position⟩

theorem mem_routineIds {id : RoutineId} :
    id ∈ module.routineIds ↔ id.position < module.routines.size := by
  constructor
  · intro listed
    rcases List.mem_map.mp listed with ⟨position, inside, rfl⟩
    have below : position < module.routines.size := List.mem_range.mp inside
    simp only [RoutineId.ofPosition, RoutineId.position, UInt32.toNat_ofNat']
    exact Nat.lt_of_le_of_lt (Nat.mod_le _ _) below
  · intro inside
    exact List.mem_map.mpr ⟨id.position, List.mem_range.mpr inside, id.ofPosition_position⟩

/-! ### Putting a declaration in the place of another -/

@[simp]
theorem type?_setType (module : Module) (id other : TypeId) (type : TypeDecl) :
    (module.setType id type).type? other =
      if other = id then (module.type? id).map fun _ => type else module.type? other := by
  simp only [type?, setType, Array.getElem?_setIfInBounds, TypeId.position_inj, @eq_comm _ id]
  split
  · by_cases inside : id.position < module.types.size <;> simp [inside]
  · rfl

/-- A module in which a routine was declared anew. -/
structure RoutineChanged (module after : Module) (id : RoutineId) (routine : RoutineDecl) :
    Prop where
  routine?_eq : ∀ other, after.routine? other =
    if other = id then some routine else module.routine? other
  routineCount : after.routines.size = module.routines.size
  types_eq : after.types = module.types
  fields_eq : after.fields = module.fields
  topLevel_eq : after.topLevel = module.topLevel

theorem setRoutine_changed {id : RoutineId} {before : RoutineDecl}
    (declared : module.routine? id = some before) (routine : RoutineDecl) :
    RoutineChanged module (module.setRoutine id routine) id routine where
  routine?_eq := by
    intro other
    have inside := position_lt_of_routine? declared
    simp only [routine?, setRoutine, Array.getElem?_setIfInBounds, RoutineId.position_inj,
      @eq_comm _ id, inside, if_true]
  routineCount := Array.size_setIfInBounds
  types_eq := rfl
  fields_eq := rfl
  topLevel_eq := rfl

/-! ### Adding declarations -/

/-- A module to which a type was added. -/
structure TypeAdded (module after : Module) (type : TypeDecl) (id : TypeId) : Prop where
  position_eq : id.position = module.types.size
  type?_eq : ∀ other, after.type? other =
    if other = id then
      some { type with outer := none, nested := [], fields := [], routines := [] }
    else module.type? other
  typeCount : after.types.size = module.types.size + 1
  fields_eq : after.fields = module.fields
  routines_eq : after.routines = module.routines
  topLevel_eq : after.topLevel = module.topLevel ++ [id]

theorem addType_added (type : TypeDecl) (room : module.types.size < tableLimit) :
    TypeAdded module (module.addType type).1 type (module.addType type).2 where
  position_eq := TypeId.position_ofPosition room
  type?_eq := by
    intro other
    have place : (TypeId.ofPosition module.types.size).position = module.types.size :=
      TypeId.position_ofPosition room
    have same : other.position = module.types.size ↔ other = TypeId.ofPosition module.types.size := by
      rw [← TypeId.position_inj, place]
    simp only [type?, addType, Array.getElem?_push, same]
    rfl
  typeCount := Array.size_push _
  fields_eq := rfl
  routines_eq := rfl
  topLevel_eq := rfl

/-- A module to which a field was added. -/
structure FieldAdded (module after : Module) (owner : TypeId) (field : FieldDecl) (id : FieldId) :
    Prop where
  position_eq : id.position = module.fields.size
  type?_eq : ∀ other, after.type? other =
    if other = owner then
      (module.type? owner).map fun type => { type with fields := type.fields ++ [id] }
    else module.type? other
  typeCount : after.types.size = module.types.size
  field?_eq : ∀ other, after.field? other =
    if other = id then some { field with owner } else module.field? other
  fieldCount : after.fields.size = module.fields.size + 1
  routines_eq : after.routines = module.routines
  topLevel_eq : after.topLevel = module.topLevel

theorem addField_added {owner : TypeId} {field : FieldDecl} {id : FieldId}
    (added : module.addField owner field = .ok (after, id))
    (room : module.fields.size < tableLimit) : FieldAdded module after owner field id := by
  have place : (FieldId.ofPosition module.fields.size).position = module.fields.size :=
    FieldId.position_ofPosition room
  rcases addField_ok added with ⟨type, declared, _, rfl, rfl⟩
  refine ⟨place, fun other => ?_, ?_, fun other => ?_, Array.size_push _, rfl, rfl⟩
  · have lookup := type?_setType module owner other
      { type with fields := type.fields ++ [FieldId.ofPosition module.fields.size] }
    rw [declared] at lookup ⊢
    exact lookup
  · simp [setType]
  · have same : other.position = module.fields.size ↔
        other = FieldId.ofPosition module.fields.size := by
      rw [← FieldId.position_inj, place]
    simp only [field?, Array.getElem?_push, same]

theorem addField_succeeds {owner : TypeId} {type : TypeDecl} (field : FieldDecl)
    (declared : module.type? owner = some type)
    (absent : module.firstField (·.name = field.name) type.fields = .ok none)
    (room : module.fields.size < tableLimit) :
    ∃ after id, module.addField owner field = .ok (after, id) ∧
      FieldAdded module after owner field id ∧
      after.type? owner = some { type with fields := type.fields ++ [id] } := by
  have succeeds : ∃ after id, module.addField owner field = .ok (after, id) := by
    simp [addField, declared, absent]
  rcases succeeds with ⟨after, id, succeeds⟩
  have added := addField_added succeeds room
  have grown := added.type?_eq owner
  rw [if_pos rfl, declared] at grown
  exact ⟨after, id, succeeds, added, grown⟩

/-- A module to which a routine was added. -/
structure RoutineAdded (module after : Module) (owner : TypeId) (routine : RoutineDecl)
    (id : RoutineId) : Prop where
  position_eq : id.position = module.routines.size
  type?_eq : ∀ other, after.type? other =
    if other = owner then
      (module.type? owner).map fun type => { type with routines := type.routines ++ [id] }
    else module.type? other
  typeCount : after.types.size = module.types.size
  routine?_eq : ∀ other, after.routine? other =
    if other = id then some { routine with owner } else module.routine? other
  routineCount : after.routines.size = module.routines.size + 1
  fields_eq : after.fields = module.fields
  topLevel_eq : after.topLevel = module.topLevel

theorem addRoutine_added {owner : TypeId} {routine : RoutineDecl} {id : RoutineId}
    (added : module.addRoutine owner routine = .ok (after, id))
    (room : module.routines.size < tableLimit) : RoutineAdded module after owner routine id := by
  have place : (RoutineId.ofPosition module.routines.size).position = module.routines.size :=
    RoutineId.position_ofPosition room
  rcases addRoutine_ok added with ⟨type, declared, rfl, rfl⟩
  refine ⟨place, fun other => ?_, ?_, fun other => ?_, Array.size_push _, rfl, rfl⟩
  · have lookup := type?_setType module owner other
      { type with routines := type.routines ++ [RoutineId.ofPosition module.routines.size] }
    rw [declared] at lookup ⊢
    exact lookup
  · simp [setType]
  · have same : other.position = module.routines.size ↔
        other = RoutineId.ofPosition module.routines.size := by
      rw [← RoutineId.position_inj, place]
    simp only [routine?, Array.getElem?_push, same]

theorem addRoutine_succeeds {owner : TypeId} {type : TypeDecl} (routine : RoutineDecl)
    (declared : module.type? owner = some type) (room : module.routines.size < tableLimit) :
    ∃ after id, module.addRoutine owner routine = .ok (after, id) ∧
      RoutineAdded module after owner routine id ∧
      after.type? owner = some { type with routines := type.routines ++ [id] } := by
  have succeeds : ∃ after id, module.addRoutine owner routine = .ok (after, id) := by
    simp [addRoutine, declared]
  rcases succeeds with ⟨after, id, succeeds⟩
  have added := addRoutine_added succeeds room
  have grown := added.type?_eq owner
  rw [if_pos rfl, declared] at grown
  exact ⟨after, id, succeeds, added, grown⟩

end Module

end Rekindle
