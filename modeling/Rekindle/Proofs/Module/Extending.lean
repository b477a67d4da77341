import Rekindle.Proofs.Module.Tables

/-!
# Modules that were added to

Declaring more keeps every entry of a module where it is: fields and routines stay what they are,
and types keep everything but their lists of members and of nested types, which grow at their ends.
None of this asks for room, since it is about handles that lead somewhere already.
-/

namespace Rekindle.Module

/-- A type to which members and nested types were added. -/
def Grown (type grown : TypeDecl) : Prop :=
  ∃ nested fields routines, grown =
    { type with
        nested := type.nested ++ nested
        fields := type.fields ++ fields
        routines := type.routines ++ routines }

/-- What a module still has after more was declared. -/
structure Extends (module after : Module) : Prop where
  types : ∀ id type, module.type? id = some type →
    ∃ grown, after.type? id = some grown ∧ Grown type grown
  fields : ∀ id field, module.field? id = some field → after.field? id = some field
  routines : ∀ id routine, module.routine? id = some routine → after.routine? id = some routine
  topLevel : module.topLevel <+: after.topLevel
  typeCount : module.types.size ≤ after.types.size
  fieldCount : module.fields.size ≤ after.fields.size
  routineCount : module.routines.size ≤ after.routines.size

theorem Grown.refl (type : TypeDecl) : Grown type type :=
  ⟨[], [], [], by simp⟩

theorem Grown.addNested (type : TypeDecl) (id : TypeId) :
    Grown type { type with nested := type.nested ++ [id] } :=
  ⟨[id], [], [], by simp⟩

theorem Grown.addField (type : TypeDecl) (id : FieldId) :
    Grown type { type with fields := type.fields ++ [id] } :=
  ⟨[], [id], [], by simp⟩

theorem Grown.addRoutine (type : TypeDecl) (id : RoutineId) :
    Grown type { type with routines := type.routines ++ [id] } :=
  ⟨[], [], [id], by simp⟩

theorem Grown.trans {type grown last : TypeDecl} (first : Grown type grown)
    (second : Grown grown last) : Grown type last := by
  rcases first with ⟨nested, fields, routines, rfl⟩
  rcases second with ⟨moreNested, moreFields, moreRoutines, rfl⟩
  refine ⟨nested ++ moreNested, fields ++ moreFields, routines ++ moreRoutines, ?_⟩
  simp only [List.append_assoc]

variable {module after last : Module}

theorem Extends.refl (module : Module) : Extends module module where
  types _ type declared := ⟨type, declared, .refl type⟩
  fields _ _ declared := declared
  routines _ _ declared := declared
  topLevel := List.prefix_rfl
  typeCount := Nat.le_refl _
  fieldCount := Nat.le_refl _
  routineCount := Nat.le_refl _

theorem Extends.trans (first : Extends module after) (second : Extends after last) :
    Extends module last where
  types id type declared := by
    rcases first.types id type declared with ⟨grown, kept, more⟩
    rcases second.types id grown kept with ⟨final, keptAgain, evenMore⟩
    exact ⟨final, keptAgain, more.trans evenMore⟩
  fields id field declared := second.fields id field (first.fields id field declared)
  routines id routine declared := second.routines id routine (first.routines id routine declared)
  topLevel := first.topLevel.trans second.topLevel
  typeCount := Nat.le_trans first.typeCount second.typeCount
  fieldCount := Nat.le_trans first.fieldCount second.fieldCount
  routineCount := Nat.le_trans first.routineCount second.routineCount

theorem getElem?_push_of_some {α : Type} {entries : Array α} {position : Nat} {entry : α}
    (present : entries[position]? = some entry) (fresh : α) :
    (entries.push fresh)[position]? = some entry := by
  have inside : position < entries.size := (Array.getElem?_eq_some_iff.mp present).1
  rw [Array.getElem?_push, if_neg (Nat.ne_of_lt inside), present]

/-- Putting a grown type in its place keeps all types but for the growth. -/
theorem setType_types {id : TypeId} {type grown : TypeDecl} (declared : module.type? id = some type)
    (growth : Grown type grown) (other : TypeId) (before : TypeDecl)
    (known : module.type? other = some before) :
    ∃ later, (module.setType id grown).type? other = some later ∧ Grown before later := by
  rw [type?_setType]
  by_cases same : other = id
  · subst same
    rw [declared] at known
    cases known
    exact ⟨grown, by simp [declared], growth⟩
  · exact ⟨before, by simp [same, known], .refl before⟩

theorem addType_extends (type : TypeDecl) : Extends module (module.addType type).1 where
  types _ before known := ⟨before, getElem?_push_of_some known _, .refl before⟩
  fields _ _ known := known
  routines _ _ known := known
  topLevel := List.prefix_append _ _
  typeCount := by simp [addType]
  fieldCount := Nat.le_refl _
  routineCount := Nat.le_refl _

/-- A module to which a type was added that is nested in another. -/
structure NestedTypeAdded (module after : Module) (outer : TypeId) (type : TypeDecl) (id : TypeId) :
    Prop where
  position_eq : id.position = module.types.size
  outer_known : ∃ around, module.type? outer = some around
  type?_eq : ∀ other, after.type? other =
    if other = id then
      some { type with outer := some outer, nested := [], fields := [], routines := [] }
    else if other = outer then
      (module.type? outer).map fun around => { around with nested := around.nested ++ [id] }
    else module.type? other
  fields_eq : after.fields = module.fields
  routines_eq : after.routines = module.routines
  topLevel_eq : after.topLevel = module.topLevel

theorem addNestedType_added {outer id : TypeId} {type : TypeDecl}
    (added : module.addNestedType outer type = .ok (after, id))
    (room : module.types.size < tableLimit) : NestedTypeAdded module after outer type id := by
  have place : (TypeId.ofPosition module.types.size).position = module.types.size :=
    TypeId.position_ofPosition room
  rcases addNestedType_ok added with ⟨around, declared, rfl, rfl⟩
  refine ⟨place, ⟨around, declared⟩, ?_, rfl, rfl, rfl⟩
  intro other
  have lookup := type?_setType module outer other
    { around with nested := around.nested ++ [TypeId.ofPosition module.types.size] }
  have same : other.position = module.types.size ↔
      other = TypeId.ofPosition module.types.size := by
    rw [← TypeId.position_inj, place]
  have count : (module.setType outer
      { around with nested := around.nested ++ [TypeId.ofPosition module.types.size] }).types.size
      = module.types.size := Array.size_setIfInBounds
  rw [declared] at lookup ⊢
  simp only [type?] at lookup
  simp only [type?, Array.getElem?_push, count, same, lookup]
  rfl

theorem addNestedType_extends {outer id : TypeId} {type : TypeDecl}
    (added : module.addNestedType outer type = .ok (after, id)) : Extends module after := by
  rcases addNestedType_ok added with ⟨around, declared, rfl, rfl⟩
  refine ⟨?_, fun _ _ known => known, fun _ _ known => known, List.prefix_rfl, ?_,
    Nat.le_refl _, Nat.le_refl _⟩
  · intro other before known
    rcases setType_types declared (.addNested around _) other before known with
      ⟨later, kept, growth⟩
    exact ⟨later, getElem?_push_of_some kept _, growth⟩
  · simp [setType]

theorem addField_extends {owner : TypeId} {field : FieldDecl} {id : FieldId}
    (added : module.addField owner field = .ok (after, id)) : Extends module after := by
  rcases addField_ok added with ⟨type, declared, _, rfl, rfl⟩
  refine ⟨?_, ?_, fun _ _ known => known, List.prefix_rfl, ?_, ?_, Nat.le_refl _⟩
  · exact setType_types declared (.addField type _)
  · intro other before known
    exact getElem?_push_of_some known _
  · simp [setType]
  · simp

theorem addRoutine_extends {owner : TypeId} {routine : RoutineDecl} {id : RoutineId}
    (added : module.addRoutine owner routine = .ok (after, id)) : Extends module after := by
  rcases addRoutine_ok added with ⟨type, declared, rfl, rfl⟩
  refine ⟨?_, fun _ _ known => known, ?_, List.prefix_rfl, ?_, Nat.le_refl _, ?_⟩
  · exact setType_types declared (.addRoutine type _)
  · intro other before known
    exact getElem?_push_of_some known _
  · simp [setType]
  · simp

/-! ### Counts -/

theorem addField_typeCount {owner : TypeId} {field : FieldDecl} {id : FieldId}
    (added : module.addField owner field = .ok (after, id)) :
    after.types.size = module.types.size := by
  rcases addField_ok added with ⟨_, _, _, _, rfl⟩
  exact Array.size_setIfInBounds

theorem addRoutine_typeCount {owner : TypeId} {routine : RoutineDecl} {id : RoutineId}
    (added : module.addRoutine owner routine = .ok (after, id)) :
    after.types.size = module.types.size := by
  rcases addRoutine_ok added with ⟨_, _, _, rfl⟩
  exact Array.size_setIfInBounds

theorem addNestedType_typeCount {outer id : TypeId} {type : TypeDecl}
    (added : module.addNestedType outer type = .ok (after, id)) :
    after.types.size = module.types.size + 1 := by
  rcases addNestedType_ok added with ⟨_, _, _, rfl⟩
  simp [setType]

theorem addField_fieldCount {owner : TypeId} {field : FieldDecl} {id : FieldId}
    (added : module.addField owner field = .ok (after, id)) :
    after.fields.size = module.fields.size + 1 := by
  rcases addField_ok added with ⟨_, _, _, _, rfl⟩
  exact Array.size_push _

theorem addRoutine_counts {owner : TypeId} {routine : RoutineDecl} {id : RoutineId}
    (added : module.addRoutine owner routine = .ok (after, id)) :
    after.routines.size = module.routines.size + 1 ∧ ∃ type, module.type? owner = some type := by
  rcases addRoutine_ok added with ⟨type, declared, _, rfl⟩
  exact ⟨Array.size_push _, type, declared⟩

end Rekindle.Module
