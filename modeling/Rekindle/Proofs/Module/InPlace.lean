import Rekindle.Proofs.Fallible
import Rekindle.Proofs.Module.Extending

/-!
# Editing in place

A module is edited where it stands: a declaration is put at the end of its table first, and then the
list that names it grows. An edit in place can fail with the module half changed. The edits here
check what they need before they touch anything, so they do to a module what the edits do that
answer with a new one, and one that fails has changed nothing.
-/

namespace Rekindle.Module

/-- A computation that changes a module in place and may fail on the way. -/
abbrev Change := ExceptT ModuleFault (StateM Module)

/-- An entry that an edit has made. -/
inductive Entry where
  | type (id : TypeId)
  | field (id : FieldId)
  | routine (id : RoutineId)
deriving DecidableEq, Repr

/-- Something to declare. What the declaration itself says about where it belongs is ignored. -/
inductive Edit where
  | addType (type : TypeDecl)
  | addNestedType (outer : TypeId) (type : TypeDecl)
  | addField (owner : TypeId) (field : FieldDecl)
  | addRoutine (owner : TypeId) (routine : RoutineDecl)
deriving Repr

namespace Change

variable {α : Type}

/-- What a change answers and the module it leaves. -/
def outcome (change : Change α) (module : Module) : Except ModuleFault α × Module :=
  StateT.run (ExceptT.run change) module

def typeAt (id : TypeId) : Change TypeDecl := do
  match (← get).type? id with
  | some type => return type
  | none => throw (.unknownType id)

def alterType (id : TypeId) (alter : TypeDecl → TypeDecl) : Change Unit :=
  modify fun module => { module with types := module.types.modify id.position alter }

def pushType (outer : Option TypeId) (type : TypeDecl) : Change TypeId := do
  let id := TypeId.ofPosition (← get).types.size
  let fresh := { type with outer, nested := [], fields := [], routines := [] }
  modify fun module => { module with types := module.types.push fresh }
  return id

def insertType (type : TypeDecl) : Change TypeId := do
  let id ← pushType none type
  modify fun module => { module with topLevel := module.topLevel ++ [id] }
  return id

def insertNestedType (outer : TypeId) (type : TypeDecl) : Change TypeId := do
  let _ ← typeAt outer
  let id ← pushType (some outer) type
  alterType outer fun around => { around with nested := around.nested ++ [id] }
  return id

def insertField (owner : TypeId) (field : FieldDecl) : Change FieldId := do
  let type ← typeAt owner
  match (← get).firstField (·.name = field.name) type.fields with
  | .error handle => throw (.dangling handle)
  | .ok (some _) => throw (.duplicateMember ((← get).fullName owner) field.name)
  | .ok none =>
    let id := FieldId.ofPosition (← get).fields.size
    modify fun module => { module with fields := module.fields.push { field with owner } }
    alterType owner fun type => { type with fields := type.fields ++ [id] }
    return id

def insertRoutine (owner : TypeId) (routine : RoutineDecl) : Change RoutineId := do
  let _ ← typeAt owner
  let id := RoutineId.ofPosition (← get).routines.size
  modify fun module => { module with routines := module.routines.push { routine with owner } }
  alterType owner fun type => { type with routines := type.routines ++ [id] }
  return id

end Change

namespace Edit

/-- Makes an edit in place. -/
def perform : Edit → Change Entry
  | .addType type => return .type (← Change.insertType type)
  | .addNestedType outer type => return .type (← Change.insertNestedType outer type)
  | .addField owner field => return .field (← Change.insertField owner field)
  | .addRoutine owner routine => return .routine (← Change.insertRoutine owner routine)

/-- Makes an edit of a module that stays as it is. -/
def apply (module : Module) : Edit → Except ModuleFault (Module × Entry)
  | .addType type => .ok ((module.addType type).1, .type (module.addType type).2)
  | .addNestedType outer type => (module.addNestedType outer type).map fun (after, id) =>
    (after, .type id)
  | .addField owner field => (module.addField owner field).map fun (after, id) =>
    (after, .field id)
  | .addRoutine owner routine => (module.addRoutine owner routine).map fun (after, id) =>
    (after, .routine id)

/-- The module that an edit in place leaves, which may have failed. -/
def leaves (edit : Edit) (module : Module) : Module := (edit.perform.outcome module).2

/-- What an entry was made for, in a module that may have grown since. -/
def Denoted (module : Module) : Edit → Entry → Prop
  | .addType type, .type id => ∃ grown, module.type? id = some grown ∧
    Grown { type with outer := none, nested := [], fields := [], routines := [] } grown
  | .addNestedType outer type, .type id => ∃ grown, module.type? id = some grown ∧
    Grown { type with outer := some outer, nested := [], fields := [], routines := [] } grown
  | .addField owner field, .field id => module.field? id = some { field with owner }
  | .addRoutine owner routine, .routine id => module.routine? id = some { routine with owner }
  | _, _ => False

end Edit

/-- An entry that leads nowhere in a module. -/
def Entry.New (module : Module) : Entry → Prop
  | .type id => module.type? id = none
  | .field id => module.field? id = none
  | .routine id => module.routine? id = none

/-- The module after edits in place, some of which may have failed. -/
def build (module : Module) (edits : List Edit) : Module :=
  edits.foldl (fun module edit => edit.leaves module) module

theorem build_append (module : Module) (first second : List Edit) :
    module.build (first ++ second) = (module.build first).build second :=
  List.foldl_append

/-! ### The two ways agree -/

section Arrays

variable {types : Array TypeDecl} {position : Nat} {type : TypeDecl}

theorem modify_eq_set (declared : types[position]? = some type) (alter : TypeDecl → TypeDecl) :
    types.modify position alter = types.setIfInBounds position (alter type) := by
  have inside : position < types.size := (Array.getElem?_eq_some_iff.mp declared).1
  apply Array.ext_getElem?
  intro other
  rw [Array.getElem?_modify, Array.getElem?_setIfInBounds]
  split
  · next same =>
      subst same
      rw [declared, Option.map_some]
  · rfl

theorem modify_push (declared : types[position]? = some type) (alter : TypeDecl → TypeDecl)
    (fresh : TypeDecl) :
    (types.push fresh).modify position alter =
      (types.setIfInBounds position (alter type)).push fresh := by
  have inside : position < types.size := (Array.getElem?_eq_some_iff.mp declared).1
  have kept : (types.push fresh)[position]? = some type := by
    rw [Array.getElem?_push, if_neg (Nat.ne_of_lt inside), declared]
  rw [modify_eq_set kept]
  apply Array.ext_getElem?
  intro other
  simp only [Array.getElem?_setIfInBounds, Array.getElem?_push, Array.size_push,
    Array.size_setIfInBounds]
  by_cases last : other = types.size
  · simp [last, Nat.ne_of_lt inside]
  · simp [last, inside, Nat.lt_succ_of_lt inside]

end Arrays

namespace Change

variable {α : Type}

/-- Changes of a module are computations in place like any other. -/
theorem outcome_eq (change : Change α) (module : Module) :
    change.outcome module = Fallible.outcome change module := rfl

@[simp]
theorem outcome_typeAt (id : TypeId) (module : Module) :
    Fallible.outcome (typeAt id) module = match module.type? id with
      | some type => (.ok type, module)
      | none => (.error (.unknownType id), module) := by
  rcases declared : module.type? id with _ | type <;> simp [typeAt, declared]

/-- What a change amounts to that answers with a new module. -/
def settled (module : Module) : Except ModuleFault (Module × α) → Except ModuleFault α × Module
  | .ok (after, value) => (.ok value, after)
  | .error fault => (.error fault, module)

theorem outcome_insertNestedType (outer : TypeId) (type : TypeDecl) (module : Module) :
    Fallible.outcome (insertNestedType outer type) module =
      settled module (module.addNestedType outer type) := by
  rcases declared : module.type? outer with _ | around
  · simp [insertNestedType, addNestedType, settled, declared]
  · have grown := modify_push declared fun around =>
      { around with nested := around.nested ++ [TypeId.ofPosition module.types.size] }
    simp [insertNestedType, pushType, alterType, addNestedType, settled, setType, declared, grown]

theorem outcome_insertField (owner : TypeId) (field : FieldDecl) (module : Module) :
    Fallible.outcome (insertField owner field) module =
      settled module (module.addField owner field) := by
  rcases declared : module.type? owner with _ | type
  · simp [insertField, addField, settled, declared]
  · rcases found : module.firstField (·.name = field.name) type.fields with handle | _ | id
    · simp [insertField, addField, settled, declared, found]
    · have grown := modify_eq_set declared fun type =>
        { type with fields := type.fields ++ [FieldId.ofPosition module.fields.size] }
      simp [insertField, alterType, addField, settled, setType, declared, found, grown]
    · simp [insertField, addField, settled, declared, found]

theorem outcome_insertRoutine (owner : TypeId) (routine : RoutineDecl) (module : Module) :
    Fallible.outcome (insertRoutine owner routine) module =
      settled module (module.addRoutine owner routine) := by
  rcases declared : module.type? owner with _ | type
  · simp [insertRoutine, addRoutine, settled, declared]
  · have grown := modify_eq_set declared fun type =>
      { type with routines := type.routines ++ [RoutineId.ofPosition module.routines.size] }
    simp [insertRoutine, alterType, addRoutine, settled, setType, declared, grown]

end Change

open Change in
/-- An edit in place does what the edit does that answers with a new module, and leaves the module
alone if it fails. -/
theorem Edit.outcome_perform (edit : Edit) (module : Module) :
    edit.perform.outcome module = settled module (edit.apply module) := by
  cases edit with
  | addType type => rfl
  | addNestedType outer type =>
      simp only [outcome_eq, perform, Edit.apply, Fallible.outcome_bind, outcome_insertNestedType]
      rcases module.addNestedType outer type with fault | ⟨after, id⟩ <;> rfl
  | addField owner field =>
      simp only [outcome_eq, perform, Edit.apply, Fallible.outcome_bind, outcome_insertField]
      rcases module.addField owner field with fault | ⟨after, id⟩ <;> rfl
  | addRoutine owner routine =>
      simp only [outcome_eq, perform, Edit.apply, Fallible.outcome_bind, outcome_insertRoutine]
      rcases module.addRoutine owner routine with fault | ⟨after, id⟩ <;> rfl

end Rekindle.Module
