import Rekindle.Proofs.Indexing.Access
import Rekindle.Reload.Hook

/-!
# Building a module by position

Adding a member puts it at the end of its table and then goes back to the type that declares it,
whose entry it changes. Before a field is added, the fields the type lists are looked up; to find an
initializer, the routines are. So the lists of members must not lead out of the tables. A new member
has its place inside its table, also where its number is cut off because the table has more entries
than there are handles, and what a table has it keeps.
-/

namespace Rekindle

theorem FieldId.position_ofPosition_le (position : Nat) :
    (FieldId.ofPosition position).position ≤ position := by
  simp only [FieldId.ofPosition, FieldId.position, UInt32.toNat_ofNat']
  exact Nat.mod_le _ _

theorem RoutineId.position_ofPosition_le (position : Nat) :
    (RoutineId.ofPosition position).position ≤ position := by
  simp only [RoutineId.ofPosition, RoutineId.position, UInt32.toNat_ofNat']
  exact Nat.mod_le _ _

namespace Indexing

open Fallible Rekindle.Module Reload

variable {ε : Type} {module after : Module}

/-! ### What stays inside -/

/-- The members that types list are in the tables. -/
structure MembersInside (module : Module) : Prop where
  fields : ∀ id type, module.type? id = some type →
    ∀ field ∈ type.fields, field.position < module.fields.size
  routines : ∀ id type, module.type? id = some type →
    ∀ routine ∈ type.routines, routine.position < module.routines.size

/-- A module that was built on from another. -/
structure BuiltOn (module after : Module) : Prop where
  members : MembersInside after
  typeCount : module.types.size ≤ after.types.size
  routineCount : module.routines.size ≤ after.routines.size

theorem BuiltOn.trans {middle : Module} (first : BuiltOn module middle)
    (second : BuiltOn middle after) : BuiltOn module after where
  members := second.members
  typeCount := Nat.le_trans first.typeCount second.typeCount
  routineCount := Nat.le_trans first.routineCount second.routineCount

theorem MembersInside.builtOn (members : MembersInside module) : BuiltOn module module :=
  ⟨members, Nat.le_refl _, Nat.le_refl _⟩

/-- What a lookup finds after an entry was changed is the changed entry or was there before. -/
theorem type?_setType_cases {id other : TypeId} {type found : TypeDecl}
    (declared : (module.setType id type).type? other = some found) :
    other = id ∧ found = type ∨ module.type? other = some found := by
  rw [type?_setType] at declared
  split at declared
  · rename_i same
    rcases Option.map_eq_some_iff.mp declared with ⟨_, _, rfl⟩
    exact .inl ⟨same, rfl⟩
  · exact .inr declared

/-! ### Looking through lists of members -/

def firstField (module : Module) (accepts : FieldDecl → Bool) :
    List FieldId → Run ε (Option FieldId)
  | [] => .ok none
  | id :: others => do
    let field ← fieldAt module id
    if accepts field then return some id else firstField module accepts others

def firstRoutine (module : Module) (accepts : RoutineDecl → Bool) :
    List RoutineId → Run ε (Option RoutineId)
  | [] => .ok none
  | id :: others => do
    let routine ← routineAt module id
    if accepts routine then return some id else firstRoutine module accepts others

def initializer (module : Module) (id : TypeId) : Run ε (Option RoutineId) :=
  match module.type? id with
  | none => .ok none
  | some type => firstRoutine module (·.isInitializer) type.routines

theorem firstField_inside (accepts : FieldDecl → Bool) {ids : List FieldId}
    (inside : ∀ id ∈ ids, id.position < module.fields.size) :
    ∃ found, module.firstField accepts ids = .ok found ∧
      (firstField module accepts ids : Run ε (Option FieldId)) = .ok found := by
  induction ids with
  | nil => exact ⟨none, rfl, rfl⟩
  | cons id others ih =>
      obtain ⟨field, declared⟩ : ∃ field, module.field? id = some field :=
        ⟨_, Array.getElem?_eq_getElem (inside id List.mem_cons_self)⟩
      rcases ih fun other listed => inside other (List.mem_cons_of_mem id listed) with
        ⟨found, expected, same⟩
      rw [Module.firstField, firstField, declared, fieldAt_of_some declared, ok_bind]
      by_cases accepted : accepts field = true
      · exact ⟨some id, by simp [accepted], by simp [accepted]⟩
      · exact ⟨found, by simpa [accepted] using expected, by simpa [accepted] using same⟩

theorem firstRoutine_inside {accepts : RoutineDecl → Bool} {ids : List RoutineId}
    (inside : ∀ id ∈ ids, id.position < module.routines.size) :
    ∃ found, module.firstRoutine accepts ids = .ok found ∧
      (firstRoutine module accepts ids : Run ε (Option RoutineId)) = .ok found ∧
      ∀ id, found = some id → id.position < module.routines.size := by
  induction ids with
  | nil => exact ⟨none, rfl, rfl, nofun⟩
  | cons id others ih =>
      have here := inside id List.mem_cons_self
      obtain ⟨routine, declared⟩ : ∃ routine, module.routine? id = some routine :=
        ⟨_, Array.getElem?_eq_getElem here⟩
      rcases ih fun other listed => inside other (List.mem_cons_of_mem id listed) with
        ⟨found, expected, same, foundInside⟩
      rw [Module.firstRoutine, firstRoutine, declared, routineAt_of_some declared, ok_bind]
      by_cases accepted : accepts routine = true
      · refine ⟨some id, by simp [accepted], by simp [accepted], ?_⟩
        rintro _ ⟨⟩
        exact here
      · exact ⟨found, by simpa [accepted] using expected, by simpa [accepted] using same,
          foundInside⟩

theorem initializer_inside (members : MembersInside module) (id : TypeId) :
    ∃ found, module.initializer id = .ok found ∧
      (initializer module id : Run ε (Option RoutineId)) = .ok found ∧
      ∀ initializer, found = some initializer → initializer.position < module.routines.size := by
  unfold Module.initializer initializer
  rcases declared : module.type? id with _ | type
  · exact ⟨none, rfl, rfl, nofun⟩
  · exact firstRoutine_inside (members.routines id type declared)

/-! ### Adding declarations -/

/-- The types of a module after the entry of one of them is changed. -/
def editType (module : Module) (id : TypeId) (edit : TypeDecl → TypeDecl) :
    Run ε (Array TypeDecl) := do
  let type ← typeAt module id
  put module.types id.position (edit type)

def addField (module : Module) (owner : TypeId) (field : FieldDecl) :
    Run ModuleFault (Module × FieldId) :=
  match module.type? owner with
  | none => throw (.reported (.unknownType owner))
  | some type => do
    match ← firstField module (·.name = field.name) type.fields with
    | some _ => throw (.reported (.duplicateMember (module.fullName owner) field.name))
    | none =>
      let id := FieldId.ofPosition module.fields.size
      let types ← editType module owner fun type => { type with fields := type.fields ++ [id] }
      return ({ module with types, fields := module.fields.push { field with owner } }, id)

def addRoutine (module : Module) (owner : TypeId) (routine : RoutineDecl) :
    Run ModuleFault (Module × RoutineId) :=
  match module.type? owner with
  | none => throw (.reported (.unknownType owner))
  | some _ => do
    let id := RoutineId.ofPosition module.routines.size
    let types ← editType module owner fun type => { type with routines := type.routines ++ [id] }
    return ({ module with types, routines := module.routines.push { routine with owner } }, id)

theorem editType_of_some {id : TypeId} {type : TypeDecl} (declared : module.type? id = some type)
    (edit : TypeDecl → TypeDecl) :
    (editType module id edit : Run ε (Array TypeDecl)) =
      .ok (module.setType id (edit type)).types := by
  unfold editType
  rw [typeAt_of_some declared, ok_bind, put_of_lt (position_lt_of_type? declared)]
  rfl

theorem addType_builtOn (members : MembersInside module) (type : TypeDecl) :
    BuiltOn module (module.addType type).1 := by
  have lookup : ∀ id found, (module.addType type).1.type? id = some found →
      module.type? id = some found ∨ found.fields = [] ∧ found.routines = [] := by
    intro id found declared
    simp only [type?, addType, Array.getElem?_push] at declared
    split at declared
    · cases declared
      exact .inr ⟨rfl, rfl⟩
    · exact .inl declared
  refine ⟨⟨?_, ?_⟩, ?_, Nat.le_refl _⟩
  · intro id found declared field listed
    rcases lookup id found declared with before | ⟨none, _⟩
    · exact members.fields id found before field listed
    · rw [none] at listed
      cases listed
  · intro id found declared routine listed
    rcases lookup id found declared with before | ⟨_, none⟩
    · exact members.routines id found before routine listed
    · rw [none] at listed
      cases listed
  · simp [addType]

theorem addField_matches (members : MembersInside module) (owner : TypeId) (field : FieldDecl) :
    Matches (addField module owner field) (module.addField owner field)
      fun added => BuiltOn module added.1 := by
  unfold addField Module.addField
  rcases declared : module.type? owner with _ | type
  · exact .error _
  · rcases firstField_inside (ε := ModuleFault) (·.name = field.name)
        (members.fields owner type declared) with ⟨found, expected, same⟩
    dsimp only
    rw [expected, same, ok_bind]
    rcases found with _ | other
    · dsimp only
      rw [editType_of_some declared, ok_bind]
      refine .ok ⟨⟨?_, ?_⟩, by simp [setType], Nat.le_refl _⟩
      · intro id later declaredLater listed isListed
        simp only [Array.size_push]
        rcases type?_setType_cases declaredLater with ⟨rfl, rfl⟩ | before
        · rcases List.mem_append.mp isListed with old | new
          · exact Nat.lt_succ_of_lt (members.fields id type declared listed old)
          · rw [List.mem_singleton.mp new]
            exact Nat.lt_succ_of_le (FieldId.position_ofPosition_le _)
        · exact Nat.lt_succ_of_lt (members.fields id later before listed isListed)
      · intro id later declaredLater listed isListed
        rcases type?_setType_cases declaredLater with ⟨rfl, rfl⟩ | before
        · exact members.routines id type declared listed isListed
        · exact members.routines id later before listed isListed
    · exact .error _

theorem addRoutine_matches (members : MembersInside module) (owner : TypeId)
    (routine : RoutineDecl) :
    Matches (addRoutine module owner routine) (module.addRoutine owner routine)
      fun added => BuiltOn module added.1 ∧ added.2.position < added.1.routines.size := by
  unfold addRoutine Module.addRoutine
  rcases declared : module.type? owner with _ | type
  · exact .error _
  · dsimp only
    rw [editType_of_some declared, ok_bind]
    have new : (RoutineId.ofPosition module.routines.size).position <
        (module.routines.push { routine with owner }).size := by
      rw [Array.size_push]
      exact Nat.lt_succ_of_le (RoutineId.position_ofPosition_le _)
    refine .ok ⟨⟨⟨?_, ?_⟩, by simp [setType], by simp⟩, new⟩
    · intro id later declaredLater listed isListed
      rcases type?_setType_cases declaredLater with ⟨rfl, rfl⟩ | before
      · exact members.fields id type declared listed isListed
      · exact members.fields id later before listed isListed
    · intro id later declaredLater listed isListed
      have wider : module.routines.size <
          (module.routines.push { routine with owner }).size := by simp
      rcases type?_setType_cases declaredLater with ⟨rfl, rfl⟩ | before
      · rcases List.mem_append.mp isListed with old | added
        · exact Nat.lt_trans (members.routines id type declared listed old) wider
        · rw [List.mem_singleton.mp added]
          exact new
      · exact Nat.lt_trans (members.routines id later before listed isListed) wider

end Indexing

end Rekindle
