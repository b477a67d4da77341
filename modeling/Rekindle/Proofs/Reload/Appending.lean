import Rekindle.Proofs.Reload.Emission

/-!
# Appended routines

Hooking a type adds up to one routine at each of its steps. What is added stands at the end of the
table and of the type's own list, and is not found by who looks for the type's initializer.
-/

namespace Rekindle.Reload

open Validity Rekindle.Module

variable {module after : Module} {owner : TypeId} {routine? : Option RoutineDecl}
  {id? : Option RoutineId}

/-- A module to which at most one routine was added. -/
inductive Appended (module : Module) (owner : TypeId) :
    (after : Module) → Option RoutineDecl → Option RoutineId → Prop where
  | nothing : Appended module owner module none none
  | routine {after : Module} {added : RoutineDecl} {id : RoutineId}
      (addition : RoutineAdded module after owner added id) :
      Appended module owner after (some added) (some id)

namespace Appended

theorem grows (appended : Appended module owner after routine? id?) : Grows module after := by
  cases appended with
  | nothing => exact .refl module
  | routine addition => exact addition.grows

theorem routine?_eq (appended : Appended module owner after routine? id?) (id : RoutineId) :
    after.routine? id =
      if some id = id? then routine?.map fun routine => { routine with owner }
      else module.routine? id := by
  cases appended with
  | nothing => simp
  | routine addition =>
      rw [addition.routine?_eq]
      simp

theorem type?_eq (appended : Appended module owner after routine? id?) (id : TypeId) :
    after.type? id =
      if id = owner then
        (module.type? owner).map fun type => { type with routines := type.routines ++ id?.toList }
      else module.type? id := by
  cases appended with
  | nothing =>
      split
      · rename_i same
        simp [same]
      · rfl
  | routine addition =>
      rw [addition.type?_eq]
      rfl

theorem fields_eq (appended : Appended module owner after routine? id?) :
    after.fields = module.fields := by
  cases appended with
  | nothing => rfl
  | routine addition => exact addition.fields_eq

theorem routineCount (appended : Appended module owner after routine? id?) :
    after.routines.size = module.routines.size + id?.toList.length := by
  cases appended with
  | nothing => rfl
  | routine addition => exact addition.routineCount

theorem routineCount_le (appended : Appended module owner after routine? id?) :
    after.routines.size ≤ module.routines.size + 1 := by
  rw [appended.routineCount]
  exact Nat.add_le_add_left Option.length_toList_le _

theorem position_eq (appended : Appended module owner after routine? id?) {id : RoutineId}
    (added : id? = some id) : id.position = module.routines.size := by
  cases appended with
  | nothing => cases added
  | routine addition =>
      cases added
      exact addition.position_eq

theorem routine?_of_declared (appended : Appended module owner after routine? id?)
    {id : RoutineId} {routine : RoutineDecl} (declared : module.routine? id = some routine) :
    after.routine? id = some routine := by
  rw [appended.routine?_eq, if_neg]
  · exact declared
  · intro same
    have last := appended.position_eq same.symm
    have inside := position_lt_of_routine? declared
    omega

theorem membersOwned (appended : Appended module owner after routine? id?)
    (owned : MembersOwned module) : MembersOwned after := by
  cases appended with
  | nothing => exact owned
  | routine addition => exact owned.routineAdded addition

theorem valid (appended : Appended module owner after routine? id?) (valid : Valid module)
    (fits : ∀ routine, routine? = some routine → RoutineFits after { routine with owner }) :
    Valid after := by
  cases appended with
  | nothing => exact valid
  | routine addition => exact valid.routineAdded addition (fits _ rfl)

end Appended

theorem append_succeeds {type : TypeDecl} (declared : module.type? owner = some type)
    (routine : RoutineDecl) (room : module.routines.size < tableLimit) :
    ∃ after id, module.addRoutine owner routine = .ok (after, id) ∧
      Appended module owner after (some routine) (some id) := by
  rcases addRoutine_succeeds routine declared room with ⟨after, id, succeeds, added, _⟩
  exact ⟨after, id, succeeds, .routine added⟩

/-! ### Initializers -/

variable {accepts : RoutineDecl → Bool}

/-- A search among routines finds the same after growth if it does not look at bodies. -/
theorem firstRoutine_grow (grows : Grows module after)
    (bodiless : ∀ routine body, accepts { routine with body } = accepts routine)
    {ids : List RoutineId} {found? : Option RoutineId}
    (found : module.firstRoutine accepts ids = .ok found?) :
    after.firstRoutine accepts ids = .ok found? := by
  induction ids with
  | nil => exact found
  | cons id others ih =>
      rw [firstRoutine] at found ⊢
      rcases declared : module.routine? id with _ | routine
      · simp [declared] at found
      · rcases grows.routines id routine declared with ⟨body, kept, _⟩
        simp only [declared] at found
        simp only [kept, bodiless]
        split at found
        · rename_i accepted
          rw [if_pos accepted]
          exact found
        · rename_i refused
          rw [if_neg refused]
          exact ih found

theorem firstRoutine_append {first second : List RoutineId} {found? : Option RoutineId}
    (found : module.firstRoutine accepts first = .ok found?)
    (others : module.firstRoutine accepts second = .ok none) :
    module.firstRoutine accepts (first ++ second) = .ok found? := by
  induction first with
  | nil =>
      cases found
      exact others
  | cons id rest ih =>
      rw [firstRoutine] at found
      rw [List.cons_append, firstRoutine]
      rcases declared : module.routine? id with _ | routine
      · simp [declared] at found
      · simp only [declared] at found ⊢
        split at found
        · rename_i accepted
          rw [if_pos accepted]
          exact found
        · rename_i refused
          rw [if_neg refused]
          exact ih found

theorem isInitializer_body (routine : RoutineDecl) (body : Option Body) :
    RoutineDecl.isInitializer { routine with body } = routine.isInitializer := rfl

/-- The initializer of a type that keeps its list of routines stays the same. -/
theorem initializer_grow (grows : Grows module after) {type : TypeDecl}
    (declared : module.type? owner = some type) (kept : after.type? owner = some type)
    {found? : Option RoutineId} (found : module.initializer owner = .ok found?) :
    after.initializer owner = .ok found? := by
  simp only [initializer, declared] at found
  simp only [initializer, kept]
  exact firstRoutine_grow grows isInitializer_body found

/-- The initializer of a type stays the same when another routine is added to the type. -/
theorem Appended.initializer_eq (appended : Appended module owner after routine? id?)
    {type : TypeDecl} (declared : module.type? owner = some type)
    (apart : ∀ routine, routine? = some routine → routine.isInitializer = false)
    {found? : Option RoutineId} (found : module.initializer owner = .ok found?) :
    after.initializer owner = .ok found? := by
  have grows := appended.grows
  have lookup := appended.type?_eq owner
  rw [if_pos rfl, declared] at lookup
  simp only [initializer, declared] at found
  simp only [initializer, lookup, Option.map_some]
  apply firstRoutine_append
  · exact firstRoutine_grow grows isInitializer_body found
  · cases appended with
    | nothing => rfl
    | @routine _ added id addition =>
        have declaredAdded := addition.routine?_eq id
        rw [if_pos rfl] at declaredAdded
        have refused : added.isInitializer = false := apart added rfl
        simp only [Option.toList_some, firstRoutine, declaredAdded]
        rw [if_neg]
        simpa [RoutineDecl.isInitializer] using refused

/-- Where members belong to their types, a type has an initializer or none, and an initializer
belongs to it. -/
theorem initializer_of_owned (owned : MembersOwned module) (owner : TypeId) :
    ∃ found?, module.initializer owner = .ok found? ∧
      ∀ id, found? = some id → ∃ routine, module.routine? id = some routine ∧
        routine.isInitializer = true ∧ routine.owner = owner := by
  rcases declared : module.type? owner with _ | type
  · exact ⟨none, by simp [initializer, declared], nofun⟩
  · have members := (owned owner type declared).routines
    simp only [initializer, declared]
    generalize type.routines = ids at members
    induction ids with
    | nil => exact ⟨none, rfl, nofun⟩
    | cons id others ih =>
        rcases members id List.mem_cons_self with ⟨routine, found, owns⟩
        rw [firstRoutine]
        simp only [found]
        by_cases accepted : routine.isInitializer = true
        · refine ⟨some id, by simp [accepted], ?_⟩
          rintro _ ⟨⟩
          exact ⟨routine, found, accepted, owns⟩
        · rw [if_neg accepted]
          apply ih
          intro other listed
          exact members other (List.mem_cons_of_mem _ listed)

theorem exists_of_initializer {owner : TypeId} {id : RoutineId} (owned : MembersOwned module)
    (found : module.initializer owner = .ok (some id)) :
    ∃ routine, module.routine? id = some routine ∧ routine.isInitializer = true ∧
      routine.owner = owner := by
  rcases initializer_of_owned owned owner with ⟨found?, looked, owns⟩
  rw [found] at looked
  cases looked
  exact owns id rfl

theorem owned_of_initializer {owner : TypeId} {id : RoutineId} {routine : RoutineDecl}
    (owned : MembersOwned module) (found : module.initializer owner = .ok (some id))
    (declared : module.routine? id = some routine) :
    routine.isInitializer = true ∧ routine.owner = owner := by
  rcases exists_of_initializer owned found with ⟨other, otherDeclared, fits⟩
  rw [declared] at otherDeclared
  cases otherDeclared
  exact fits

theorem initializer_of_valid (valid : Valid module) (owner : TypeId) :
    ∃ found?, module.initializer owner = .ok found? ∧
      ∀ id, found? = some id → ∃ routine, module.routine? id = some routine ∧
        routine.isInitializer = true ∧ routine.owner = owner :=
  initializer_of_owned valid.members owner

end Rekindle.Reload
