import Rekindle.Proofs.Module.Growth
import Rekindle.Proofs.ValueType.Substitution

/-!
# Validity and growth

What makes sense in a module makes sense in every module that has grown from it: no check asks for
the absence of anything. So a module that has grown from a valid one is valid as soon as its new
declarations make sense.
-/

namespace Rekindle.Validity

open Rekindle.Module

variable {module after : Module} {arity : Nat}

/-! ### What keeps making sense -/

theorem TypeFits.grow {type : ValueType} (fits : TypeFits module arity type)
    (grows : Grows module after) : TypeFits after arity type := by
  rcases ValueType.typeFits_iff.mp fits with ⟨below, named⟩
  refine ValueType.typeFits_iff.mpr ⟨below, fun id arguments inside => ?_⟩
  rcases named id arguments inside with ⟨declared, found, count⟩
  rcases grows.types id declared found with ⟨fields, routines, kept⟩
  exact ⟨_, kept, count⟩

theorem TypesFit.grow {types : List ValueType} (fits : TypesFit module arity types)
    (grows : Grows module after) : TypesFit after arity types :=
  typesFit_iff.mpr fun type listed => (typesFit_iff.mp fits type listed).grow grows

theorem BindingFits.grow (grows : Grows module after) {owner : TypeId} {binding : Binding}
    (fits : BindingFits module arity owner binding) : BindingFits after arity owner binding := by
  rcases fits with ⟨declared, found, form, arguments⟩
  rcases grows.types owner declared found with ⟨fields, routines, kept⟩
  exact ⟨_, kept, form, arguments.grow grows⟩

theorem FieldRefFits.grow (grows : Grows module after) {reference : FieldRef}
    (fits : FieldRefFits module arity reference) : FieldRefFits after arity reference := by
  rcases fits with ⟨field, found, storage, binding⟩
  exact ⟨field, grows.fields _ field found, storage, binding.grow grows⟩

theorem RoutineRefFits.grow (grows : Grows module after) {reference : RoutineRef}
    (fits : RoutineRefFits module arity reference) : RoutineRefFits after arity reference := by
  rcases fits with ⟨routine, found, static, hasBody, binding⟩
  rcases grows.routines _ routine found with ⟨body, kept, stays⟩
  exact ⟨_, kept, static, stays hasBody, binding.grow grows⟩

variable {routine : RoutineDecl} {body : Body}

theorem OperandFits.grow (grows : Grows module after) {instruction : Instruction}
    (fits : OperandFits module arity routine body instruction) :
    OperandFits after arity routine body instruction := by
  cases instruction with
  | storeDefault type => exact TypeFits.grow fits grows
  | loadField reference | storeField reference | loadFieldAddress reference =>
      exact FieldRefFits.grow grows fits
  | call reference | loadRoutine reference => exact RoutineRefFits.grow grows fits
  | _ => exact fits

/-- An instruction that makes sense has the same effect on the stack after growth: what it calls
keeps its signature. -/
theorem OperandFits.effect_grow (grows : Grows module after) {instruction : Instruction}
    (fits : OperandFits module arity routine body instruction) :
    pops after instruction = pops module instruction ∧
      pushes after instruction = pushes module instruction := by
  cases instruction with
  | call reference =>
      rcases fits with ⟨callee, found, _⟩
      rcases grows.routines _ callee found with ⟨grown, kept, _⟩
      simp [pops, pushes, found, kept, RoutineDecl.returns]
  | _ => exact ⟨rfl, rfl⟩

theorem Balanced.grow (grows : Grows module after) {heights : Nat → Option Nat}
    (fits : ∀ instruction ∈ body.instructions.toList,
      OperandFits module arity routine body instruction)
    (balanced : Balanced module routine body heights) : Balanced after routine body heights := by
  refine ⟨balanced.entered, ?_⟩
  intro offset height known
  rcases balanced.coherent offset height known with ⟨instruction, found, agrees⟩
  have listed : instruction ∈ body.instructions.toList :=
    Array.mem_toList_iff.mpr (Array.mem_of_getElem? found)
  rcases OperandFits.effect_grow grows (fits instruction listed) with ⟨pops_eq, pushes_eq⟩
  refine ⟨instruction, found, ?_, agrees.returns, ?_⟩
  · rw [pops_eq]
    exact agrees.enough
  · rw [pops_eq, pushes_eq]
    exact agrees.follows

theorem BodyFits.grow (grows : Grows module after) (fits : BodyFits module arity routine body) :
    BodyFits after arity routine body := by
  rcases fits.balanced with ⟨heights, balanced⟩
  refine ⟨?_, ?_, fits.handlers, heights, ?_⟩
  · intro type listed
    exact (fits.locals type listed).grow grows
  · intro instruction listed
    have before := fits.instructions instruction listed
    exact ⟨before.target, before.operand.grow grows⟩
  · apply balanced.grow grows
    intro instruction listed
    exact (fits.instructions instruction listed).operand

theorem RoutineFits.grow (grows : Grows module after) (fits : RoutineFits module routine) :
    RoutineFits after routine := by
  rcases fits with ⟨owner, found, result, parameters, bodies⟩
  rcases grows.types _ owner found with ⟨fields, routines, kept⟩
  refine ⟨_, kept, result.grow grows, ?_, ?_⟩
  · intro parameter listed
    exact (parameters parameter listed).grow grows
  · intro body hasBody
    exact (bodies body hasBody).grow grows

theorem FieldFits.grow (grows : Grows module after) {field : FieldDecl}
    (fits : FieldFits module field) : FieldFits after field := by
  rcases fits with ⟨owner, found, type, literal⟩
  rcases grows.types _ owner found with ⟨fields, routines, kept⟩
  exact ⟨_, kept, type.grow grows, literal⟩

theorem MembersFit.grow (grows : Grows module after) {id : TypeId} {type : TypeDecl}
    (fits : MembersFit module id type) : MembersFit after id type := by
  refine ⟨?_, ?_⟩
  · intro listed isListed
    rcases fits.fields listed isListed with ⟨field, found, owns⟩
    exact ⟨field, grows.fields listed field found, owns⟩
  · intro listed isListed
    rcases fits.routines listed isListed with ⟨declared, found, owns⟩
    rcases grows.routines listed declared found with ⟨body, kept, _⟩
    exact ⟨_, kept, owns⟩

/-- The types of a grown module form a forest if its new types stand at the top level alone. -/
theorem Nested.grow (nested : Nested module) (grows : Grows module after)
    (topLevel : ∀ id, id ∈ after.topLevel ↔ id ∈ module.topLevel ∨
      module.type? id = none ∧ ∃ type, after.type? id = some type)
    (fresh : ∀ id type, module.type? id = none → after.type? id = some type →
      type.outer = none ∧ type.nested = []) : Nested after := by
  refine ⟨?_, ?_, ?_⟩
  · intro id listed
    rcases (topLevel id).mp listed with old | ⟨absent, type, found⟩
    · rcases nested.topLevel id old with ⟨type, found, outer⟩
      rcases grows.types id type found with ⟨fields, routines, kept⟩
      exact ⟨_, kept, outer⟩
    · exact ⟨type, found, (fresh id type absent found).1⟩
  · intro id type found
    rcases before : module.type? id with _ | old
    · rcases fresh id type before found with ⟨outer, noneNested⟩
      refine ⟨?_, ?_, ?_⟩
      · simp [outer]
      · intro _
        exact (topLevel id).mpr (.inr ⟨before, type, found⟩)
      · simp [noneNested]
    · rcases grows.types id old before with ⟨fields, routines, kept⟩
      rw [found] at kept
      cases kept
      have links := nested.links id old before
      refine ⟨?_, ?_, ?_⟩
      · intro outer names
        rcases links.nested_in outer names with ⟨around, declared, listed⟩
        rcases grows.types outer around declared with ⟨aroundFields, aroundRoutines, keptAround⟩
        exact ⟨_, keptAround, listed⟩
      · intro names
        exact (topLevel id).mpr (.inl (links.top_level names))
      · intro inner listed
        rcases links.nested inner listed with ⟨declared, declaredFound, outer⟩
        rcases grows.types inner declared declaredFound with ⟨innerFields, innerRoutines, keptInner⟩
        exact ⟨_, keptInner, outer⟩
  · intro id type found
    rcases before : module.type? id with _ | old
    · have inside := position_lt_of_type? found
      rcases (fresh id type before found) with ⟨outer, _⟩
      rcases count : after.types.size with _ | limit
      · omega
      · simp [outerChain, found, outer]
    · exact grows.outerChain grows.typeCount (nested.chains id old before)

/-! ### Adding and changing routines -/

/-- Every member that a type of the module lists belongs to it. -/
def MembersOwned (module : Module) : Prop :=
  ∀ id type, module.type? id = some type → MembersFit module id type

theorem type?_eq_none_of_added {owner : TypeId} {id : RoutineId}
    (added : RoutineAdded module after owner routine id) {other : TypeId}
    (absent : module.type? other = none) : after.type? other = none := by
  rw [added.type?_eq]
  split
  · rename_i same
    subst same
    simp [absent]
  · exact absent

theorem MembersOwned.routineAdded {owner : TypeId} {id : RoutineId}
    (owned : MembersOwned module) (added : RoutineAdded module after owner routine id) :
    MembersOwned after := by
  intro other type found
  rcases before : module.type? other with _ | old
  · simp [type?_eq_none_of_added added before] at found
  · have members := (owned other old before).grow added.grows
    rw [added.type?_eq] at found
    split at found
    · rename_i same
      subst same
      rw [before] at found
      cases found
      refine ⟨members.fields, ?_⟩
      intro listed isListed
      rcases List.mem_append.mp isListed with early | late
      · exact members.routines listed early
      · cases List.mem_singleton.mp late
        refine ⟨{ routine with owner := other }, ?_, rfl⟩
        rw [added.routine?_eq, if_pos rfl]
    · rw [before] at found
      cases found
      exact members

theorem MembersOwned.routineChanged {id : RoutineId} (owned : MembersOwned module)
    (declared : module.routine? id = some routine)
    (changed : RoutineChanged module after id { routine with body := some body }) :
    MembersOwned after := by
  intro other type found
  rw [type?, changed.types_eq] at found
  exact (owned other type found).grow (changed.grows declared)

theorem Valid.routineAdded {owner : TypeId} {id : RoutineId} (valid : Valid module)
    (added : RoutineAdded module after owner routine id)
    (fits : RoutineFits after { routine with owner }) : Valid after := by
  have grows := added.grows
  refine ⟨?_, MembersOwned.routineAdded valid.members added, ?_, ?_⟩
  · apply valid.nesting.grow grows
    · intro other
      rw [added.topLevel_eq]
      constructor
      · exact .inl
      · rintro (listed | ⟨absent, type, found⟩)
        · exact listed
        · simp [type?_eq_none_of_added added absent] at found
    · intro other type absent found
      simp [type?_eq_none_of_added added absent] at found
  · intro other field found
    rw [field?, added.fields_eq] at found
    exact (valid.fields other field found).grow grows
  · intro other declared found
    rw [added.routine?_eq] at found
    split at found
    · cases found
      exact fits
    · exact (valid.routines other declared found).grow grows

theorem Valid.routineChanged {id : RoutineId} (valid : Valid module)
    (declared : module.routine? id = some routine)
    (changed : RoutineChanged module after id { routine with body := some body })
    (fits : RoutineFits after { routine with body := some body }) : Valid after := by
  have grows := changed.grows declared
  have types (other : TypeId) : after.type? other = module.type? other := by
    rw [type?, type?, changed.types_eq]
  refine ⟨?_, MembersOwned.routineChanged valid.members declared changed, ?_, ?_⟩
  · apply valid.nesting.grow grows
    · intro other
      rw [changed.topLevel_eq, types]
      constructor
      · exact .inl
      · rintro (listed | ⟨absent, type, found⟩)
        · exact listed
        · simp [absent] at found
    · intro other type absent found
      rw [types, absent] at found
      cases found
  · intro other field found
    rw [field?, changed.fields_eq] at found
    exact (valid.fields other field found).grow grows
  · intro other before found
    rw [changed.routine?_eq] at found
    split at found
    · cases found
      exact fits
    · exact (valid.routines other before found).grow grows

end Rekindle.Validity
