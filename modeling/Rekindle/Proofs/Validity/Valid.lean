import Rekindle.Proofs.Module.Tables
import Rekindle.Proofs.Validity.Flow
import Rekindle.Validity.Check

/-!
# Valid modules

What the check of a module establishes, without its order and its messages: the types form a forest,
every member is listed by the type it belongs to, everything that is named exists and is named with
the right number of arguments, and every body has heights that agree with its flow of control. A
module passes the check if and only if it is valid.
-/

namespace Rekindle.Validity

open Fallible

variable {module : Module} {context : String} {arity : Nat}

/-! ### Value types and references -/

mutual

/-- A value type that makes sense inside a type of an arity. -/
def TypeFits (module : Module) (arity : Nat) : ValueType → Prop
  | .parameter index => index.toNat < arity
  | .pointer target => TypeFits module arity target
  | .defined type arguments =>
    (∃ declared, module.type? type = some declared ∧ arguments.length = declared.arity) ∧
      TypesFit module arity arguments
  | .void | .bool | .int32 | .int64 | .float64 | .string | .object | .callback | .foreign _ => True

/-- Value types that make sense inside a type of an arity. -/
def TypesFit (module : Module) (arity : Nat) : List ValueType → Prop
  | [] => True
  | type :: types => TypeFits module arity type ∧ TypesFit module arity types

end

theorem typesFit_iff {types : List ValueType} :
    TypesFit module arity types ↔ ∀ type ∈ types, TypeFits module arity type := by
  induction types with
  | nil => simp [TypesFit]
  | cons first others ih => rw [TypesFit, ih, List.forall_mem_cons]

theorem arityOf_eq_ok_iff {id : TypeId} {expected : Nat} :
    arityOf module context id = .ok expected ↔
      ∃ declared, module.type? id = some declared ∧ declared.arity = expected := by
  unfold arityOf
  rcases module.type? id with _ | declared <;> simp

mutual

theorem checkValueType_eq_ok_iff : (type : ValueType) →
    (checkValueType module context arity type = .ok () ↔ TypeFits module arity type)
  | .parameter index => by
      simp only [checkValueType, TypeFits]
      split <;> simp_all
  | .pointer target => by
      simp only [checkValueType, TypeFits]
      exact checkValueType_eq_ok_iff target
  | .defined type arguments => by
      simp only [checkValueType, TypeFits]
      rcases declared : module.type? type with _ | declaration
      · simp [arityOf, declared]
      · by_cases right : arguments.length = declaration.arity
        · simp [arityOf, declared, right, checkValueTypes_eq_ok_iff arguments]
        · simp [arityOf, declared, right]
  | .void | .bool | .int32 | .int64 | .float64 | .string | .object | .callback | .foreign _ => by
      simp [checkValueType, TypeFits]

theorem checkValueTypes_eq_ok_iff : (types : List ValueType) →
    (checkValueTypes module context arity types = .ok () ↔ TypesFit module arity types)
  | [] => by simp [checkValueTypes, TypesFit]
  | type :: types => by
      simp only [checkValueTypes, TypesFit, bind_eq_ok_iff]
      constructor
      · rintro ⟨⟨⟩, first, others⟩
        exact ⟨(checkValueType_eq_ok_iff type).mp first,
          (checkValueTypes_eq_ok_iff types).mp others⟩
      · rintro ⟨first, others⟩
        exact ⟨(), (checkValueType_eq_ok_iff type).mpr first,
          (checkValueTypes_eq_ok_iff types).mpr others⟩

end

/-- A binding of a member of a type that makes sense inside a type of an arity. -/
def BindingFits (module : Module) (arity : Nat) (owner : TypeId) (binding : Binding) : Prop :=
  ∃ declared, module.type? owner = some declared ∧ bindingFits binding declared.arity = true ∧
    TypesFit module arity binding.arguments

theorem checkBinding_eq_ok_iff {member : String} {owner : TypeId} {binding : Binding} :
    checkBinding module context member owner binding arity = .ok () ↔
      BindingFits module arity owner binding := by
  unfold checkBinding BindingFits
  rcases declared : module.type? owner with _ | type
  · simp [arityOf, declared]
  · by_cases right : bindingFits binding type.arity = true
    · simp [arityOf, declared, right, checkValueTypes_eq_ok_iff]
    · simp [arityOf, declared, right]

/-- A reference to a static field with storage. -/
def FieldRefFits (module : Module) (arity : Nat) (reference : FieldRef) : Prop :=
  ∃ field, module.field? reference.field = some field ∧ field.hasStorage = true ∧
    BindingFits module arity field.owner reference.binding

theorem checkFieldRef_eq_ok_iff {reference : FieldRef} :
    checkFieldRef module context arity reference = .ok () ↔
      FieldRefFits module arity reference := by
  unfold checkFieldRef FieldRefFits FieldDecl.hasStorage
  rcases declared : module.field? reference.field with _ | field
  · simp
  · by_cases static : field.isStatic = true
    · by_cases literal : field.isLiteral = true
      · simp [static, literal]
      · simp [static, literal, checkBinding_eq_ok_iff]
    · simp [static]

/-- A reference to a static routine with a body. -/
def RoutineRefFits (module : Module) (arity : Nat) (reference : RoutineRef) : Prop :=
  ∃ routine, module.routine? reference.routine = some routine ∧ routine.isStatic = true ∧
    routine.body.isSome = true ∧ BindingFits module arity routine.owner reference.binding

theorem checkRoutineRef_eq_ok_iff {reference : RoutineRef} :
    checkRoutineRef module context arity reference = .ok () ↔
      RoutineRefFits module arity reference := by
  unfold checkRoutineRef RoutineRefFits
  rcases declared : module.routine? reference.routine with _ | routine
  · simp
  · by_cases static : routine.isStatic = true
    · rcases body : routine.body with _ | body
      · simp [static, body]
      · simp [static, body, checkBinding_eq_ok_iff]
    · simp [static]

/-! ### Bodies -/

/-- An instruction whose operand makes sense in a routine of a type of an arity. -/
def OperandFits (module : Module) (arity : Nat) (routine : RoutineDecl) (body : Body) :
    Instruction → Prop
  | .loadLocal slot | .storeLocal slot => slot.toNat < body.locals.length
  | .loadArgument slot => slot.toNat < routine.parameters.length
  | .storeDefault type => TypeFits module arity type
  | .loadField reference | .storeField reference | .loadFieldAddress reference =>
    FieldRefFits module arity reference
  | .call reference | .loadRoutine reference => RoutineRefFits module arity reference
  | _ => True

/-- An instruction that makes sense in a body. -/
structure InstructionFits (module : Module) (arity : Nat) (routine : RoutineDecl) (body : Body)
    (instruction : Instruction) : Prop where
  target : ∀ target, instruction.target? = some target → target.toNat < body.size
  operand : OperandFits module arity routine body instruction

/-- A body that makes sense for a routine of a type of an arity. -/
structure BodyFits (module : Module) (arity : Nat) (routine : RoutineDecl) (body : Body) : Prop where
  locals : ∀ type ∈ body.locals, TypeFits module arity type
  instructions : ∀ instruction ∈ body.instructions.toList,
    InstructionFits module arity routine body instruction
  handlers : ∀ handler ∈ body.handlers, handlerFits body.size handler = true
  balanced : ∃ heights, Balanced module routine body heights

/-- What an instruction of a body is checked against. -/
def surroundings (module : Module) (context : String) (arity : Nat) (routine : RoutineDecl)
    (body : Body) : Surroundings where
  module
  context
  arity
  localCount := body.locals.length
  argumentCount := routine.parameters.length
  size := body.size

variable {routine : RoutineDecl} {body : Body}

theorem checkOperand_eq_ok_iff {instruction : Instruction} :
    checkOperand (surroundings module context arity routine body) instruction = .ok () ↔
      OperandFits module arity routine body instruction := by
  cases instruction with
  | loadLocal slot | storeLocal slot =>
      by_cases inside : slot.toNat < body.locals.length <;>
        simp [checkOperand, OperandFits, surroundings, inside]
  | loadArgument slot =>
      by_cases inside : slot.toNat < routine.parameters.length <;>
        simp [checkOperand, OperandFits, surroundings, inside]
  | storeDefault type => exact checkValueType_eq_ok_iff type
  | loadField reference | storeField reference | loadFieldAddress reference =>
      exact checkFieldRef_eq_ok_iff
  | call reference | loadRoutine reference => exact checkRoutineRef_eq_ok_iff
  | _ => simp [checkOperand, OperandFits]

theorem checkInstruction_eq_ok_iff {instruction : Instruction} {offset : Nat} :
    checkInstruction (surroundings module context arity routine body) instruction offset = .ok () ↔
      InstructionFits module arity routine body instruction := by
  have operand := @checkOperand_eq_ok_iff module context arity routine body instruction
  unfold checkInstruction
  rcases targets : instruction.target? with _ | target
  · constructor
    · intro passes
      exact ⟨by simp [targets], operand.mp passes⟩
    · intro fits
      exact operand.mpr fits.operand
  · by_cases inside : target.toNat < body.size
    · simp only [surroundings, inside, if_true]
      constructor
      · intro passes
        exact ⟨by simpa [targets] using inside, operand.mp passes⟩
      · intro fits
        exact operand.mpr fits.operand
    · simp only [surroundings, inside, if_false]
      constructor
      · intro passes
        cases passes
      · intro fits
        exact absurd (fits.target target targets) inside

theorem checkHandlers_eq_ok_iff :
    checkHandlers context body = .ok () ↔
      ∀ handler ∈ body.handlers, handlerFits body.size handler = true := by
  refine forM_zipIdx_eq_ok_iff fun handler index => ?_
  by_cases fits : handlerFits body.size handler = true <;> simp [fits]

theorem checkBody_eq_ok_iff :
    checkBody module context arity routine body = .ok () ↔
      BodyFits module arity routine body := by
  have instructions := @forM_zipIdx_eq_ok_iff _ _ body.instructions.toList
    (fun entry => checkInstruction (surroundings module context arity routine body) entry.1 entry.2)
    (InstructionFits module arity routine body) fun _ _ => checkInstruction_eq_ok_iff
  simp only [checkBody, bind_eq_ok_iff]
  constructor
  · rintro ⟨⟨⟩, locals, ⟨⟩, passes, ⟨⟩, handlers, heights, found, _⟩
    refine ⟨?_, instructions.mp passes, checkHandlers_eq_ok_iff.mp handlers, _,
      stackHeights_ok found⟩
    intro type listed
    exact (checkValueType_eq_ok_iff type).mp (forM_eq_ok_iff.mp locals type listed)
  · rintro ⟨locals, fits, handlers, wanted, balanced⟩
    rcases stackHeights_succeeds balanced context with ⟨heights, found⟩
    refine ⟨(), ?_, (), instructions.mpr fits, (), checkHandlers_eq_ok_iff.mpr handlers, heights,
      found, rfl⟩
    apply forM_eq_ok_iff.mpr
    intro type listed
    exact (checkValueType_eq_ok_iff type).mpr (locals type listed)

/-! ### Declarations -/

/-- A declared routine that makes sense. -/
def RoutineFits (module : Module) (routine : RoutineDecl) : Prop :=
  ∃ owner, module.type? routine.owner = some owner ∧
    TypeFits module owner.arity routine.result ∧
    (∀ parameter ∈ routine.parameters, TypeFits module owner.arity parameter.type) ∧
    ∀ body, routine.body = some body → BodyFits module owner.arity routine body

theorem checkRoutine_eq_ok_iff {id : RoutineId} :
    checkRoutine module id = .ok () ↔
      ∀ routine, module.routine? id = some routine → RoutineFits module routine := by
  unfold checkRoutine RoutineFits
  rcases module.routine? id with _ | routine
  · simp
  · simp only [bind_eq_ok_iff, arityOf_eq_ok_iff, Option.some.injEq, forall_eq']
    constructor
    · rintro ⟨_, ⟨owner, declared, rfl⟩, ⟨⟩, result, ⟨⟩, parameters, passes⟩
      refine ⟨owner, declared, checkValueType_eq_ok_iff _ |>.mp result,
        fun parameter listed => ?_, fun body hasBody => ?_⟩
      · exact (checkValueType_eq_ok_iff _).mp (forM_eq_ok_iff.mp parameters parameter listed)
      · rw [hasBody] at passes
        exact checkBody_eq_ok_iff.mp passes
    · rintro ⟨owner, declared, result, parameters, passes⟩
      refine ⟨_, ⟨owner, declared, rfl⟩, (), checkValueType_eq_ok_iff _ |>.mpr result, (),
        forM_eq_ok_iff.mpr fun parameter listed => ?_, ?_⟩
      · exact (checkValueType_eq_ok_iff _).mpr (parameters parameter listed)
      · rcases hasBody : routine.body with _ | body
        · rfl
        · exact checkBody_eq_ok_iff.mpr (passes body hasBody)

/-- A declared field that makes sense. -/
def FieldFits (module : Module) (field : FieldDecl) : Prop :=
  ∃ owner, module.type? field.owner = some owner ∧ TypeFits module owner.arity field.type ∧
    (field.isLiteral = true → field.constant.isSome = true)

theorem checkField_eq_ok_iff {id : FieldId} :
    checkField module id = .ok () ↔
      ∀ field, module.field? id = some field → FieldFits module field := by
  unfold checkField FieldFits
  rcases module.field? id with _ | field
  · simp
  · simp only [bind_eq_ok_iff, arityOf_eq_ok_iff, Option.some.injEq, forall_eq']
    constructor
    · rintro ⟨_, ⟨owner, declared, rfl⟩, ⟨⟩, type, passes⟩
      refine ⟨owner, declared, checkValueType_eq_ok_iff _ |>.mp type, fun literal => ?_⟩
      rcases constant : field.constant with _ | constant
      · simp [literal, constant] at passes
      · rfl
    · rintro ⟨owner, declared, type, passes⟩
      refine ⟨_, ⟨owner, declared, rfl⟩, (), checkValueType_eq_ok_iff _ |>.mpr type, ?_⟩
      by_cases literal : field.isLiteral = true
      · rcases Option.isSome_iff_exists.mp (passes literal) with ⟨constant, given⟩
        simp [given]
      · simp [literal]

/-- A declared type whose members belong to it. -/
structure MembersFit (module : Module) (id : TypeId) (type : TypeDecl) : Prop where
  fields : ∀ listed ∈ type.fields, ∃ field, module.field? listed = some field ∧ field.owner = id
  routines : ∀ listed ∈ type.routines, ∃ routine,
    module.routine? listed = some routine ∧ routine.owner = id

theorem checkListedField_eq_ok_iff {owner : TypeId} {id : FieldId} :
    checkListedField module owner context id = .ok () ↔
      ∃ field, module.field? id = some field ∧ field.owner = owner := by
  unfold checkListedField
  rcases module.field? id with _ | field
  · simp
  · by_cases own : field.owner = owner <;> simp [own]

theorem checkListedRoutine_eq_ok_iff {owner : TypeId} {id : RoutineId} :
    checkListedRoutine module owner context id = .ok () ↔
      ∃ routine, module.routine? id = some routine ∧ routine.owner = owner := by
  unfold checkListedRoutine
  rcases module.routine? id with _ | routine
  · simp
  · by_cases own : routine.owner = owner <;> simp [own]

theorem checkMembers_eq_ok_iff {id : TypeId} :
    checkMembers module id = .ok () ↔
      ∀ type, module.type? id = some type → MembersFit module id type := by
  unfold checkMembers
  rcases module.type? id with _ | type
  · simp
  · simp only [check_bind_eq_ok_iff, Option.some.injEq, forall_eq', forM_eq_ok_iff,
      checkListedField_eq_ok_iff, checkListedRoutine_eq_ok_iff]
    constructor
    · rintro ⟨fields, routines⟩
      exact ⟨fields, routines⟩
    · rintro ⟨fields, routines⟩
      exact ⟨fields, routines⟩

/-! ### Nesting -/

/-- A declared type whose links to the type around it and to those nested in it agree. -/
structure LinksFit (module : Module) (id : TypeId) (type : TypeDecl) : Prop where
  nested_in : ∀ outer, type.outer = some outer →
    ∃ around, module.type? outer = some around ∧ id ∈ around.nested
  top_level : type.outer = none → id ∈ module.topLevel
  nested : ∀ inner ∈ type.nested, ∃ declared,
    module.type? inner = some declared ∧ declared.outer = some id

theorem checkOuter_eq_ok_iff {id : TypeId} {type : TypeDecl} :
    checkOuter module id type = .ok () ↔
      (∀ outer, type.outer = some outer →
        ∃ around, module.type? outer = some around ∧ id ∈ around.nested) ∧
      (type.outer = none → id ∈ module.topLevel) := by
  unfold checkOuter
  rcases type.outer with _ | outer
  · by_cases listed : id ∈ module.topLevel <;> simp [listed]
  · rcases declared : module.type? outer with _ | around
    · simp [declared]
    · by_cases listed : id ∈ around.nested <;> simp [declared, listed]

theorem checkNestedEntry_eq_ok_iff {id nested : TypeId} :
    checkNestedEntry module id nested = .ok () ↔
      ∃ declared, module.type? nested = some declared ∧ declared.outer = some id := by
  unfold checkNestedEntry
  rcases module.type? nested with _ | declared
  · simp
  · by_cases inside : declared.outer = some id <;> simp [inside]

theorem checkLinks_eq_ok_iff {id : TypeId} :
    checkLinks module id = .ok () ↔
      ∀ type, module.type? id = some type → LinksFit module id type := by
  unfold checkLinks
  rcases module.type? id with _ | type
  · simp
  · simp only [check_bind_eq_ok_iff, Option.some.injEq, forall_eq', forM_eq_ok_iff,
      checkOuter_eq_ok_iff, checkNestedEntry_eq_ok_iff]
    constructor
    · rintro ⟨⟨nestedIn, topLevel⟩, nested⟩
      exact ⟨nestedIn, topLevel, nested⟩
    · rintro ⟨nestedIn, topLevel, nested⟩
      exact ⟨⟨nestedIn, topLevel⟩, nested⟩

theorem checkTopLevel_eq_ok_iff {id : TypeId} :
    checkTopLevel module id = .ok () ↔
      ∃ type, module.type? id = some type ∧ type.outer = none := by
  unfold checkTopLevel
  rcases module.type? id with _ | type
  · simp
  · rcases outer : type.outer with _ | around <;> simp [outer]

theorem checkChain_eq_ok_iff {id : TypeId} :
    checkChain module id = .ok () ↔ (module.outerChain module.types.size id).isSome = true := by
  unfold checkChain
  by_cases ends : (module.outerChain module.types.size id).isSome = true <;> simp [ends]

/-- A module whose types form a forest. -/
structure Nested (module : Module) : Prop where
  topLevel : ∀ id ∈ module.topLevel, ∃ type, module.type? id = some type ∧ type.outer = none
  links : ∀ id type, module.type? id = some type → LinksFit module id type
  chains : ∀ id type, module.type? id = some type →
    (module.outerChain module.types.size id).isSome = true

theorem exists_type_iff {id : TypeId} :
    (∃ type, module.type? id = some type) ↔ id ∈ module.typeIds := by
  rw [Module.mem_typeIds]
  exact ⟨fun ⟨_, declared⟩ => Module.position_lt_of_type? declared,
    fun inside => ⟨_, Array.getElem?_eq_getElem inside⟩⟩

theorem checkNesting_eq_ok_iff : checkNesting module = .ok () ↔ Nested module := by
  simp only [checkNesting, check_bind_eq_ok_iff, forM_eq_ok_iff, checkTopLevel_eq_ok_iff,
    checkLinks_eq_ok_iff, checkChain_eq_ok_iff]
  constructor
  · rintro ⟨topLevel, links, chains⟩
    exact ⟨topLevel,
      fun id type declared => links id (exists_type_iff.mp ⟨type, declared⟩) type declared,
      fun id type declared => chains id (exists_type_iff.mp ⟨type, declared⟩)⟩
  · rintro ⟨topLevel, links, chains⟩
    refine ⟨topLevel, fun id _ type declared => links id type declared, fun id listed => ?_⟩
    rcases exists_type_iff.mpr listed with ⟨type, declared⟩
    exact chains id type declared

/-! ### Modules -/

/-- A module without defects. -/
structure Valid (module : Module) : Prop where
  nesting : Nested module
  members : ∀ id type, module.type? id = some type → MembersFit module id type
  fields : ∀ id field, module.field? id = some field → FieldFits module field
  routines : ∀ id routine, module.routine? id = some routine → RoutineFits module routine

/-- The modules that pass the check are the valid ones. -/
theorem checkModule_eq_ok_iff : checkModule module = .ok () ↔ Valid module := by
  simp only [checkModule, check_bind_eq_ok_iff, forM_eq_ok_iff, checkNesting_eq_ok_iff,
    checkMembers_eq_ok_iff, checkField_eq_ok_iff, checkRoutine_eq_ok_iff]
  constructor
  · rintro ⟨nesting, members, fields, routines⟩
    exact ⟨nesting,
      fun id type declared => members id (exists_type_iff.mp ⟨type, declared⟩) type declared,
      fun id field declared => fields id
        (Module.mem_fieldIds.mpr (Array.getElem?_eq_some_iff.mp declared).1) field declared,
      fun id routine declared => routines id
        (Module.mem_routineIds.mpr (Module.position_lt_of_routine? declared)) routine declared⟩
  · rintro ⟨nesting, members, fields, routines⟩
    exact ⟨nesting, fun id _ => members id, fun id _ => fields id, fun id _ => routines id⟩

/-- A module passes when it passes each of the four rounds of checks. -/
theorem checkModule_ok (nested : checkNesting module = .ok ())
    (members : module.typeIds.forM (checkMembers module) = .ok ())
    (fields : module.fieldIds.forM (checkField module) = .ok ())
    (routines : module.routineIds.forM (checkRoutine module) = .ok ()) :
    checkModule module = .ok () := by
  simp only [checkModule, nested, members, fields, routines, ok_bind]

end Rekindle.Validity
