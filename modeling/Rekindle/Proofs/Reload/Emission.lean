import Rekindle.Proofs.Reload.StraightLine
import Rekindle.Proofs.Validity.Extension

/-!
# Emitted instructions

The pieces that the bodies of a hooked type consist of. Each leaves the stack as it found it and
names only what exists, bound to the parameters of the type it stands in.
-/

namespace Rekindle.Reload

open Validity Rekindle.Module

variable {module after : Module} {owner : TypeId} {type : TypeDecl} {body : Body}
  {routine : RoutineDecl}

/-! ### Names from inside a type -/

/-- How a member of a type of an arity is bound from inside. -/
def ownBinding (arity : Nat) : Binding :=
  if arity = 0 then .direct else .instantiated (ownParameters arity)

/-- A routine of a type of an arity as it is named from inside. -/
def ownRoutine (arity : Nat) (id : RoutineId) : RoutineRef where
  routine := id
  binding := ownBinding arity

/-- A field of a type of an arity as it is named from inside. -/
def ownField (arity : Nat) (id : FieldId) : FieldRef where
  field := id
  binding := ownBinding arity

theorem bindRoutine_inside {id : RoutineId} (declared : module.routine? id = some routine)
    (owner : module.type? routine.owner = some type) :
    module.bindRoutine id .inside = .ok (ownRoutine type.arity id) := by
  simp [bindRoutine, declared, Module.bind, owner, ownRoutine, ownBinding]

theorem bindField_inside {id : FieldId} {field : FieldDecl}
    (declared : module.field? id = some field) (owner : module.type? field.owner = some type) :
    module.bindField id .inside = .ok (ownField type.arity id) := by
  simp [bindField, declared, Module.bind, owner, ownField, ownBinding]

/-- The parameters of a type are named in full as long as their count has sixteen bits. -/
theorem ownBinding_fits (declared : module.type? owner = some type)
    (small : type.arity ≤ 65535) : BindingFits module type.arity owner (ownBinding type.arity) := by
  refine ⟨type, declared, ?_, ?_⟩
  · unfold ownBinding
    split
    · rename_i plain
      simp [bindingFits, plain]
    · rename_i generic
      have positive : 0 < type.arity := Nat.pos_of_ne_zero generic
      have whole : type.arity % 65536 = type.arity := Nat.mod_eq_of_lt (by omega)
      simp [bindingFits, ownParameters, positive, whole]
  · unfold ownBinding
    split
    · trivial
    · apply typesFit_iff.mpr
      intro parameter listed
      rcases List.mem_map.mp listed with ⟨position, inside, rfl⟩
      have below := List.mem_range.mp inside
      have whole : type.arity % 65536 = type.arity := Nat.mod_eq_of_lt (by omega)
      rw [whole] at below
      simp only [TypeFits, UInt16.toNat_ofNat']
      omega

/-! ### Calls -/

/-- A routine that can be called, with the number of its arguments, and leaves nothing. -/
structure Callable (module : Module) (id : RoutineId) (routine : RoutineDecl) (arguments : Nat) :
    Prop where
  declared : module.routine? id = some routine
  static : routine.isStatic = true
  hasBody : routine.body.isSome = true
  arguments_eq : routine.parameters.length = arguments
  silent : routine.returns = false

theorem Callable.grow {id : RoutineId} {arguments : Nat} (grows : Grows module after)
    (callable : Callable module id routine arguments) :
    ∃ grown, Callable after id grown arguments ∧ grown.owner = routine.owner := by
  rcases grows.routines id routine callable.declared with ⟨body, kept, stays⟩
  exact ⟨_, ⟨kept, callable.static, stays callable.hasBody, callable.arguments_eq,
    callable.silent⟩, rfl⟩

theorem Callable.refFits {id : RoutineId} {arguments arity : Nat} {binding : Binding}
    (callable : Callable module id routine arguments)
    (fits : BindingFits module arity routine.owner binding) :
    RoutineRefFits module arity ⟨id, binding⟩ :=
  ⟨routine, callable.declared, callable.static, callable.hasBody, fits⟩

theorem Callable.heightAfter_call {reference : RoutineRef} {arguments : Nat}
    (callable : Callable module reference.routine routine arguments) :
    heightAfter module [.call reference] arguments = some 0 := by
  have takes : pops module (.call reference) = arguments := by
    simp only [pops, callable.declared, callable.arguments_eq]
  have leaves : pushes module (.call reference) = 0 := by
    simp only [pushes, callable.declared, callable.silent, Bool.false_eq_true, if_false]
  rw [heightAfter_cons rfl (Nat.le_of_eq takes), takes, leaves, Nat.sub_self]
  rfl

/-! ### The pieces -/

/-- The call of a routine of the same type, if there is one. -/
def ownCall (arity : Nat) : Option RoutineId → List Instruction
  | none => []
  | some id => [.call (ownRoutine arity id)]

/-- The registration of a routine of the same type, if there is one. -/
def registration (arity : Nat) (registrar : RoutineId) : Option RoutineId → List Instruction
  | none => []
  | some id => [.loadNull, .loadRoutine (ownRoutine arity id), .newCallback,
      .call ⟨registrar, .direct⟩]

/-- The reset of a field of the same type. -/
def resetOf (module : Module) (arity : Nat) (id : FieldId) : List Instruction :=
  match module.field? id with
  | none => []
  | some field => [.loadFieldAddress (ownField arity id), .storeDefault field.type]

/-- Instructions that can stand in a straight line of a type of an arity. -/
structure LineFits (module : Module) (arity : Nat) (instructions : List Instruction) : Prop where
  level : heightAfter module instructions 0 = some 0
  operands : ∀ instruction ∈ instructions, ∀ routine body,
    OperandFits module arity routine body instruction

variable {arity : Nat}

theorem LineFits.nil (module : Module) (arity : Nat) : LineFits module arity [] :=
  ⟨rfl, by simp⟩

theorem LineFits.append {first second : List Instruction} (fitsFirst : LineFits module arity first)
    (fitsSecond : LineFits module arity second) : LineFits module arity (first ++ second) := by
  refine ⟨heightAfter_pair fitsFirst.level fitsSecond.level, ?_⟩
  intro instruction listed
  rcases List.mem_append.mp listed with early | late
  · exact fitsFirst.operands instruction early
  · exact fitsSecond.operands instruction late

theorem LineFits.flatten {pieces : List (List Instruction)}
    (fits : ∀ piece ∈ pieces, LineFits module arity piece) :
    LineFits module arity pieces.flatten := by
  induction pieces with
  | nil => exact .nil module arity
  | cons piece others ih =>
      apply LineFits.append
      · exact fits piece List.mem_cons_self
      · apply ih
        intro other listed
        exact fits other (List.mem_cons_of_mem _ listed)

theorem call_fits {id : RoutineId} (callable : Callable module id routine 0)
    (declared : module.type? routine.owner = some type) (small : type.arity ≤ 65535) :
    LineFits module type.arity [.call (ownRoutine type.arity id)] := by
  have reference : RoutineRefFits module type.arity (ownRoutine type.arity id) :=
    callable.refFits (ownBinding_fits declared small)
  have level : heightAfter module [.call (ownRoutine type.arity id)] 0 = some 0 :=
    Callable.heightAfter_call callable
  refine ⟨level, ?_⟩
  intro instruction listed
  cases List.mem_singleton.mp listed
  intro _ _
  exact reference

theorem ownCall_fits {id? : Option RoutineId} (declared : module.type? owner = some type)
    (small : type.arity ≤ 65535)
    (callable : ∀ id, id? = some id → ∃ routine, Callable module id routine 0 ∧
      routine.owner = owner) : LineFits module type.arity (ownCall type.arity id?) := by
  cases id? with
  | none => exact .nil module _
  | some id =>
      rcases callable id rfl with ⟨routine, calls, rfl⟩
      exact call_fits calls declared small

theorem registration_fits {id? : Option RoutineId} {registrar : RoutineId}
    {registrarDecl : RoutineDecl} {registrarType : TypeDecl}
    (declared : module.type? owner = some type) (small : type.arity ≤ 65535)
    (callable : ∀ id, id? = some id → ∃ routine, Callable module id routine 0 ∧
      routine.owner = owner)
    (registers : Callable module registrar registrarDecl 1)
    (registrarOwner : module.type? registrarDecl.owner = some registrarType)
    (plain : registrarType.arity = 0) :
    LineFits module type.arity (registration type.arity registrar id?) := by
  cases id? with
  | none => exact .nil module _
  | some id =>
      rcases callable id rfl with ⟨routine, calls, rfl⟩
      have target : RoutineRefFits module type.arity (ownRoutine type.arity id) :=
        calls.refFits (ownBinding_fits declared small)
      have call : RoutineRefFits module type.arity ⟨registrar, .direct⟩ :=
        registers.refFits ⟨registrarType, registrarOwner, by simp [bindingFits, plain], trivial⟩
      refine ⟨?_, ?_⟩
      · have last : heightAfter module [.call ⟨registrar, .direct⟩] 1 = some 0 :=
          Callable.heightAfter_call registers
        exact last
      · simp only [registration, List.forall_mem_cons, List.not_mem_nil, false_implies,
          implies_true, and_true]
        exact ⟨fun _ _ => trivial, fun _ _ => target, fun _ _ => trivial, fun _ _ => call⟩

theorem resetOf_fits {id : FieldId} {field : FieldDecl} (found : module.field? id = some field)
    (storage : field.hasStorage = true) (declared : module.type? field.owner = some type)
    (small : type.arity ≤ 65535) (typed : TypeFits module type.arity field.type) :
    LineFits module type.arity (resetOf module type.arity id) := by
  have reference : FieldRefFits module type.arity (ownField type.arity id) :=
    ⟨field, found, storage, ownBinding_fits declared small⟩
  refine ⟨?_, ?_⟩
  · rw [resetOf, found]
    rfl
  · simp only [resetOf, found, List.forall_mem_cons, List.not_mem_nil, false_implies,
      implies_true, and_true]
    exact ⟨fun _ _ => reference, fun _ _ => typed⟩

/-! ### The routines -/

/-- A body keeps making sense under a signature that differs in names only. -/
theorem BodyFits.resign {other : RoutineDecl} (fits : BodyFits module arity routine body)
    (parameters : other.parameters.length = routine.parameters.length)
    (result : other.returns = routine.returns) : BodyFits module arity other body := by
  rcases fits.balanced with ⟨heights, balanced⟩
  refine ⟨fits.locals, ?_, fits.handlers, heights, balanced.entered, ?_⟩
  · intro instruction listed
    have before := fits.instructions instruction listed
    refine ⟨before.target, ?_⟩
    have operand := before.operand
    cases instruction with
    | loadArgument slot =>
        simp only [OperandFits] at operand ⊢
        omega
    | _ => exact operand
  · have coherent := balanced.coherent
    rw [resultHeight, ← result] at coherent
    exact coherent

theorem addedRoutine_fits {markers : Markers} {name : String}
    (declared : module.type? owner = some type)
    (fits : ∀ routine : RoutineDecl, routine.parameters = [] → routine.returns = false →
      BodyFits module type.arity routine body) :
    RoutineFits module { Hook.addedRoutine markers name body with owner } := by
  refine ⟨type, declared, trivial, ?_, ?_⟩
  · intro parameter listed
    cases listed
  · intro _ hasBody
    cases hasBody
    exact fits _ rfl rfl

theorem LineFits.bodyFits {instructions : List Instruction}
    (fits : LineFits module arity instructions) {routine : RoutineDecl}
    (silent : routine.returns = false) :
    BodyFits module arity routine (Hook.straightLine instructions) := by
  apply Hook.straightLine_fits fits.level silent
  intro instruction listed
  exact fits.operands instruction listed _ _

end Rekindle.Reload
