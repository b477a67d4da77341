import Rekindle.Proofs.Indexing.Nesting

/-!
# Checking a module by position

The rounds of the check look up the declarations they go through by their position, and the round
over the stack of a body indexes the body and an array of heights. That a callee exists is not asked
there again: the round over the instructions has looked at every operand before.
-/

namespace Rekindle.Indexing

open Fallible Validity Rekindle.Module

variable {module : Module} {context : String} {arity : Nat}

/-! ### The stack of a body -/

/-- How many values an instruction takes off the stack, and how many it leaves there. -/
def stackEffect (module : Module) (instruction : Instruction) : Run Defect (Nat × Nat) :=
  match instruction with
  | .call reference => do
    let callee ← routineAt module reference.routine
    return (callee.parameters.length, if callee.returns then 1 else 0)
  | _ => return (pops module instruction, pushes module instruction)

/-- Checks the instruction that is reached at an offset, and gives where control goes from it. -/
def flowFrom (module : Module) (context : String) (returnHeight : Nat)
    (instructions : Array Instruction) (offset height : Nat) : Run Defect (List (Nat × Nat)) := do
  let instruction ← entry instructions offset
  let (taken, left) ← stackEffect module instruction
  if height < taken then throw (.reported (.stackUnderflow context offset))
  else if instruction = .ret ∧ height ≠ returnHeight then
    throw (.reported (.invalidReturn context offset height returnHeight))
  else return successors instruction offset (height - taken + left)

/-- Looks at an offset that is reached at a height: the heights that are known then, and where
control goes from there if that was not known before. -/
def arrive (module : Module) (context : String) (returnHeight : Nat)
    (instructions : Array Instruction) (heights : Array (Option Nat)) (offset height : Nat) :
    Run Defect (Array (Option Nat) × List (Nat × Nat)) :=
  if offset < instructions.size then do
    match ← entry heights offset with
    | some known =>
      if known = height then return (heights, [])
      else throw (.reported (.stackMismatch context offset known height))
    | none =>
      let raised ← put heights offset (some height)
      let next ← flowFrom module context returnHeight instructions offset height
      return (raised, next)
  else throw (.reported (.fallsOffEnd context))

section Flow

variable {returnHeight offset height : Nat} {instructions : Array Instruction}
  {heights : Array (Option Nat)} {pending : List (Nat × Nat)}

theorem arrive_known (inside : offset < instructions.size) {known : Nat}
    (state : heights[offset]? = some (some known)) :
    arrive module context returnHeight instructions heights offset height =
      if known = height then .ok (heights, [])
      else .error (.reported (.stackMismatch context offset known height)) := by
  unfold arrive
  rw [if_pos inside, entry_of_some state, ok_bind]
  rfl

theorem arrive_new (inside : offset < instructions.size) (state : heights[offset]? = some none) :
    arrive module context returnHeight instructions heights offset height =
      (flowFrom module context returnHeight instructions offset height).map
        (heights.setIfInBounds offset (some height), ·) := by
  have here : offset < heights.size := (Array.getElem?_eq_some_iff.mp state).1
  unfold arrive
  rw [if_pos inside, entry_of_some state, ok_bind]
  dsimp only
  rw [put_of_lt here, ok_bind]
  rcases flowFrom module context returnHeight instructions offset height with _ | next <;> rfl

/-- Arriving at an offset raises the heights or leaves nothing to do. -/
theorem arrive_decreases {raised : Array (Option Nat)} {next : List (Nat × Nat)}
    (arrives : arrive module context returnHeight instructions heights offset height =
      .ok (raised, next)) :
    raised = heights ∧ next = [] ∨
      raised.countP Option.isNone < heights.countP Option.isNone := by
  by_cases inside : offset < instructions.size
  · rcases state : heights[offset]? with _ | _ | known
    · rw [arrive, if_pos inside, entry, state] at arrives
      cases arrives
    · rw [arrive_new inside state] at arrives
      rcases flows : flowFrom module context returnHeight instructions offset height with _ | follow
      · rw [flows] at arrives
        cases arrives
      · rw [flows] at arrives
        cases arrives
        exact .inr (countP_unset_lt height state)
    · rw [arrive_known inside state] at arrives
      split at arrives
      · cases arrives
        exact .inl ⟨rfl, rfl⟩
      · cases arrives
  · rw [arrive, if_neg inside] at arrives
    cases arrives

/-- Carries heights along the flow of control. -/
def flow (module : Module) (context : String) (returnHeight : Nat)
    (instructions : Array Instruction) (heights : Array (Option Nat)) (pending : List (Nat × Nat)) :
    Run Defect (Array (Option Nat)) :=
  match pending with
  | [] => .ok heights
  | (offset, height) :: others =>
    match arrives : arrive module context returnHeight instructions heights offset height with
    | .error halt => .error halt
    | .ok (raised, next) =>
      have := arrive_decreases arrives
      flow module context returnHeight instructions raised (next ++ others)
termination_by (heights.countP Option.isNone, pending.length)
decreasing_by
  rcases this with ⟨rfl, rfl⟩ | fewer
  · exact Prod.Lex.right _ (by simp)
  · exact Prod.Lex.left _ _ fewer

theorem flow_cons :
    flow module context returnHeight instructions heights ((offset, height) :: pending) =
      arrive module context returnHeight instructions heights offset height >>= fun arrived =>
        flow module context returnHeight instructions arrived.1 (arrived.2 ++ pending) := by
  rw [flow]
  split
  · rename_i halts
    rw [halts, error_bind]
  · rename_i arrives
    dsimp only
    rw [arrives, ok_bind]

end Flow

def stackHeights (module : Module) (context : String) (routine : RoutineDecl) (body : Body) :
    Run Defect (Array (Option Nat)) :=
  if body.size = 0 then throw (.reported (.fallsOffEnd context))
  else flow module context (if routine.returns then 1 else 0) body.instructions
    (Array.replicate body.size none) (entries body)

/-- A body that calls declared routines only. -/
def CalleesDeclared (module : Module) (instructions : Array Instruction) : Prop :=
  ∀ (offset : Nat) (reference : RoutineRef),
    instructions[offset]? = some (Instruction.call reference) →
      ∃ callee, module.routine? reference.routine = some callee

theorem stackEffect_eq {instruction : Instruction}
    (declared : ∀ reference, instruction = .call reference →
      ∃ callee, module.routine? reference.routine = some callee) :
    stackEffect module instruction = .ok (pops module instruction, pushes module instruction) := by
  cases instruction with
  | call reference =>
      rcases declared reference rfl with ⟨callee, found⟩
      simp [stackEffect, pops, pushes, found, routineAt_of_some found]
  | _ => rfl

theorem flowFrom_within {returnHeight offset height : Nat} {instructions : Array Instruction}
    {instruction : Instruction} (callees : CalleesDeclared module instructions)
    (found : instructions[offset]? = some instruction) :
    flowFrom module context returnHeight instructions offset height =
      within (Validity.flowFrom module context returnHeight instruction offset height) := by
  have effect : stackEffect module instruction = _ := stackEffect_eq fun reference isCall =>
    callees offset reference (isCall ▸ found)
  unfold flowFrom Validity.flowFrom
  rw [entry_of_some found, ok_bind, effect, ok_bind]
  dsimp only
  split
  · rfl
  · split <;> rfl

theorem flow_within {returnHeight : Nat} {instructions : Array Instruction}
    {heights : Array (Option Nat)} {pending : List (Nat × Nat)}
    (callees : CalleesDeclared module instructions) (sizes : heights.size = instructions.size) :
    flow module context returnHeight instructions heights pending =
      within (Validity.flow module context returnHeight instructions heights pending) := by
  fun_induction Validity.flow module context returnHeight instructions heights pending with
  | case1 heights => rw [flow, within_ok]
  | case2 heights offset height others missing =>
      have outside : ¬offset < instructions.size := by
        rw [← sizes]
        exact Nat.not_lt.mpr (Array.getElem?_eq_none_iff.mp missing)
      rw [flow_cons, arrive, if_neg outside]
      rfl
  | case3 heights offset others height state ih =>
      have inside : offset < instructions.size :=
        sizes ▸ (Array.getElem?_eq_some_iff.mp state).1
      rw [flow_cons, arrive_known inside state, if_pos rfl, ok_bind]
      exact ih sizes
  | case4 heights offset height others known state differs =>
      have inside : offset < instructions.size :=
        sizes ▸ (Array.getElem?_eq_some_iff.mp state).1
      rw [flow_cons, arrive_known inside state, if_neg differs]
      rfl
  | case5 heights offset height others state missing =>
      have inside := (Array.getElem?_eq_some_iff.mp state).1
      have outside := Array.getElem?_eq_none_iff.mp missing
      omega
  | case6 heights offset height others state instruction found defect refused =>
      have inside : offset < instructions.size :=
        sizes ▸ (Array.getElem?_eq_some_iff.mp state).1
      rw [flow_cons, arrive_new inside state, flowFrom_within callees found, refused]
      rfl
  | case7 heights offset height others state instruction found next accepted lower ih =>
      have inside : offset < instructions.size :=
        sizes ▸ (Array.getElem?_eq_some_iff.mp state).1
      rw [flow_cons, arrive_new inside state, flowFrom_within callees found, accepted]
      exact ih (Array.size_setIfInBounds.trans sizes)

/-- A body without instructions has no first one. -/
theorem stackHeights_empty {routine : RoutineDecl} {body : Body} (empty : body.size = 0) :
    Validity.stackHeights module context routine body = .error (.fallsOffEnd context) := by
  have outside (offset : Nat) :
      (Array.replicate body.size (none : Option Nat))[offset]? = none := by
    simp [empty]
  unfold Validity.stackHeights
  rcases listed : entries body with _ | ⟨⟨offset, height⟩, others⟩
  · simp [entries] at listed
  · rw [Validity.flow]
    split
    · rfl
    · rename_i known
      rw [outside] at known
      cases known
    · rename_i known
      rw [outside] at known
      cases known

theorem stackHeights_within {routine : RoutineDecl} {body : Body}
    (callees : CalleesDeclared module body.instructions) :
    stackHeights module context routine body =
      within (Validity.stackHeights module context routine body) := by
  unfold stackHeights
  by_cases empty : body.size = 0
  · rw [if_pos empty, stackHeights_empty empty]
    rfl
  · rw [if_neg empty]
    exact flow_within callees Array.size_replicate

/-! ### The rounds of the check -/

def checkMembers (module : Module) (id : TypeId) : Run Defect Unit := do
  let type ← typeAt module id
  let context := module.fullName id
  within (type.fields.forM (checkListedField module id context))
  within (type.routines.forM (checkListedRoutine module id context))

def checkField (module : Module) (id : FieldId) : Run Defect Unit := do
  let field ← fieldAt module id
  let context := module.fieldName id
  let arity ← within (arityOf module context field.owner)
  within (checkValueType module context arity field.type)
  if field.isLiteral && field.constant.isNone then
    throw (.reported (.missingConstant context context))

def checkBody (module : Module) (context : String) (arity : Nat) (routine : RoutineDecl)
    (body : Body) : Run Defect Unit := do
  within (body.locals.forM (checkValueType module context arity))
  let around := surroundings module context arity routine body
  within (body.instructions.toList.zipIdx.forM fun (instruction, offset) =>
    checkInstruction around instruction offset)
  within (checkHandlers context body)
  let _ ← stackHeights module context routine body

def checkRoutine (module : Module) (id : RoutineId) : Run Defect Unit := do
  let routine ← routineAt module id
  let context := module.routineName id
  let arity ← within (arityOf module context routine.owner)
  within (checkValueType module context arity routine.result)
  within (routine.parameters.forM fun parameter =>
    checkValueType module context arity parameter.type)
  match routine.body with
  | none => return
  | some body => checkBody module context arity routine body

def checkModule (module : Module) : Run Defect Unit := do
  checkNesting module
  module.typeIds.forM (checkMembers module)
  module.fieldIds.forM (checkField module)
  module.routineIds.forM (checkRoutine module)

theorem checkMembers_within {id : TypeId} (listed : id ∈ module.typeIds) :
    checkMembers module id = within (Validity.checkMembers module id) := by
  rcases exists_type_iff.mpr listed with ⟨type, declared⟩
  unfold checkMembers Validity.checkMembers
  rw [typeAt_of_some declared, declared, ok_bind]
  exact bind_within fun _ _ => rfl

theorem checkField_within {id : FieldId} (listed : id ∈ module.fieldIds) :
    checkField module id = within (Validity.checkField module id) := by
  obtain ⟨field, declared⟩ : ∃ field, module.field? id = some field :=
    ⟨_, Array.getElem?_eq_getElem (mem_fieldIds.mp listed)⟩
  unfold checkField Validity.checkField
  rw [fieldAt_of_some declared, declared, ok_bind]
  refine bind_within fun arity _ => bind_within fun _ _ => ?_
  split <;> rfl

theorem calleesDeclared_of_checks {routine : RoutineDecl} {body : Body}
    (passes : body.instructions.toList.zipIdx.forM (fun entry => checkInstruction
      (surroundings module context arity routine body) entry.1 entry.2) = .ok ()) :
    CalleesDeclared module body.instructions := by
  intro offset reference found
  have instructions := (forM_zipIdx_eq_ok_iff fun _ _ => checkInstruction_eq_ok_iff).mp passes
  have listed : Instruction.call reference ∈ body.instructions.toList := by
    rw [Array.mem_toList_iff]
    exact Array.mem_of_getElem? found
  rcases (instructions _ listed).operand with ⟨callee, declared, _⟩
  exact ⟨callee, declared⟩

theorem checkBody_within {routine : RoutineDecl} {body : Body} :
    checkBody module context arity routine body =
      within (Validity.checkBody module context arity routine body) := by
  unfold checkBody Validity.checkBody
  refine bind_within fun _ _ => bind_within fun _ passes => bind_within fun _ _ => ?_
  rw [stackHeights_within (calleesDeclared_of_checks passes)]
  exact bind_within fun _ _ => rfl

theorem checkRoutine_within {id : RoutineId} (listed : id ∈ module.routineIds) :
    checkRoutine module id = within (Validity.checkRoutine module id) := by
  obtain ⟨routine, declared⟩ : ∃ routine, module.routine? id = some routine :=
    ⟨_, Array.getElem?_eq_getElem (mem_routineIds.mp listed)⟩
  unfold checkRoutine Validity.checkRoutine
  rw [routineAt_of_some declared, declared, ok_bind]
  refine bind_within fun arity _ => bind_within fun _ _ => bind_within fun _ _ => ?_
  rcases routine.body with _ | body
  · rfl
  · exact checkBody_within

/-- The check of a module stays within the tables of any module, its bodies and their heights. -/
theorem checkModule_within (module : Module) :
    checkModule module = within (Validity.checkModule module) := by
  unfold checkModule Validity.checkModule
  rw [checkNesting_within, forM_within fun _ listed => checkMembers_within listed,
    forM_within fun _ listed => checkField_within listed,
    forM_within fun _ listed => checkRoutine_within listed]
  refine bind_within fun _ _ => bind_within fun _ _ => bind_within fun _ _ => rfl

end Rekindle.Indexing
