import Rekindle.Module.Basic
import Rekindle.Validity.Defect

/-!
# Stack heights

Every instruction of a body takes a number of values off the operand stack and leaves a number on
it. Starting with an empty stack at the first instruction, and with the thrown value alone at a
handler that catches, the heights are carried along the flow of control. They must agree wherever
paths meet, suffice for every instruction, and be exactly the result at every return; and control
must stay inside the body.
-/

namespace Rekindle.Validity

def pops (module : Module) : Instruction → Nat
  | .nop | .ret | .branch _ | .leave _ | .endFinally => 0
  | .pop | .storeLocal _ | .storeField _ | .storeDefault _ => 1
  | .branchTrue _ | .branchFalse _ | .invokeCallback | .throw => 1
  | .dup => 1
  | .loadNull | .loadInt32 _ | .loadInt64 _ | .loadFloat64 _ | .loadString _ | .loadLocal _
  | .loadArgument _ | .loadField _ | .loadFieldAddress _ | .loadRoutine _ => 0
  | .add | .subtract | .multiply | .compareEqual | .newCallback | .combineCallbacks => 2
  | .branchUnequal _ => 2
  | .compareExchange => 3
  | .call reference =>
    match module.routine? reference.routine with
    | some callee => callee.parameters.length
    | none => 0

def pushes (module : Module) : Instruction → Nat
  | .nop | .ret | .branch _ | .leave _ | .endFinally => 0
  | .pop | .storeLocal _ | .storeField _ | .storeDefault _ => 0
  | .branchTrue _ | .branchFalse _ | .invokeCallback | .throw => 0
  | .dup => 2
  | .loadNull | .loadInt32 _ | .loadInt64 _ | .loadFloat64 _ | .loadString _ | .loadLocal _
  | .loadArgument _ | .loadField _ | .loadFieldAddress _ | .loadRoutine _ => 1
  | .add | .subtract | .multiply | .compareEqual | .newCallback | .combineCallbacks => 1
  | .branchUnequal _ => 0
  | .compareExchange => 1
  | .call reference =>
    match module.routine? reference.routine with
    | some callee => if callee.returns then 1 else 0
    | none => 0

/-- Where control goes from an instruction at an offset, and the height there; `after` is the
height the instruction leaves behind. -/
def successors (instruction : Instruction) (offset after : Nat) : List (Nat × Nat) :=
  match instruction with
  | .ret | .throw | .endFinally => []
  | .leave target => [(target.toNat, 0)]
  | .branch target => [(target.toNat, after)]
  | .branchTrue target | .branchFalse target | .branchUnequal target =>
    [(offset + 1, after), (target.toNat, after)]
  | _ => [(offset + 1, after)]

/-- Checks an instruction that is reached at a height, and gives where control goes from it. -/
def flowFrom (module : Module) (context : String) (returnHeight : Nat) (instruction : Instruction)
    (offset height : Nat) : Except Defect (List (Nat × Nat)) :=
  if height < pops module instruction then .error (.stackUnderflow context offset)
  else if instruction = .ret ∧ height ≠ returnHeight then
    .error (.invalidReturn context offset height returnHeight)
  else .ok (successors instruction offset (height - pops module instruction +
    pushes module instruction))

theorem countP_unset_lt {heights : Array (Option Nat)} {offset : Nat} (height : Nat)
    (unset : heights[offset]? = some none) :
    (heights.setIfInBounds offset (some height)).countP Option.isNone <
      heights.countP Option.isNone := by
  obtain ⟨inside, value⟩ := Array.getElem?_eq_some_iff.mp unset
  have positive : 0 < heights.countP Option.isNone :=
    Array.countP_pos_iff.mpr ⟨heights[offset], Array.getElem_mem inside, by rw [value]; rfl⟩
  rw [Array.setIfInBounds_def, dif_pos inside, Array.countP_set inside, value]
  simp only [Option.isNone_none, Option.isNone_some, if_true, Bool.false_eq_true, if_false]
  omega

/-- Carries heights along the flow of control, from pairs of an offset and a height that are still
to be looked at. -/
def flow (module : Module) (context : String) (returnHeight : Nat)
    (instructions : Array Instruction) (heights : Array (Option Nat)) (pending : List (Nat × Nat)) :
    Except Defect (Array (Option Nat)) :=
  match pending with
  | [] => .ok heights
  | (offset, height) :: others =>
    match state : heights[offset]? with
    | none => .error (.fallsOffEnd context)
    | some (some known) =>
      if known = height then flow module context returnHeight instructions heights others
      else .error (.stackMismatch context offset known height)
    | some none =>
      match instructions[offset]? with
      | none => .error (.fallsOffEnd context)
      | some instruction =>
        match flowFrom module context returnHeight instruction offset height with
        | .error defect => .error defect
        | .ok next =>
          have := countP_unset_lt height state
          flow module context returnHeight instructions
            (heights.setIfInBounds offset (some height)) (next ++ others)
termination_by (heights.countP Option.isNone, pending.length)

def entryHeight : HandlerKind → Nat
  | .catching => 1
  | .finalizing => 0

/-- Where control can start in a body, the handlers before the first instruction. -/
def entries (body : Body) : List (Nat × Nat) :=
  (body.handlers.map fun handler =>
    (handler.handlerStart.toNat, entryHeight handler.kind)).reverse ++ [(0, 0)]

/-- The height at every instruction of a body that control can reach. -/
def stackHeights (module : Module) (context : String) (routine : RoutineDecl) (body : Body) :
    Except Defect (Array (Option Nat)) :=
  flow module context (if routine.returns then 1 else 0) body.instructions
    (Array.replicate body.size none) (entries body)

end Rekindle.Validity
