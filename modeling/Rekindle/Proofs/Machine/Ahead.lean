import Rekindle.Proofs.Reload.Emission
import Rekindle.Proofs.Transparency.Leading

/-!
# Code ahead

The bodies that hooking a type emits run their instructions one after the other. What is ahead of a
frame of such a body are the instructions from the current one on. A frame starts with all of them
ahead, and names from inside a type lead to the type under the arguments of the frame.
-/

namespace Rekindle.Machine

open Fallible Reload

/-- A frame without operands in a body without handlers, with instructions ahead. -/
structure Frame.Ahead (handle : ModuleHandle) (frame : Frame) (code : List Instruction) : Prop where
  module_eq : frame.module = handle
  silent : frame.returns = false
  handlers_eq : frame.body.handlers = []
  operands_eq : frame.operands = .empty
  line_eq : frame.body.instructions.toList.drop frame.position = code

/-- A frame some instructions later, with operands. -/
def Frame.moved (frame : Frame) (steps : Nat) (operands : List Value) : Frame :=
  { frame with position := frame.position + steps, operands := ⟨operands⟩ }

theorem Frame.moved_moved (frame : Frame) (steps more : Nat) (first operands : List Value) :
    (frame.moved steps first).moved more operands = frame.moved (steps + more) operands := by
  simp only [Frame.moved, Nat.add_assoc]

variable {handle : ModuleHandle} {frame : Frame} {code : List Instruction}

namespace Frame.Ahead

theorem moved_zero (ahead : frame.Ahead handle code) : frame.moved 0 [] = frame := by
  have operands_eq := ahead.operands_eq
  cases frame
  simp only at operands_eq
  subst operands_eq
  rfl

theorem instruction?_moved (ahead : frame.Ahead handle code) (steps : Nat)
    (operands : List Value) : (frame.moved steps operands).instruction? = code[steps]? := by
  rw [← ahead.line_eq, List.getElem?_drop, Array.getElem?_toList]
  rfl

theorem instruction? (ahead : frame.Ahead handle code) : frame.instruction? = code[0]? := by
  have current := ahead.instruction?_moved 0 []
  rwa [ahead.moved_zero] at current

theorem moved (ahead : frame.Ahead handle code) (steps : Nat) :
    (frame.moved steps []).Ahead handle (code.drop steps) := by
  refine ⟨ahead.module_eq, ahead.silent, ahead.handlers_eq, rfl, ?_⟩
  rw [← ahead.line_eq, List.drop_drop]
  rfl

theorem advance (ahead : frame.Ahead handle code) : frame.advance.Ahead handle (code.drop 1) := by
  have moved := ahead.moved 1
  rw [← ahead.moved_zero]
  exact moved

end Frame.Ahead

/-! ### Frames at their start -/

section Enter

variable {limit depth : Nat} {target : BoundRoutine} {parameters : List Value} {module : Module}
  {routine : RoutineDecl} {body : Body} {store : Store}

theorem enter_of_bodiless (enough : ¬limit < depth)
    (loaded : store.module target.module = .ok module)
    (found : module.routine? target.routine = some routine) (bodiless : routine.body = none) :
    Frame.enter limit depth store target parameters =
      .error (.missingBody (module.routineName target.routine)) := by
  simp only [Frame.enter, if_neg enough, loaded, ok_bind, found, bodiless]
  rfl

theorem enter_of_body (enough : ¬limit < depth)
    (loaded : store.module target.module = .ok module)
    (found : module.routine? target.routine = some routine) (hasBody : routine.body = some body)
    (count : parameters.length = routine.parameters.length) :
    Frame.enter limit depth store target parameters =
      .ok (Frame.start module target routine body parameters) := by
  simp only [Frame.enter, if_neg enough, loaded, ok_bind, found, hasBody, if_pos count]
  rfl

theorem enter_of_miscounted (enough : ¬limit < depth)
    (loaded : store.module target.module = .ok module)
    (found : module.routine? target.routine = some routine) (hasBody : routine.body = some body)
    (miscounted : ¬parameters.length = routine.parameters.length) :
    Frame.enter limit depth store target parameters =
      .error (.argumentCount (module.routineName target.routine) routine.parameters.length
        parameters.length) := by
  simp only [Frame.enter, if_neg enough, loaded, ok_bind, found, hasBody, if_neg miscounted]
  rfl

/-- A frame that is entered is at the start of the body of its routine, with as many parameters as
the routine has. -/
theorem enter_ok (entered : Frame.enter limit depth store target parameters = .ok frame) :
    ∃ module routine body, store.module target.module = .ok module ∧
      module.routine? target.routine = some routine ∧ routine.body = some body ∧
        parameters.length = routine.parameters.length ∧
          frame = .start module target routine body parameters := by
  unfold Frame.enter at entered
  split at entered
  · cases entered
  · rcases bind_eq_ok_iff.mp entered with ⟨module, loaded, entered⟩
    split at entered
    · cases entered
    · rename_i routine found
      split at entered
      · cases entered
      · rename_i body hasBody
        split at entered
        · rename_i count
          cases entered
          exact ⟨module, routine, body, loaded, found, hasBody, count, rfl⟩
        · cases entered

theorem start_ahead (placed : target.module = handle) (silent : routine.returns = false)
    (module : Module) (line : List Instruction) :
    (Frame.start module target routine (Hook.straightLine line) []).Ahead handle
      (line ++ [.ret]) := by
  refine ⟨placed, silent, rfl, rfl, ?_⟩
  simp [Frame.start, Hook.straightLine]

end Enter

/-! ### Names from inside a type -/

/-- Inside a type its own parameters stand for the arguments. -/
theorem ownBinding_close {arity : Nat} {arguments : List ValueType}
    (arity_eq : arity = arguments.length) (small : arity ≤ 65535) :
    (ownBinding arity).close arguments = arguments := by
  subst arity_eq
  by_cases none : arguments.length = 0
  · rw [ownBinding, if_pos none, List.length_eq_zero_iff.mp none]
    rfl
  · rw [ownBinding, if_neg none]
    apply List.ext_getElem
    · simp [Binding.close, Binding.arguments, Module.ownParameters]
      omega
    · intro index inside before
      have below : index < 65536 := by omega
      simp [Binding.close, Binding.arguments, Module.ownParameters, ValueType.substitute,
        Nat.mod_eq_of_lt below, before]

/-- A call of a routine of the same type without parameters. -/
theorem attempt_ownCall {arity : Nat} {callee : RoutineId} {declared : RoutineDecl}
    {rest : List Instruction} {module : Module} {store : Store}
    (ahead : frame.Ahead handle (.call (ownRoutine arity callee) :: rest))
    (loaded : store.module handle = .ok module)
    (arity_eq : arity = frame.arguments.length) (small : arity ≤ 65535)
    (found : module.routine? callee = some declared) (takesNone : declared.parameters = [])
    (limit : Nat) (thread : ThreadId) (below : List Activation) :
    attempt limit thread store (.body frame :: below) =
      .running store (.call ⟨handle, callee, frame.arguments⟩ [] :: .body frame :: below) := by
  have current : frame.instruction? = some (.call (ownRoutine arity callee)) := ahead.instruction?
  have target_eq : frame.bound (ownRoutine arity callee) = ⟨handle, callee, frame.arguments⟩ := by
    simp only [Frame.bound, ownRoutine, ahead.module_eq, ownBinding_close arity_eq small]
  have prepares : prepareCall store frame (ownRoutine arity callee) = .ok ([], frame) := by
    have kept : frame.popMany 0 = .ok ([], frame.moved 0 []) := by
      simp only [Frame.popMany, ahead.operands_eq]
      rfl
    rw [ahead.moved_zero] at kept
    rw [← ahead.module_eq] at loaded
    simp only [prepareCall, loaded, ok_bind]
    simp only [ownRoutine, found, takesNone]
    exact kept
  simp only [attempt, current, stepBody, prepares, target_eq]

end Rekindle.Machine
