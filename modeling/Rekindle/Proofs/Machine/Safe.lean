import Rekindle.Machine.Frame
import Rekindle.Proofs.Machine.Storage
import Rekindle.Validity.StackHeights

/-!
# Instructions that find what they need

An instruction that finds as many operands as it takes, and the local or argument it names, either
raises a trap for another reason or moves its frame to one of the places where control can go from
it, at the height that belongs there.
-/

namespace Rekindle.Machine

open Fallible Validity

/-- Whether a trap tells that a body took more operands than there were, referred to something its
frame does not have, or was left by control. -/
def Trap.isStackFault : Trap → Bool
  | .stackUnderflow _ | .controlLeftBody _ => true
  | .badReference _ operand => operand ≠ .staticSlot
  | _ => false

/-- Whether a computation raises no trap of this kind, and gives only results with a property. -/
def Safe {α : Type} (computation : Except Trap α) (holds : α → Prop) : Prop :=
  match computation with
  | .ok value => holds value
  | .error trap => trap.isStackFault = false

namespace Safe

variable {α β : Type} {holds : α → Prop} {after : β → Prop}

theorem bind {first : Except Trap α} {next : α → Except Trap β} (safe : Safe first holds)
    (goesOn : ∀ value, holds value → Safe (next value) after) : Safe (first >>= next) after := by
  cases first with
  | error trap => exact safe
  | ok value => exact goesOn value safe

theorem mono {computation : Except Trap α} {weaker : α → Prop} (safe : Safe computation holds)
    (implies : ∀ value, holds value → weaker value) : Safe computation weaker := by
  cases computation with
  | error trap => exact safe
  | ok value => exact implies value safe

end Safe

namespace Frame

variable {frame after last : Frame} {position height place level : Nat}

/-- A frame that has moved to a position and a height, and otherwise only its locals may have
changed. -/
structure Moved (frame after : Frame) (position height : Nat) : Prop where
  module_eq : after.module = frame.module
  routine_eq : after.routine = frame.routine
  name_eq : after.name = frame.name
  body_eq : after.body = frame.body
  returns_eq : after.returns = frame.returns
  parameters_eq : after.parameters = frame.parameters
  localCount : after.locals.size = frame.locals.size
  position_eq : after.position = position
  height_eq : after.operands.height = height

theorem Moved.trans (first : Moved frame after position height)
    (second : Moved after last place level) : Moved frame last place level where
  module_eq := second.module_eq.trans first.module_eq
  routine_eq := second.routine_eq.trans first.routine_eq
  name_eq := second.name_eq.trans first.name_eq
  body_eq := second.body_eq.trans first.body_eq
  returns_eq := second.returns_eq.trans first.returns_eq
  parameters_eq := second.parameters_eq.trans first.parameters_eq
  localCount := second.localCount.trans first.localCount
  position_eq := second.position_eq
  height_eq := second.height_eq

/-! ### Operands -/

theorem pop_safe (enough : frame.operands.height = height + 1) :
    Safe frame.pop fun popped => Moved frame popped.2 frame.position height := by
  rcases operands : frame.operands.values with _ | ⟨value, others⟩
  · simp [Operands.height, operands] at enough
  · simp only [Operands.height, operands, List.length_cons, Nat.add_right_cancel_iff] at enough
    simp only [pop, Operands.pop, operands, ok_bind, pure_eq_ok, Safe]
    exact ⟨rfl, rfl, rfl, rfl, rfl, rfl, rfl, rfl, enough⟩

theorem push_safe (value : Value) :
    Safe (frame.push value) fun after =>
      Moved frame after frame.position (frame.operands.height + 1) := by
  simp only [push, Operands.push]
  split
  · exact ⟨rfl, rfl, rfl, rfl, rfl, rfl, rfl, rfl, by simp [Operands.height]⟩
  · rfl

theorem yield_safe (value : Value) :
    Safe (frame.yield value) fun after =>
      Moved frame after (frame.position + 1) (frame.operands.height + 1) := by
  refine (push_safe value).bind fun pushed moved => ?_
  exact { moved with position_eq := by rw [← moved.position_eq]; rfl }

theorem popTwo_safe (enough : frame.operands.height = height + 2) :
    Safe frame.popTwo fun popped => Moved frame popped.2.2 frame.position height := by
  refine (pop_safe enough).bind fun second moved => ?_
  refine (pop_safe moved.height_eq).bind fun first movedAgain => ?_
  exact moved.position_eq ▸ moved.trans movedAgain

theorem popAddress_safe (operation : String) (enough : frame.operands.height = height + 1) :
    Safe (frame.popAddress operation) fun popped => Moved frame popped.2 frame.position height := by
  refine (pop_safe enough).bind fun popped moved => ?_
  rcases popped with ⟨value, rest⟩
  cases value with
  | address place => exact moved
  | _ => rfl

theorem popMany_safe (count : Nat) (enough : frame.operands.height = height + count) :
    Safe (frame.popMany count) fun popped => Moved frame popped.2 frame.position height := by
  have sufficient : ¬frame.operands.height < count := by omega
  simp only [popMany, Operands.popMany, sufficient, if_false, ok_bind, pure_eq_ok, Safe]
  refine ⟨rfl, rfl, rfl, rfl, rfl, rfl, rfl, rfl, ?_⟩
  have count_eq : frame.operands.values.length = height + count := enough
  simp [Operands.height, count_eq]

/-! ### Moving on -/

theorem Moved.advance (moved : Moved frame after position height) :
    Moved frame after.advance (position + 1) height :=
  { moved with position_eq := by rw [← moved.position_eq]; rfl }

theorem Moved.jump (moved : Moved frame after position height) (target : UInt32) :
    Moved frame (after.jump target) target.toNat height :=
  { moved with position_eq := rfl }

theorem Moved.choose (moved : Moved frame after position height) (condition : Bool)
    (target : UInt32) :
    Moved frame (after.choose condition target) (position + 1) height ∨
      Moved frame (after.choose condition target) target.toNat height := by
  cases condition with
  | false => exact .inl moved.advance
  | true => exact .inr (moved.jump target)

theorem Moved.yield_safe (moved : Moved frame after position height) (value : Value) :
    Safe (after.yield value) fun next => Moved frame next (position + 1) (height + 1) := by
  refine (Frame.yield_safe value).mono fun next movedAgain => ?_
  have whole := moved.trans movedAgain
  rwa [moved.position_eq, moved.height_eq] at whole

/-! ### Instructions -/

/-- Whether a frame has the local or argument that an instruction names. -/
def Names (frame : Frame) : Instruction → Prop
  | .loadLocal slot | .storeLocal slot => slot.toNat < frame.locals.size
  | .loadArgument slot => slot.toNat < frame.parameters.size
  | _ => True

/-- Whether the effect of an instruction is over at once. -/
def Immediate : Instruction → Prop
  | .ret | .loadField _ | .storeField _ | .loadFieldAddress _ | .call _ | .invokeCallback => False
  | _ => True

/-- What an instruction leads to: a frame in a place where control can go, at the right height, with
the same modules loaded. -/
def Arrives (module : Module) (store : Store) (frame : Frame) (instruction : Instruction)
    (result : Store × Frame) : Prop :=
  result.1.modules = store.modules ∧
    ∃ next ∈ successors instruction frame.position
      (frame.operands.height - pops module instruction + pushes module instruction),
      Moved frame result.2 next.1 next.2

variable {module : Module} {store : Store} {instruction : Instruction}

theorem localValue_safe {slot : UInt16} (named : slot.toNat < frame.locals.size) :
    Safe (frame.localValue slot) fun _ => True := by
  simp only [localValue, Array.getElem?_eq_getElem named]
  trivial

/-- A frame that moves to the next instruction arrives, if control can fall through. -/
theorem arrives_next {result : Store × Frame} (kept : result.1.modules = store.modules)
    (moved : Moved frame result.2 (frame.position + 1) height)
    (falls : ∀ height, successors instruction frame.position height =
      [(frame.position + 1, height)])
    (level : frame.operands.height - pops module instruction + pushes module instruction =
      height) :
    Arrives module store frame instruction result := by
  refine ⟨kept, (frame.position + 1, height), ?_, moved⟩
  rw [falls, level]
  exact List.mem_singleton_self _

theorem load_safe (value : Value) (takes : pops module instruction = 0)
    (leaves : pushes module instruction = 1)
    (falls : ∀ height, successors instruction frame.position height =
      [(frame.position + 1, height)]) :
    Safe (do return (store, ← frame.yield value)) (Arrives module store frame instruction) := by
  refine (yield_safe value).bind fun next moved => ?_
  exact arrives_next rfl moved falls (by rw [takes, leaves]; rfl)

theorem calculate_safe {operation : Value → Value → Except Trap Value}
    (enough : frame.operands.height = height + 2)
    (raises : ∀ first second, Safe (operation first second) fun _ => True) :
    Safe (frame.calculate operation) fun after =>
      Moved frame after (frame.position + 1) (height + 1) := by
  refine (popTwo_safe enough).bind fun popped moved => ?_
  refine (raises popped.1 popped.2.1).bind fun value _ => ?_
  exact moved.yield_safe value

theorem arithmetic_safe {operation : String} {int32 : Int32 → Int32 → Int32}
    {int64 : Int64 → Int64 → Int64} {float64 : Binary64 → Binary64 → Binary64}
    (first second : Value) :
    Safe (arithmetic operation int32 int64 float64 first second) fun _ => True := by
  cases first <;> cases second <;> trivial

/-- A frame that moves on or jumps arrives, if control can do both. -/
theorem arrives_branch {result : Store × Frame} {target : UInt32}
    (kept : result.1.modules = store.modules)
    (moved : Moved frame result.2 (frame.position + 1) height ∨
      Moved frame result.2 target.toNat height)
    (branches : ∀ height, successors instruction frame.position height =
      [(frame.position + 1, height), (target.toNat, height)])
    (level : frame.operands.height - pops module instruction + pushes module instruction =
      height) :
    Arrives module store frame instruction result := by
  rcases moved with moved | moved
  · refine ⟨kept, (frame.position + 1, height), ?_, moved⟩
    rw [branches, level]
    exact List.mem_cons_self
  · refine ⟨kept, (target.toNat, height), ?_, moved⟩
    rw [branches, level]
    exact List.mem_cons_of_mem _ (List.mem_singleton_self _)

theorem newCallback_safe (enough : frame.operands.height = height + 2) :
    Safe (frame.newCallback store) (Arrives module store frame .newCallback) := by
  refine (popTwo_safe enough).bind fun popped moved => ?_
  rcases popped with ⟨target, pointer, rest⟩
  cases target with
  | null =>
      cases pointer with
      | pointer routine =>
          refine (moved.yield_safe _).bind fun next movedOn => ?_
          exact arrives_next rfl movedOn (fun _ => rfl) (by rw [enough]; rfl)
      | _ => rfl
  | _ => cases pointer <;> rfl

theorem combineCallbacks_safe (enough : frame.operands.height = height + 2) :
    Safe (frame.combineCallbacks store) (Arrives module store frame .combineCallbacks) := by
  refine (popTwo_safe enough).bind fun popped moved => ?_
  rcases popped with ⟨first, second, rest⟩
  rcases combined : Value.combine store.nextCallback first second with _ | value
  · simp only [Store.combine, combined]
    rfl
  · simp only [Store.combine, combined, Option.map_some]
    refine (moved.yield_safe _).bind fun next movedOn => ?_
    exact arrives_next rfl movedOn (fun _ => rfl) (by rw [enough]; rfl)

theorem compareExchange_safe (enough : frame.operands.height = height + 3) :
    Safe (frame.compareExchange store) (Arrives module store frame .compareExchange) := by
  have enoughForTwo : frame.operands.height = height + 1 + 2 := enough
  refine (popTwo_safe enoughForTwo).bind fun popped moved => ?_
  rcases popped with ⟨value, expected, rest⟩
  refine (popAddress_safe "cmpxchg" moved.height_eq).bind fun placed movedOn => ?_
  rcases placed with ⟨place, rest⟩
  rcases found : store.slot? place with _ | held
  · simp only [found]
    rfl
  · simp only [found]
    have whole := moved.trans movedOn
    rw [moved.position_eq] at whole
    refine (whole.yield_safe held).bind fun next arrived => ?_
    refine arrives_next ?_ arrived (fun _ => rfl) (by rw [enough]; rfl)
    simp only
    split <;> rfl

theorem storeDefault_safe (type : ValueType) (enough : frame.operands.height = height + 1) :
    Safe (frame.execute store (.storeDefault type))
      (Arrives module store frame (.storeDefault type)) := by
  refine (popAddress_safe "initobj" enough).bind fun placed moved => ?_
  rcases placed with ⟨place, rest⟩
  rcases found : store.slot? place with _ | held
  · simp only [Store.write, found]
    rfl
  · simp only [Store.write, found, ok_bind, pure_eq_ok]
    exact arrives_next rfl moved.advance (fun _ => rfl) (by rw [enough]; rfl)

theorem storeLocal_safe (slot : UInt16) (enough : frame.operands.height = height + 1)
    (named : slot.toNat < frame.locals.size) :
    Safe (frame.execute store (.storeLocal slot))
      (Arrives module store frame (.storeLocal slot)) := by
  refine (pop_safe enough).bind fun popped moved => ?_
  refine (localValue_safe (moved.localCount ▸ named)).bind fun _ _ => ?_
  have kept : (popped.2.locals.setIfInBounds slot.toNat popped.1).size = frame.locals.size := by
    rw [Array.size_setIfInBounds, moved.localCount]
  exact arrives_next rfl { moved.advance with localCount := kept } (fun _ => rfl)
    (by rw [enough]; rfl)

/-- An instruction whose effect is over at once, and which finds what it needs, arrives. -/
theorem execute_safe (enough : pops module instruction ≤ frame.operands.height)
    (named : frame.Names instruction) (immediate : Immediate instruction) :
    Safe (frame.execute store instruction) (Arrives module store frame instruction) := by
  rcases Nat.exists_eq_add_of_le' enough with ⟨height, level⟩
  have still : Moved frame frame frame.position frame.operands.height :=
    ⟨rfl, rfl, rfl, rfl, rfl, rfl, rfl, rfl, rfl⟩
  cases instruction with
  | ret | loadField _ | storeField _ | loadFieldAddress _ | call _ | invokeCallback =>
      exact immediate.elim
  | nop => exact arrives_next rfl still.advance (fun _ => rfl) rfl
  | loadNull | loadInt32 _ | loadInt64 _ | loadFloat64 _ | loadString _ | loadRoutine _ =>
      exact load_safe _ rfl rfl fun _ => rfl
  | loadLocal slot =>
      refine (localValue_safe named).bind fun value _ => ?_
      exact load_safe value rfl rfl fun _ => rfl
  | loadArgument slot =>
      have found : frame.parameters[slot.toNat]? = some frame.parameters[slot.toNat] :=
        Array.getElem?_eq_getElem named
      simp only [execute, found]
      exact load_safe _ rfl rfl fun _ => rfl
  | pop =>
      refine (pop_safe level).bind fun popped moved => ?_
      exact arrives_next rfl moved.advance (fun _ => rfl) (by rw [level]; rfl)
  | dup =>
      refine (pop_safe level).bind fun popped moved => ?_
      refine (push_safe popped.1).bind fun pushed movedOn => ?_
      have whole := moved.trans movedOn
      rw [moved.position_eq, moved.height_eq] at whole
      refine (whole.yield_safe _).bind fun next arrived => ?_
      exact arrives_next rfl arrived (fun _ => rfl) (by rw [level]; rfl)
  | storeLocal slot => exact storeLocal_safe slot level named
  | storeDefault type => exact storeDefault_safe type level
  | add | subtract | multiply =>
      refine (calculate_safe level arithmetic_safe).bind fun next moved => ?_
      exact arrives_next rfl moved (fun _ => rfl) (by rw [level]; rfl)
  | compareEqual =>
      refine (popTwo_safe level).bind fun popped moved => ?_
      refine (moved.yield_safe _).bind fun next movedOn => ?_
      exact arrives_next rfl movedOn (fun _ => rfl) (by rw [level]; rfl)
  | branch target =>
      exact ⟨rfl, _, List.mem_singleton_self _, still.jump target⟩
  | branchTrue target | branchFalse target =>
      refine (pop_safe level).bind fun popped moved => ?_
      exact arrives_branch rfl (moved.choose _ target) (fun _ => rfl) (by rw [level]; rfl)
  | branchUnequal target =>
      refine (popTwo_safe level).bind fun popped moved => ?_
      exact arrives_branch rfl (moved.choose _ target) (fun _ => rfl) (by rw [level]; rfl)
  | newCallback => exact newCallback_safe level
  | combineCallbacks => exact combineCallbacks_safe level
  | compareExchange => exact compareExchange_safe level
  | throw => exact (pop_safe level).bind fun _ _ => rfl
  | leave target =>
      by_cases finalized : frame.isFinalized = true
      · simp only [execute, finalized, if_true]
        rfl
      · simp only [execute, finalized]
        exact ⟨rfl, _, List.mem_singleton_self _, rfl, rfl, rfl, rfl, rfl, rfl, rfl, rfl, rfl⟩
  | endFinally => rfl

end Frame

end Rekindle.Machine
