import Rekindle.Machine.Step
import Rekindle.Proofs.Fallible

/-!
# Frames under other names

A frame knows the routine it executes by its handle and its name, and uses the name in the texts of
traps only. Under another name it does the same, and raises the same traps under that name.
-/

namespace Rekindle.Machine

open Fallible

/-- What an execution of a body goes by: a routine and the full name of that. -/
structure Alias where
  routine : RoutineId
  name : String

/-- A frame that goes by an alias, if there is one. -/
def Frame.named (alias? : Option Alias) (frame : Frame) : Frame :=
  match alias? with
  | none => frame
  | some other => { frame with routine := other.routine, name := other.name }

/-- A trap as a frame raises it that goes by an alias, if there is one. -/
def Trap.named (alias? : Option Alias) (trap : Trap) : Trap :=
  match alias? with
  | none => trap
  | some other =>
    match trap with
    | .stackUnderflow _ => .stackUnderflow other.name
    | .badReference _ operand => .badReference other.name operand
    | .controlLeftBody _ => .controlLeftBody other.name
    | trap => trap

/-- A computation and what it is under an alias: the same up to a change of the result. -/
inductive Renamed (alias? : Option Alias) {α : Type} (change : α → α) :
    Except Trap α → Except Trap α → Prop where
  | ok (value : α) : Renamed alias? change (.ok value) (.ok (change value))
  | error (trap : Trap) : Renamed alias? change (.error trap) (.error (trap.named alias?))

namespace Renamed

variable {alias? : Option Alias} {α β : Type} {change : α → α} {further : β → β}

theorem bind {first other : Except Trap α} {next following : α → Except Trap β}
    (renamed : Renamed alias? change first other)
    (goesOn : ∀ value, Renamed alias? further (next value) (following (change value))) :
    Renamed alias? further (first >>= next) (other >>= following) := by
  cases renamed with
  | ok value => exact goesOn value
  | error trap => exact .error trap

theorem self {computation : Except Trap α} (same : ∀ value, change value = value) :
    Renamed none change computation computation := by
  cases computation with
  | error trap => exact .error trap
  | ok value =>
      have renamed : Renamed none change (.ok value) (.ok (change value)) := .ok value
      rwa [same] at renamed

/-- A trap that tells no name. -/
theorem nameless {trap : Trap} (same : trap.named alias? = trap) :
    Renamed alias? change (.error trap) (.error trap) := by
  have renamed : Renamed alias? change (.error trap) (.error (trap.named alias?)) := .error trap
  rwa [same] at renamed

end Renamed

namespace Operands

theorem pop_renamed (operands : Operands) (name : String) (other : Alias) :
    Renamed (some other) id (operands.pop name) (operands.pop other.name) := by
  unfold pop
  split
  · exact .error _
  · exact .ok _

theorem popMany_renamed (operands : Operands) (count : Nat) (name : String) (other : Alias) :
    Renamed (some other) id (operands.popMany count name) (operands.popMany count other.name) := by
  unfold popMany
  split
  · exact .error _
  · exact .ok _

theorem push_renamed (operands : Operands) (value : Value) (other : Alias) :
    Renamed (some other) id (operands.push value) (operands.push value) := by
  unfold push
  split
  · exact .ok _
  · exact .error _

end Operands

theorem Trap.named_mismatch (alias? : Option Alias) (operation : String) (found : Value) :
    (Trap.mismatch operation found).named alias? = .mismatch operation found := by
  cases alias? <;> rfl

namespace Frame

variable (alias? : Option Alias) (frame : Frame)

@[simp]
theorem named_module : (frame.named alias?).module = frame.module := by
  cases alias? <;> rfl

@[simp]
theorem named_body : (frame.named alias?).body = frame.body := by
  cases alias? <;> rfl

@[simp]
theorem named_returns : (frame.named alias?).returns = frame.returns := by
  cases alias? <;> rfl

@[simp]
theorem named_arguments : (frame.named alias?).arguments = frame.arguments := by
  cases alias? <;> rfl

@[simp]
theorem named_parameters : (frame.named alias?).parameters = frame.parameters := by
  cases alias? <;> rfl

@[simp]
theorem named_locals : (frame.named alias?).locals = frame.locals := by
  cases alias? <;> rfl

@[simp]
theorem named_operands : (frame.named alias?).operands = frame.operands := by
  cases alias? <;> rfl

@[simp]
theorem named_position : (frame.named alias?).position = frame.position := by
  cases alias? <;> rfl

theorem named_withOperands (operands : Operands) :
    { frame.named alias? with operands } = { frame with operands }.named alias? := by
  cases alias? <;> rfl

theorem named_withLocals (locals : Array Value) :
    { frame.named alias? with locals } = { frame with locals }.named alias? := by
  cases alias? <;> rfl

theorem named_advance : (frame.named alias?).advance = frame.advance.named alias? := by
  cases alias? <;> rfl

theorem named_jump (target : UInt32) :
    (frame.named alias?).jump target = (frame.jump target).named alias? := by
  cases alias? <;> rfl

theorem named_choose (condition : Bool) (target : UInt32) :
    (frame.named alias?).choose condition target = (frame.choose condition target).named alias? := by
  cases condition
  · exact named_advance alias? frame
  · exact named_jump alias? frame target

theorem named_instruction? : (frame.named alias?).instruction? = frame.instruction? := by
  cases alias? <;> rfl

theorem named_isFinalized : (frame.named alias?).isFinalized = frame.isFinalized := by
  cases alias? <;> rfl

theorem named_bound (reference : RoutineRef) :
    (frame.named alias?).bound reference = frame.bound reference := by
  cases alias? <;> rfl

theorem named_address (store : Store) (reference : FieldRef) :
    (frame.named alias?).address store reference = frame.address store reference := by
  cases alias? <;> rfl

theorem named_calleeReturns (store : Store) (reference : RoutineRef) :
    (frame.named alias?).calleeReturns store reference = frame.calleeReturns store reference := by
  cases alias? <;> rfl

/-! ### Operands -/

theorem pop_named : Renamed alias? (Prod.map id (named alias?)) frame.pop
    (frame.named alias?).pop := by
  cases alias? with
  | none => exact .self fun _ => rfl
  | some other =>
      exact (Operands.pop_renamed frame.operands frame.name other).bind fun ⟨value, operands⟩ =>
        .ok (value, { frame with operands })

theorem popMany_named (count : Nat) : Renamed alias? (Prod.map id (named alias?))
    (frame.popMany count) ((frame.named alias?).popMany count) := by
  cases alias? with
  | none => exact .self fun _ => rfl
  | some other =>
      exact (Operands.popMany_renamed frame.operands count frame.name other).bind
        fun ⟨values, operands⟩ => .ok (values, { frame with operands })

theorem push_named (value : Value) :
    Renamed alias? (named alias?) (frame.push value) ((frame.named alias?).push value) := by
  cases alias? with
  | none => exact .self fun _ => rfl
  | some other =>
      exact (Operands.push_renamed frame.operands value other).bind fun operands =>
        .ok { frame with operands }

theorem yield_named (value : Value) :
    Renamed alias? (named alias?) (frame.yield value) ((frame.named alias?).yield value) := by
  refine (push_named alias? frame value).bind fun pushed => ?_
  rw [named_advance]
  exact .ok _

theorem popTwo_named : Renamed alias? (Prod.map id (Prod.map id (named alias?))) frame.popTwo
    (frame.named alias?).popTwo := by
  refine (pop_named alias? frame).bind fun ⟨second, rest⟩ => ?_
  refine (pop_named alias? rest).bind fun ⟨first, rest⟩ => ?_
  exact .ok (first, second, rest)

theorem popAddress_named (operation : String) : Renamed alias? (Prod.map id (named alias?))
    (frame.popAddress operation) ((frame.named alias?).popAddress operation) := by
  refine (pop_named alias? frame).bind fun ⟨value, rest⟩ => ?_
  cases value with
  | address place => exact .ok (place, rest)
  | _ => exact .nameless (Trap.named_mismatch alias? operation _)

theorem localValue_named (slot : UInt16) : Renamed alias? id (frame.localValue slot)
    ((frame.named alias?).localValue slot) := by
  cases alias? with
  | none => exact .self fun _ => rfl
  | some other =>
      simp only [localValue, named]
      split
      · exact .ok _
      · exact .error _

theorem arithmetic_nameless {operation : String} {int32 : Int32 → Int32 → Int32}
    {int64 : Int64 → Int64 → Int64} {float64 : Binary64 → Binary64 → Binary64}
    (first second : Value) : Renamed alias? id
      (arithmetic operation int32 int64 float64 first second)
      (arithmetic operation int32 int64 float64 first second) := by
  unfold arithmetic
  split
  · exact .ok _
  · exact .ok _
  · exact .ok _
  · exact .nameless (Trap.named_mismatch alias? operation _)

theorem calculate_named {operation : Value → Value → Except Trap Value}
    (nameless : ∀ first second,
      Renamed alias? id (operation first second) (operation first second)) :
    Renamed alias? (named alias?) (frame.calculate operation)
      ((frame.named alias?).calculate operation) := by
  refine (popTwo_named alias? frame).bind fun ⟨first, second, rest⟩ => ?_
  exact (nameless first second).bind fun result => yield_named alias? rest result

/-! ### Instructions whose effect is over at once -/

variable (store : Store)

/-- Both frames go on, with the same store. -/
theorem onto_named {moved other : Except Trap Frame} (renamed : Renamed alias? (named alias?) moved other)
    (after : Store) : Renamed alias? (Prod.map id (named alias?))
      (moved >>= fun frame => pure (after, frame)) (other >>= fun frame => pure (after, frame)) :=
  renamed.bind fun frame => .ok (after, frame)

theorem newCallback_named : Renamed alias? (Prod.map id (named alias?)) (frame.newCallback store)
    ((frame.named alias?).newCallback store) := by
  refine (popTwo_named alias? frame).bind fun ⟨target, pointer, rest⟩ => ?_
  cases target with
  | null =>
      cases pointer with
      | pointer routine => exact onto_named alias? (yield_named alias? rest _) _
      | _ => exact .nameless (Trap.named_mismatch alias? _ _)
  | _ => exact .nameless (Trap.named_mismatch alias? _ _)

theorem combineCallbacks_named : Renamed alias? (Prod.map id (named alias?))
    (frame.combineCallbacks store) ((frame.named alias?).combineCallbacks store) := by
  refine (popTwo_named alias? frame).bind fun ⟨first, second, rest⟩ => ?_
  simp only [Prod.map, id]
  rcases store.combine first second with _ | ⟨grown, combined⟩
  · exact .nameless (Trap.named_mismatch alias? _ _)
  · exact onto_named alias? (yield_named alias? rest combined) grown

theorem compareExchange_named : Renamed alias? (Prod.map id (named alias?))
    (frame.compareExchange store) ((frame.named alias?).compareExchange store) := by
  refine (popTwo_named alias? frame).bind fun ⟨value, expected, rest⟩ => ?_
  refine (popAddress_named alias? rest _).bind fun ⟨place, rest⟩ => ?_
  simp only [Prod.map, id]
  rcases store.slot? place with _ | held
  · cases alias? <;> exact .error _
  · exact onto_named alias? (yield_named alias? rest held) _

theorem write_nameless (place : Address) (value : Value) :
    Renamed alias? id (store.write place value) (store.write place value) := by
  unfold Store.write
  split
  · exact .ok _
  · apply Renamed.nameless
    cases alias? <;> rfl

theorem execute_named (instruction : Instruction) : Renamed alias? (Prod.map id (named alias?))
    (frame.execute store instruction) ((frame.named alias?).execute store instruction) := by
  cases instruction with
  | pop =>
      refine (pop_named alias? frame).bind fun ⟨value, rest⟩ => ?_
      simp only [Prod.map, id, named_advance]
      exact .ok (store, _)
  | dup =>
      refine (pop_named alias? frame).bind fun ⟨value, rest⟩ => ?_
      refine (push_named alias? rest value).bind fun pushed => ?_
      exact onto_named alias? (yield_named alias? pushed value) store
  | loadNull | loadInt32 | loadInt64 | loadFloat64 | loadString =>
      exact onto_named alias? (yield_named alias? frame _) store
  | loadLocal slot =>
      refine (localValue_named alias? frame slot).bind fun value => ?_
      exact onto_named alias? (yield_named alias? frame value) store
  | storeLocal slot =>
      refine (pop_named alias? frame).bind fun ⟨value, rest⟩ => ?_
      refine (localValue_named alias? rest slot).bind fun held => ?_
      simp only [id, named_locals, named_withLocals, named_advance]
      exact .ok (store, _)
  | loadArgument slot =>
      simp only [execute, named_parameters]
      rcases frame.parameters[slot.toNat]? with _ | value
      · cases alias? <;> exact .error _
      · exact onto_named alias? (yield_named alias? frame value) store
  | storeDefault type =>
      refine (popAddress_named alias? frame _).bind fun ⟨place, rest⟩ => ?_
      simp only [Prod.map, id, named_arguments]
      refine (write_nameless alias? store place _).bind fun written => ?_
      simp only [id, named_advance]
      exact .ok (written, _)
  | add | subtract | multiply =>
      exact onto_named alias? (calculate_named alias? frame (arithmetic_nameless alias?)) store
  | compareEqual =>
      refine (popTwo_named alias? frame).bind fun ⟨first, second, rest⟩ => ?_
      exact onto_named alias? (yield_named alias? rest _) store
  | branch target =>
      simp only [execute, named_jump]
      exact .ok (store, _)
  | branchTrue target | branchFalse target =>
      refine (pop_named alias? frame).bind fun ⟨value, rest⟩ => ?_
      simp only [Prod.map, id, named_choose]
      exact .ok (store, _)
  | branchUnequal target =>
      refine (popTwo_named alias? frame).bind fun ⟨first, second, rest⟩ => ?_
      simp only [Prod.map, id, named_choose]
      exact .ok (store, _)
  | loadRoutine reference =>
      simp only [execute, named_bound]
      exact onto_named alias? (yield_named alias? frame _) store
  | newCallback => exact newCallback_named alias? frame store
  | combineCallbacks => exact combineCallbacks_named alias? frame store
  | compareExchange => exact compareExchange_named alias? frame store
  | throw =>
      refine (pop_named alias? frame).bind fun ⟨value, rest⟩ => ?_
      apply Renamed.nameless
      cases alias? <;> rfl
  | leave target =>
      simp only [execute, named_isFinalized]
      split
      · apply Renamed.nameless
        cases alias? <;> rfl
      · rw [named_withOperands, named_jump]
        exact .ok (store, _)
  | endFinally =>
      apply Renamed.nameless
      cases alias? <;> rfl
  | nop | ret | loadField | storeField | loadFieldAddress | call | invokeCallback =>
      simp only [execute, named_advance]
      exact .ok (store, _)

/-! ### Calls and traps -/

/-- What a frame receives does not depend on what it goes by, nor does what it lets through. -/
theorem receive_named (trap : Trap) :
    (frame.named alias?).receive trap = (frame.receive trap).map (named alias?) := by
  cases alias? with
  | none =>
      simp only [named]
      generalize frame.receive trap = received
      cases received <;> rfl
  | some other =>
      cases trap with
      | thrown value =>
          simp only [receive, named]
          split
          · split <;> rfl
          · rfl
      | _ => rfl

theorem resume_named (result : Option Value) : Renamed alias? (named alias?)
    (frame.resume store result) ((frame.named alias?).resume store result) := by
  simp only [resume, named_instruction?]
  split
  · rw [named_calleeReturns]
    split
    · split
      · exact yield_named alias? frame _
      · cases alias? <;> exact .error _
    · rw [named_advance]
      exact .ok _
  · rw [named_advance]
    exact .ok _

end Frame

variable (alias? : Option Alias) (frame : Frame) (store : Store)

theorem resultOf_named : Renamed alias? id (resultOf frame) (resultOf (frame.named alias?)) := by
  simp only [resultOf, Frame.named_returns]
  split
  · have popped := frame.pop_named alias?
    generalize frame.pop = first at popped ⊢
    generalize (frame.named alias?).pop = second at popped ⊢
    cases popped with
    | ok value => exact .ok _
    | error trap => exact .error trap
  · exact .ok _

theorem prepareCall_named (reference : RoutineRef) : Renamed alias?
    (Prod.map id (Frame.named alias?)) (prepareCall store frame reference)
    (prepareCall store (frame.named alias?) reference) := by
  simp only [prepareCall, Frame.named_module, Store.module]
  split
  · simp only [ok_bind]
    split
    · apply Renamed.nameless
      cases alias? <;> rfl
    · exact frame.popMany_named alias? _
  · apply Renamed.nameless
    cases alias? <;> rfl

theorem prepareInvoke_named : Renamed alias? (Prod.map id (Frame.named alias?))
    (prepareInvoke frame) (prepareInvoke (frame.named alias?)) := by
  refine (frame.pop_named alias?).bind fun ⟨value, rest⟩ => ?_
  cases value with
  | callback object => exact .ok (object.targets, rest)
  | null =>
      apply Renamed.nameless
      cases alias? <;> rfl
  | _ => exact .nameless (Trap.named_mismatch alias? _ _)

end Rekindle.Machine
