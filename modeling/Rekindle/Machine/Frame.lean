import Rekindle.Machine.Operands
import Rekindle.Machine.Store

/-!
# Frames

A frame is one execution of a body. It moves through the instructions of the body and has operands,
locals and parameters of its own. Here are the instructions whose effect is over at once; calls,
returns and accesses to fields involve more than the frame.
-/

namespace Rekindle.Machine

/-- One execution of a body. -/
structure Frame where
  module : ModuleHandle
  routine : RoutineId
  /-- The full name of the routine. -/
  name : String
  body : Body
  /-- Whether the routine has a result. -/
  returns : Bool
  /-- The arguments of the type that declares the routine. -/
  arguments : List ValueType
  parameters : Array Value
  locals : Array Value
  operands : Operands
  /-- The position of the current instruction. -/
  position : Nat
deriving DecidableEq, Repr, Inhabited

namespace Frame

def start (module : Module) (target : BoundRoutine) (routine : RoutineDecl) (body : Body)
    (parameters : List Value) : Frame where
  module := target.module
  routine := target.routine
  name := module.routineName target.routine
  body
  returns := routine.returns
  arguments := target.arguments
  parameters := parameters.toArray
  locals := (body.locals.map fun type => .default (type.substitute target.arguments)).toArray
  operands := .empty
  position := 0

/-- The frame that calls a routine at a depth of calls, which is limited. -/
def enter (limit depth : Nat) (store : Store) (target : BoundRoutine) (parameters : List Value) :
    Except Trap Frame :=
  if limit < depth then .error (.callDepthExceeded limit)
  else do
    let module ← store.module target.module
    match module.routine? target.routine with
    | none => throw (.unknownRoutine target.routine.text)
    | some routine =>
      match routine.body with
      | none => throw (.missingBody (module.routineName target.routine))
      | some body =>
        if parameters.length = routine.parameters.length then
          return start module target routine body parameters
        else
          throw (.argumentCount (module.routineName target.routine) routine.parameters.length
            parameters.length)

def instruction? (frame : Frame) : Option Instruction := frame.body.instructions[frame.position]?

def advance (frame : Frame) : Frame := { frame with position := frame.position + 1 }

def jump (frame : Frame) (target : UInt32) : Frame := { frame with position := target.toNat }

def push (frame : Frame) (value : Value) : Except Trap Frame := do
  let operands ← frame.operands.push value
  return { frame with operands }

def pop (frame : Frame) : Except Trap (Value × Frame) := do
  let (value, operands) ← frame.operands.pop frame.name
  return (value, { frame with operands })

def popMany (frame : Frame) (count : Nat) : Except Trap (List Value × Frame) := do
  let (values, operands) ← frame.operands.popMany count frame.name
  return (values, { frame with operands })

/-- Takes two operands, which come in the order they were pushed. -/
def popTwo (frame : Frame) : Except Trap (Value × Value × Frame) := do
  let (second, frame) ← frame.pop
  let (first, frame) ← frame.pop
  return (first, second, frame)

def popAddress (frame : Frame) (operation : String) : Except Trap (Address × Frame) := do
  let (value, frame) ← frame.pop
  match value with
  | .address place => return (place, frame)
  | other => throw (.mismatch operation other)

def yield (frame : Frame) (value : Value) : Except Trap Frame := do
  let frame ← frame.push value
  return frame.advance

def choose (frame : Frame) (condition : Bool) (target : UInt32) : Frame :=
  if condition then frame.jump target else frame.advance

def bound (frame : Frame) (reference : RoutineRef) : BoundRoutine where
  module := frame.module
  routine := reference.routine
  arguments := reference.binding.close frame.arguments

def address (frame : Frame) (store : Store) (reference : FieldRef) : Except Trap Address := do
  let module ← store.module frame.module
  match module.field? reference.field with
  | none => throw (.unknownField reference.field.text)
  | some field =>
    let slot ← Store.slotOf module reference.field
    return {
      instantiation := {
        module := frame.module
        type := field.owner
        arguments := reference.binding.close frame.arguments }
      slot }

/-- What a local holds, if the frame has one of this number. -/
def localValue (frame : Frame) (slot : UInt16) : Except Trap Value :=
  match frame.locals[slot.toNat]? with
  | some value => .ok value
  | none => .error (.badReference frame.name .localSlot)

def arithmetic (operation : String) (int32 : Int32 → Int32 → Int32)
    (int64 : Int64 → Int64 → Int64) (float64 : Binary64 → Binary64 → Binary64) :
    (first second : Value) → Except Trap Value
  | .int32 first, .int32 second => .ok (.int32 (int32 first second))
  | .int64 first, .int64 second => .ok (.int64 (int64 first second))
  | .float64 first, .float64 second => .ok (.float64 (float64 first second))
  | first, _ => .error (.mismatch operation first)

def calculate (frame : Frame) (operation : Value → Value → Except Trap Value) :
    Except Trap Frame := do
  let (first, second, frame) ← frame.popTwo
  let result ← operation first second
  frame.yield result

def newCallback (frame : Frame) (store : Store) : Except Trap (Store × Frame) := do
  let (target, pointer, frame) ← frame.popTwo
  match target, pointer with
  | .null, .pointer routine =>
    let (store, callback) := store.newCallback [routine]
    return (store, ← frame.yield callback)
  | .null, other => throw (.mismatch "newcallback" other)
  | other, _ => throw (.mismatch "newcallback" other)

def combineOffender (first second : Value) : Value :=
  match first with
  | .null | .callback _ => second
  | other => other

def combineCallbacks (frame : Frame) (store : Store) : Except Trap (Store × Frame) := do
  let (first, second, frame) ← frame.popTwo
  match store.combine first second with
  | some (store, combined) => return (store, ← frame.yield combined)
  | none => throw (.mismatch "combine" (combineOffender first second))

/-- Puts a value into a place if the place holds what is expected, and leaves what it held. -/
def compareExchange (frame : Frame) (store : Store) : Except Trap (Store × Frame) := do
  let (value, expected, frame) ← frame.popTwo
  let (place, frame) ← frame.popAddress "cmpxchg"
  match store.slot? place with
  | none => throw (.badReference frame.name .staticSlot)
  | some held =>
    let store := if held.same expected then store.setSlot place value else store
    return (store, ← frame.yield held)

/-- Whether leaving the current instruction would have to run a finalizing handler. -/
def isFinalized (frame : Frame) : Bool :=
  frame.body.handlers.any fun handler =>
    handler.kind = .finalizing && handler.covers frame.position

/-- Executes an instruction whose effect is over at once; for the other instructions see the
step of the machine. -/
def execute (frame : Frame) (store : Store) : Instruction → Except Trap (Store × Frame)
  | .pop => do
    let (_, frame) ← frame.pop
    return (store, frame.advance)
  | .dup => do
    let (value, frame) ← frame.pop
    let frame ← frame.push value
    return (store, ← frame.yield value)
  | .loadNull => return (store, ← frame.yield .null)
  | .loadInt32 value => return (store, ← frame.yield (.int32 value))
  | .loadInt64 value => return (store, ← frame.yield (.int64 value))
  | .loadFloat64 value => return (store, ← frame.yield (.float64 value))
  | .loadString value => return (store, ← frame.yield (.string value))
  | .loadLocal slot => do
    let value ← frame.localValue slot
    return (store, ← frame.yield value)
  | .storeLocal slot => do
    let (value, frame) ← frame.pop
    let _ ← frame.localValue slot
    let locals := frame.locals.setIfInBounds slot.toNat value
    return (store, { frame with locals }.advance)
  | .loadArgument slot => do
    match frame.parameters[slot.toNat]? with
    | some value => return (store, ← frame.yield value)
    | none => throw (.badReference frame.name .argument)
  | .storeDefault type => do
    let (place, frame) ← frame.popAddress "initobj"
    let store ← store.write place (.default (type.substitute frame.arguments))
    return (store, frame.advance)
  | .add => return (store, ← frame.calculate (arithmetic "add" (· + ·) (· + ·) Binary64.add))
  | .subtract => return (store, ← frame.calculate (arithmetic "sub" (· - ·) (· - ·) Binary64.sub))
  | .multiply => return (store, ← frame.calculate (arithmetic "mul" (· * ·) (· * ·) Binary64.mul))
  | .compareEqual => do
    let (first, second, frame) ← frame.popTwo
    return (store, ← frame.yield (.int32 (if first.same second then 1 else 0)))
  | .branch target => return (store, frame.jump target)
  | .branchTrue target => do
    let (value, frame) ← frame.pop
    return (store, frame.choose value.isTruthy target)
  | .branchFalse target => do
    let (value, frame) ← frame.pop
    return (store, frame.choose (!value.isTruthy) target)
  | .branchUnequal target => do
    let (first, second, frame) ← frame.popTwo
    return (store, frame.choose (!first.same second) target)
  | .loadRoutine reference => return (store, ← frame.yield (.pointer (frame.bound reference)))
  | .newCallback => frame.newCallback store
  | .combineCallbacks => frame.combineCallbacks store
  | .compareExchange => frame.compareExchange store
  | .throw => do
    let (value, _) ← frame.pop
    throw (.thrown value)
  | .leave target =>
    if frame.isFinalized then throw .finalizingHandler
    else return (store, { frame with operands := .empty }.jump target)
  | .endFinally => throw .finalizingHandler
  | .nop | .ret | .loadField _ | .storeField _ | .loadFieldAddress _ | .call _
  | .invokeCallback => return (store, frame.advance)

/-- What a frame makes of a trap in it or in what it called: a thrown value is received by the
first clause that protects the current instruction, if that clause catches. -/
def receive (frame : Frame) (trap : Trap) : Except Trap Frame :=
  match trap with
  | .thrown value =>
    match frame.body.handlers.find? (·.covers frame.position) with
    | some handler =>
      match handler.kind with
      | .catching => .ok ({ frame with operands := ⟨[value]⟩ }.jump handler.handlerStart)
      | .finalizing => .error .finalizingHandler
    | none => .error trap
  | _ => .error trap

def calleeReturns (frame : Frame) (store : Store) (reference : RoutineRef) : Bool :=
  match store.modules[frame.module.position]? with
  | none => false
  | some module =>
    match module.routine? reference.routine with
    | none => false
    | some callee => callee.returns

/-- Goes on after what the current instruction called, with the result if there is one. -/
def resume (frame : Frame) (store : Store) (result : Option Value) : Except Trap Frame :=
  match frame.instruction? with
  | some (.call reference) =>
    if frame.calleeReturns store reference then
      match result with
      | some value => frame.yield value
      | none => .error (.badReference frame.name .returnValue)
    else .ok frame.advance
  | _ => .ok frame.advance

end Frame

end Rekindle.Machine
