import Rekindle.Validity.Nesting
import Rekindle.Validity.References
import Rekindle.Validity.StackHeights

/-!
# Checking a module

A module is checked from the outside in: the forest of its types, which members the types list,
then every field, then every routine with its signature, its instructions in order, its protecting
clauses and its stack. The first defect ends the check.
-/

namespace Rekindle.Validity

def checkListedField (module : Module) (owner : TypeId) (context : String) (id : FieldId) :
    Except Defect Unit :=
  match module.field? id with
  | none => .error (.danglingHandle context id.text)
  | some field =>
    if field.owner = owner then .ok ()
    else .error (.nesting context (id.text ++ " is declared on " ++ field.owner.text))

def checkListedRoutine (module : Module) (owner : TypeId) (context : String) (id : RoutineId) :
    Except Defect Unit :=
  match module.routine? id with
  | none => .error (.danglingHandle context id.text)
  | some routine =>
    if routine.owner = owner then .ok ()
    else .error (.nesting context (id.text ++ " is declared on " ++ routine.owner.text))

def checkMembers (module : Module) (id : TypeId) : Except Defect Unit :=
  match module.type? id with
  | none => .ok ()
  | some type => do
    let context := module.fullName id
    type.fields.forM (checkListedField module id context)
    type.routines.forM (checkListedRoutine module id context)

def checkField (module : Module) (id : FieldId) : Except Defect Unit :=
  match module.field? id with
  | none => .ok ()
  | some field => do
    let context := module.fieldName id
    let arity ← arityOf module context field.owner
    checkValueType module context arity field.type
    if field.isLiteral && field.constant.isNone then throw (.missingConstant context context)

/-- What an instruction of a body is checked against. -/
structure Surroundings where
  module : Module
  context : String
  arity : Nat
  localCount : Nat
  argumentCount : Nat
  size : Nat

/-- Checks the operand of an instruction, apart from a branch target. -/
def checkOperand (around : Surroundings) : Instruction → Except Defect Unit
  | .loadLocal slot | .storeLocal slot =>
    if slot.toNat < around.localCount then .ok ()
    else .error (.localOutOfRange around.context slot around.localCount)
  | .loadArgument slot =>
    if slot.toNat < around.argumentCount then .ok ()
    else .error (.argumentOutOfRange around.context slot around.argumentCount)
  | .storeDefault type => checkValueType around.module around.context around.arity type
  | .loadField reference | .storeField reference | .loadFieldAddress reference =>
    checkFieldRef around.module around.context around.arity reference
  | .call reference | .loadRoutine reference =>
    checkRoutineRef around.module around.context around.arity reference
  | _ => .ok ()

/-- Checks an instruction at an offset: first where it branches to, then its operand. -/
def checkInstruction (around : Surroundings) (instruction : Instruction) (offset : Nat) :
    Except Defect Unit :=
  match instruction.target? with
  | some target =>
    if target.toNat < around.size then checkOperand around instruction
    else .error (.branchOutOfRange around.context offset target around.size)
  | none => checkOperand around instruction

/-- Whether the ranges of a clause are not empty, lie in the body and do not overlap. -/
def handlerFits (size : Nat) (handler : Handler) : Bool :=
  handler.tryStart < handler.tryEnd && handler.handlerStart < handler.handlerEnd &&
    handler.tryEnd.toNat ≤ size && handler.handlerEnd.toNat ≤ size &&
    (handler.tryEnd ≤ handler.handlerStart || handler.handlerEnd ≤ handler.tryStart)

def checkHandlers (context : String) (body : Body) : Except Defect Unit :=
  body.handlers.zipIdx.forM fun (handler, index) =>
    if handlerFits body.size handler then .ok () else .error (.invalidHandler context index)

def checkBody (module : Module) (context : String) (arity : Nat) (routine : RoutineDecl)
    (body : Body) : Except Defect Unit := do
  body.locals.forM (checkValueType module context arity)
  let around : Surroundings :=
    { module, context, arity, localCount := body.locals.length,
      argumentCount := routine.parameters.length, size := body.size }
  body.instructions.toList.zipIdx.forM fun (instruction, offset) =>
    checkInstruction around instruction offset
  checkHandlers context body
  let _ ← stackHeights module context routine body

def checkRoutine (module : Module) (id : RoutineId) : Except Defect Unit :=
  match module.routine? id with
  | none => .ok ()
  | some routine => do
    let context := module.routineName id
    let arity ← arityOf module context routine.owner
    checkValueType module context arity routine.result
    routine.parameters.forM fun parameter => checkValueType module context arity parameter.type
    match routine.body with
    | none => return
    | some body => checkBody module context arity routine body

def checkModule (module : Module) : Except Defect Unit := do
  checkNesting module
  module.typeIds.forM (checkMembers module)
  module.fieldIds.forM (checkField module)
  module.routineIds.forM (checkRoutine module)

end Rekindle.Validity
