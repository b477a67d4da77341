import Rekindle.Module.Names
import Rekindle.Validity.Defect

/-!
# References

What a declaration or a body names must exist: types with the right number of arguments, type
parameters of the surrounding type, static fields with storage, static routines with a body.
-/

namespace Rekindle.Validity

def arityOf (module : Module) (context : String) (id : TypeId) : Except Defect Nat :=
  match module.type? id with
  | some type => .ok type.arity
  | none => .error (.danglingHandle context id.text)

mutual

def checkValueType (module : Module) (context : String) (arity : Nat) :
    ValueType → Except Defect Unit
  | .parameter index =>
    if index.toNat < arity then .ok () else .error (.parameterOutOfRange context index arity)
  | .pointer target => checkValueType module context arity target
  | .defined type arguments =>
    match arityOf module context type with
    | .error defect => .error defect
    | .ok expected =>
      if arguments.length = expected then checkValueTypes module context arity arguments
      else .error (.bindingArity context (module.fullName type) expected arguments.length)
  | .void | .bool | .int32 | .int64 | .float64 | .string | .object | .callback | .foreign _ => .ok ()

/-- Checks value types inside a type of an arity, up to the first that fails. -/
def checkValueTypes (module : Module) (context : String) (arity : Nat) :
    List ValueType → Except Defect Unit
  | [] => .ok ()
  | type :: types => do
    checkValueType module context arity type
    checkValueTypes module context arity types

end

def bindingFits (binding : Binding) (expected : Nat) : Bool :=
  match binding with
  | .direct => expected == 0
  | .instantiated arguments => 0 < expected && arguments.length == expected

/-- Checks how a member of a type is bound inside a type of an arity. -/
def checkBinding (module : Module) (context member : String) (owner : TypeId) (binding : Binding)
    (arity : Nat) : Except Defect Unit := do
  let expected ← arityOf module context owner
  if bindingFits binding expected then
    checkValueTypes module context arity binding.arguments
  else throw (.bindingArity context member expected binding.arity)

def checkFieldRef (module : Module) (context : String) (arity : Nat) (reference : FieldRef) :
    Except Defect Unit :=
  match module.field? reference.field with
  | none => .error (.danglingHandle context reference.field.text)
  | some field =>
    let member := module.fieldName reference.field
    if !field.isStatic then .error (.notStatic context member)
    else if field.isLiteral then .error (.literalAccess context member)
    else checkBinding module context member field.owner reference.binding arity

def checkRoutineRef (module : Module) (context : String) (arity : Nat) (reference : RoutineRef) :
    Except Defect Unit :=
  match module.routine? reference.routine with
  | none => .error (.danglingHandle context reference.routine.text)
  | some routine =>
    let member := module.routineName reference.routine
    if !routine.isStatic then .error (.notStatic context member)
    else if routine.body.isNone then .error (.missingBody context member)
    else checkBinding module context member routine.owner reference.binding arity

end Rekindle.Validity
