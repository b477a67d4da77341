import Rekindle.Machine.Step

/-!
# The host

What a host can ask of the machine: to call a routine, and to read and write the static fields of
an instantiation, whose type is made ready first. Everything that is asked for names its
instantiation completely, and is looked up before anything runs. A computation is run for a bounded
number of steps, and is absent when that number does not suffice.
-/

namespace Rekindle.Machine

/-- How much a machine may use. -/
structure Limits where
  /-- The greatest number of bodies in execution at the same time. -/
  callDepth : Nat := 256
deriving DecidableEq, Repr, Inhabited

/-- What is wrong with limits. -/
inductive Limits.Fault where
  | noCallDepth
deriving DecidableEq, Repr, Inhabited

def Limits.Fault.message : Limits.Fault → String
  | .noCallDepth => "max_call_depth must be greater than zero"

/-- What is wrong with limits, if anything is. -/
def Limits.fault? (limits : Limits) : Option Limits.Fault :=
  if limits.callDepth = 0 then some .noCallDepth else none

def hostThread : ThreadId := ⟨0⟩

/-- Runs a thread to its end, if it ends within a number of steps and never has to wait. -/
def run (limit : Nat) (thread : ThreadId) :
    (steps : Nat) → Store → List Activation → Option (Store × Except Trap (Option Value))
  | 0, _, _ => none
  | steps + 1, store, activations =>
    match step limit thread store activations with
    | .running store activations => run limit thread steps store activations
    | .blocked _ _ => none
    | .finished store result => some (store, result)

/-- What a host is given, with the store as it is afterwards. -/
abbrev Answer (α : Type) := Option (Store × Except Trap α)

namespace Store

def findType (store : Store) (handle : ModuleHandle) (name : String) :
    Except Trap (Option TypeId) := do
  let module ← store.module handle
  return module.findType name

/-- A member of a type of a loaded module, by the names of both. -/
def findMember {Id : Type} (store : Store) (handle : ModuleHandle) (type name : String)
    (find : Module → TypeId → String → Except Dangling (Option Id))
    (unknown : String → Trap) : Except Trap Id := do
  let module ← store.module handle
  match module.findType type with
  | none => throw (.unknownType type)
  | some id =>
    match find module id name with
    | .ok (some member) => return member
    | .ok none | .error _ => throw (unknown (type ++ "::" ++ name))

/-- A routine of a loaded module, by its name and the name of its type. -/
def findRoutine (store : Store) (handle : ModuleHandle) (type name : String) :
    Except Trap RoutineId :=
  store.findMember handle type name Module.findRoutine .unknownRoutine

/-- A field of a loaded module, by its name and the name of its type. -/
def findField (store : Store) (handle : ModuleHandle) (type name : String) :
    Except Trap FieldId :=
  store.findMember handle type name Module.findField .unknownField

/-- Checks that arguments instantiate a type completely; `member` is what the host asked for. -/
def checkArguments (module : Module) (type : TypeId) (arguments : List ValueType)
    (member : String) : Except Trap Unit :=
  match module.type? type with
  | none => .error (.unknownType type.text)
  | some declared =>
    if declared.arity ≠ arguments.length then
      .error (.typeArity member declared.arity arguments.length)
    else
      match arguments.find? fun argument => !argument.isClosed with
      | some argument => .error (.openTypeArgument argument)
      | none => .ok ()

/-- A routine under arguments, as a host may call it. -/
def hostTarget (store : Store) (handle : ModuleHandle) (routine : RoutineId)
    (arguments : List ValueType) : Except Trap BoundRoutine := do
  let module ← store.module handle
  match module.routine? routine with
  | none => throw (.unknownRoutine routine.text)
  | some declared =>
    checkArguments module declared.owner arguments (module.routineName routine)
    return { module := handle, routine, arguments }

/-- The place of a static field under arguments, as a host may use it. -/
def hostAddress (store : Store) (handle : ModuleHandle) (field : FieldId)
    (arguments : List ValueType) : Except Trap Address := do
  let module ← store.module handle
  match module.field? field with
  | none => throw (.unknownField field.text)
  | some declared =>
    if !declared.hasStorage then
      throw (.unknownField (module.fieldName field ++ " has no static storage"))
    checkArguments module declared.owner arguments (module.fieldName field)
    let slot ← slotOf module field
    return { instantiation := { module := handle, type := declared.owner, arguments }, slot }

def invoke (store : Store) (limits : Limits) (steps : Nat) (handle : ModuleHandle)
    (routine : RoutineId) (arguments : List ValueType) (parameters : List Value) :
    Answer (Option Value) :=
  match store.hostTarget handle routine arguments with
  | .error trap => some (store, .error trap)
  | .ok target => run limits.callDepth hostThread steps store [.call target parameters]

/-- Makes the type of a static field ready and uses the place of the field. -/
def useField {α : Type} (store : Store) (limits : Limits) (steps : Nat) (handle : ModuleHandle)
    (field : FieldId) (arguments : List ValueType)
    (use : Store → Address → Except Trap (Store × α)) : Answer α :=
  match store.hostAddress handle field arguments with
  | .error trap => some (store, .error trap)
  | .ok address =>
    match run limits.callDepth hostThread steps store [.access address.instantiation] with
    | none => none
    | some (store, .error trap) => some (store, .error trap)
    | some (store, .ok _) =>
      match use store address with
      | .ok (store, value) => some (store, .ok value)
      | .error trap => some (store, .error trap)

def readField (store : Store) (limits : Limits) (steps : Nat) (handle : ModuleHandle)
    (field : FieldId) (arguments : List ValueType) : Answer Value :=
  store.useField limits steps handle field arguments fun store address =>
    match store.slot? address with
    | some value => .ok (store, value)
    | none => .error (.unknownField field.text)

def writeField (store : Store) (limits : Limits) (steps : Nat) (handle : ModuleHandle)
    (field : FieldId) (arguments : List ValueType) (value : Value) : Answer Unit :=
  store.useField limits steps handle field arguments fun store address =>
    match store.slot? address with
    | some _ => .ok (store.setSlot address value, ())
    | none => .error (.unknownField field.text)

end Store

end Rekindle.Machine
