import Rekindle.Reload.Dispatcher
import Rekindle.Reload.Survey

/-!
# Hooking a type

A type that takes part in reloading gets up to three routines: a copy of its initializer, a routine
that runs its teardown routines in order, and a routine that resets its fields and runs the copy.
Its initializer then runs the copy and registers the other two with the dispatcher. Every member is
referred to from inside the type, so each instantiation registers routines of its own.
-/

namespace Rekindle.Reload

/-- A module that is being made reloadable, with its debug symbols. -/
structure Workpiece where
  module : Module
  symbols : Option Symbols
deriving DecidableEq, Repr, Inhabited

/-- The routines that were added to a type or rewired. -/
structure Hook where
  type : TypeId
  fullName : String
  initializer : RoutineId
  initializerCopy : Option RoutineId
  load : Option RoutineId
  unload : Option RoutineId
deriving DecidableEq, Repr, Inhabited

namespace Hook

def callInside (module : Module) (id : RoutineId) : Except Fault Instruction :=
  ((module.bindRoutine id .inside).map Instruction.call).mapError .module

def initializerOf (module : Module) (type : TypeId) : Except Fault (Option RoutineId) :=
  (module.initializer type).mapError fun handle => .module (.dangling handle)

def nameOf (module : Module) (type : TypeId) : Except Fault String :=
  match module.type? type with
  | some type => .ok type.name
  | none => .error (.module (.dangling (.type type)))

def addedRoutine (markers : Markers) (name : String) (body : Body) : RoutineDecl :=
  { RoutineDecl.static name .void body with
    visibility := .withinType
    attributes := [generated markers] }

def addRoutine (markers : Markers) (module : Module) (type : TypeId) (name : String)
    (body : Body) : Except Fault (Module × RoutineId) :=
  (module.addRoutine type (addedRoutine markers name body)).mapError .module

def straightLine (instructions : List Instruction) : Body :=
  { Body.returning with instructions := (instructions ++ [Instruction.ret]).toArray }

/-- Adds a copy of the initializer of a type, with its sequence points, if there is one. -/
def copyInitializer (markers : Markers) (work : Workpiece) (type : TypeId) :
    Except Fault (Workpiece × Option RoutineId) := do
  match ← initializerOf work.module type with
  | none => return (work, none)
  | some initializer =>
    match (work.module.routine? initializer).bind (·.body) with
    | none => throw (.missingBody (work.module.routineName initializer))
    | some body =>
      let name ← nameOf work.module type
      let (module, copy) ←
        addRoutine markers work.module type (Names.initializerCopy name) body
      let symbols := work.symbols.map fun symbols => symbols.copyRoutine initializer copy
      return ({ module, symbols }, some copy)

/-- Adds the routine that runs the teardown routines of a candidate, if it has any. -/
def addUnload (markers : Markers) (module : Module) (candidate : Candidate) :
    Except Fault (Module × Option RoutineId) :=
  if candidate.teardowns.isEmpty then .ok (module, none)
  else do
    let calls ← candidate.teardowns.mapM fun teardown => callInside module teardown.routine
    let name ← nameOf module candidate.type
    let (module, unload) ←
      addRoutine markers module candidate.type (Names.unloadType name) (straightLine calls)
    return (module, some unload)

def resetField (module : Module) (id : FieldId) : Except Fault (List Instruction) := do
  let reference ← (module.bindField id .inside).mapError .module
  match module.field? id with
  | none => throw (.module (.unknownField id))
  | some field => return [.loadFieldAddress reference, .storeDefault field.type]

def callIfPresent (module : Module) : Option RoutineId → Except Fault (List Instruction)
  | none => .ok []
  | some id => do return [← callInside module id]

/-- Adds the routine that resets the fields of a candidate and runs the copy of its initializer, if
there is either. -/
def addLoad (markers : Markers) (module : Module) (candidate : Candidate)
    (copy : Option RoutineId) : Except Fault (Module × Option RoutineId) :=
  if candidate.fields.isEmpty && copy.isNone then .ok (module, none)
  else do
    let resets ← candidate.fields.mapM fun field => resetField module field.field
    let call ← callIfPresent module copy
    let name ← nameOf module candidate.type
    let (module, load) ←
      addRoutine markers module candidate.type (Names.loadType name)
        (straightLine (resets.flatten ++ call))
    return (module, some load)

/-- The initializer of a type, which is added where there is none. -/
def ensureInitializer (module : Module) (type : TypeId) : Except Fault (Module × RoutineId) := do
  match ← initializerOf module type with
  | some initializer => return (module, initializer)
  | none =>
    (module.addRoutine type (.typeInitializer .returning)).mapError .module

/-- The instructions that register a routine, if it is present, with the dispatcher. -/
def register (module : Module) (routine : Option RoutineId) (registrar : RoutineId) :
    Except Fault (List Instruction) :=
  match routine with
  | none => .ok []
  | some id => do
    let reference ← (module.bindRoutine id .inside).mapError .module
    let call ← callInside module registrar
    return [.loadNull, .loadRoutine reference, .newCallback, call]

def initializerBody (module : Module) (dispatcher : Dispatcher)
    (copy load unload : Option RoutineId) : Except Fault Body := do
  let call ← callIfPresent module copy
  let registerLoad ← register module load dispatcher.registerLoad
  let registerUnload ← register module unload dispatcher.registerUnload
  return straightLine (call ++ registerLoad ++ registerUnload)

/-- Rewires the initializer of a type, which loses its sequence points. An initializer that was
added stays in the module when the body cannot be made. -/
def rewireInitializer (work : Workpiece) (type : TypeId) (dispatcher : Dispatcher)
    (copy load unload : Option RoutineId) : Workpiece × Except Fault RoutineId :=
  match ensureInitializer work.module type with
  | .error fault => (work, .error fault)
  | .ok (module, initializer) =>
    match initializerBody module dispatcher copy load unload, module.routine? initializer with
    | .error fault, _ => ({ work with module }, .error fault)
    | .ok _, none => ({ work with module }, .error (.module (.dangling (.routine initializer))))
    | .ok body, some routine =>
      ({ module := module.setRoutine initializer { routine with body := some body }
         symbols := work.symbols.map fun symbols => symbols.clearRoutine initializer },
        .ok initializer)

def ofCandidate (markers : Markers) (dispatcher : Dispatcher) (work : Workpiece)
    (candidate : Candidate) : Except Fault (Workpiece × Hook) := do
  let (work, initializerCopy) ← copyInitializer markers work candidate.type
  let (module, unload) ← addUnload markers work.module candidate
  let (module, load) ← addLoad markers module candidate initializerCopy
  let (work, outcome) :=
    rewireInitializer { work with module } candidate.type dispatcher initializerCopy load unload
  let initializer ← outcome
  return (work,
    { type := candidate.type, fullName := candidate.fullName, initializer, initializerCopy, load,
      unload })

def ofCandidates (markers : Markers) (dispatcher : Dispatcher) (work : Workpiece) :
    List Candidate → Except Fault (Workpiece × List Hook)
  | [] => .ok (work, [])
  | candidate :: candidates => do
    let (work, hook) ← ofCandidate markers dispatcher work candidate
    let (work, hooks) ← ofCandidates markers dispatcher work candidates
    return (work, hook :: hooks)

end Hook

end Rekindle.Reload
