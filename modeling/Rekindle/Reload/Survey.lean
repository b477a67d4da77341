import Rekindle.Module.Nest
import Rekindle.Reload.Diagnostic
import Rekindle.Reload.Fault

/-!
# Surveying a module

A type takes part in reloading when it carries the attribute that says so and has something to
reload: a static field with storage, or a teardown routine. A teardown routine is static, has no
parameters of any kind and no result, has a body, is not the initializer and carries its own
attribute, whose ordering property is a number. Resetting a read-only field is worth a warning
unless the field says that it is intended.
-/

namespace Rekindle.Reload

/-- A field that is reset by a reload. -/
structure FieldCandidate where
  field : FieldId
  name : String
  isReadOnly : Bool
  /-- Whether the field carries the attribute of intended resets. -/
  isForced : Bool
deriving DecidableEq, Repr, Inhabited

/-- A routine that is run before its type is reset. -/
structure Teardown where
  routine : RoutineId
  name : String
  order : Int32
deriving DecidableEq, Repr, Inhabited

/-- A type that takes part in reloading. -/
structure Candidate where
  type : TypeId
  fullName : String
  /-- In the order of their declaration. -/
  fields : List FieldCandidate
  /-- Ascending by their order, and by their declaration where that is equal. -/
  teardowns : List Teardown
deriving DecidableEq, Repr, Inhabited

/-- What a survey of a module finds. -/
structure Survey where
  candidates : List Candidate
  diagnostics : List Diagnostic
  /-- The number of types that were looked at. -/
  visited : Nat
deriving DecidableEq, Repr, Inhabited

namespace Survey

/-- What a reload resets of a field, if it has storage. -/
def fieldCandidate (markers : Markers) (module : Module) (id : FieldId) :
    Except Fault (Option FieldCandidate) :=
  match module.field? id with
  | none => .error (.module (.unknownField id))
  | some field =>
    .ok (if field.hasStorage then
      some {
        field := id
        name := field.name
        isReadOnly := field.isReadOnly
        isForced := Attribute.has field.attributes markers.forceReload }
    else none)

def isTeardown (routine : RoutineDecl) : Bool :=
  routine.isStatic && routine.parameters.isEmpty && routine.result.isVoid &&
    !routine.isGeneric && !routine.isInitializer && routine.body.isSome

/-- The order that the attribute of a teardown routine asks for, zero where it asks for none. -/
def orderOf (markers : Markers) (module : Module) (id : RoutineId) (marker : Attribute) :
    Except Fault Int32 :=
  match marker.property? markers.orderProperty with
  | none => .ok 0
  | some value =>
    match value.int32? with
    | some order => .ok order
    | none => .error (.invalidOrderKey (module.routineName id) markers.orderProperty value.text)

/-- What a reload runs of a routine, if it is a teardown routine. -/
def teardown (markers : Markers) (module : Module) (id : RoutineId) :
    Except Fault (Option Teardown) :=
  match module.routine? id with
  | none => .error (.module (.unknownRoutine id))
  | some routine =>
    match Attribute.find? routine.attributes markers.runBeforeReload with
    | none => .ok none
    | some marker =>
      if isTeardown routine then do
        let order ← orderOf markers module id marker
        return some { routine := id, name := routine.name, order }
      else .ok none

/-- The verdict on a type: a candidate, or nothing to reload. -/
def inspectType (markers : Markers) (module : Module) (id : TypeId) :
    Except Fault (Option Candidate) :=
  match module.type? id with
  | none => .error (.module (.unknownType id))
  | some type =>
    if Attribute.has type.attributes markers.reloadOnEnter then do
      let fields ← type.fields.mapM (fieldCandidate markers module)
      let teardowns ← type.routines.mapM (teardown markers module)
      let fields := fields.filterMap fun found => found
      let teardowns := (teardowns.filterMap fun found => found).mergeSort
        fun left right => left.order ≤ right.order
      return if fields.isEmpty && teardowns.isEmpty then none
        else some { type := id, fullName := module.fullName id, fields, teardowns }
    else .ok none

/-- The warning about a read-only field of a type that will be reset. -/
def readOnlyWarning (markers : Markers) (field type : String) : String :=
  "Static field '" ++ field ++ "' of type '" ++ type ++
    "' is read-only but will be reset on reload. " ++
    "Read-only fields initialized from it will keep stale values. " ++
    "Remove the read-only modifier, make it a constant, or mark it [" ++
    markers.forceReloadShortName ++ "] to accept the reset."

/-- What is to be reported about a candidate: its read-only fields whose reset is not intended. -/
def warnings (markers : Markers) (symbols : Option Symbols) (candidate : Candidate) :
    List Diagnostic :=
  (candidate.fields.filter fun field => field.isReadOnly && !field.isForced).map fun field =>
    { severity := .warning
      message := readOnlyWarning markers field.name candidate.fullName
      location := symbols.bind fun symbols => symbols.fieldLocation field.field }

def ofModule (markers : Markers) (module : Module) (symbols : Option Symbols) :
    Except Fault Survey := do
  let verdicts ← module.nestOrder.mapM (inspectType markers module)
  let candidates := verdicts.filterMap fun found => found
  return {
    candidates
    diagnostics := candidates.flatMap (warnings markers symbols)
    visited := module.nestOrder.length }

end Survey

end Rekindle.Reload
