import Rekindle.Module.Names

/-!
# Building a module

New declarations go to the end of their table and into the list of the type that declares them,
and never disturb a handle that was given out before. Adding to a type that does not exist fails,
and so does a second field of one name on a type; what fails leaves the module as it was.

A member is referred to from inside its type through the type's own parameters, and from outside
under the arguments of one instantiation.
-/

namespace Rekindle

/-- Why a module could not be edited or a reference not be made. -/
inductive ModuleFault where
  | unknownType (id : TypeId)
  | unknownField (id : FieldId)
  | unknownRoutine (id : RoutineId)
  | arityMismatch (member : String) (expected actual : Nat)
  | duplicateMember (type name : String)
  /-- A type lists a member that does not exist. -/
  | dangling (handle : Dangling)
deriving DecidableEq, Repr, Inhabited

def ModuleFault.message : ModuleFault → String
  | .unknownType id => "unknown type handle " ++ id.text
  | .unknownField id => "unknown field handle " ++ id.text
  | .unknownRoutine id => "unknown method handle " ++ id.text
  | .arityMismatch member expected actual =>
    member ++ " is declared on a type with " ++ toString expected ++
      " generic parameter(s) but was bound with " ++ toString actual
  | .duplicateMember type name =>
    "type " ++ type ++ " already declares a member named " ++ name
  | .dangling handle => "no entry for " ++ handle.text

namespace Module

def addReference (module : Module) (name : String) : Module :=
  { module with references := module.references ++ [name] }

/-- Puts a declaration in place of the one at a handle that leads to one. -/
def setType (module : Module) (id : TypeId) (type : TypeDecl) : Module :=
  { module with types := module.types.setIfInBounds id.position type }

/-- Puts a declaration in place of the one at a handle that leads to one. -/
def setField (module : Module) (id : FieldId) (field : FieldDecl) : Module :=
  { module with fields := module.fields.setIfInBounds id.position field }

/-- Puts a declaration in place of the one at a handle that leads to one. -/
def setRoutine (module : Module) (id : RoutineId) (routine : RoutineDecl) : Module :=
  { module with routines := module.routines.setIfInBounds id.position routine }

/-- Adds a type that is nested in none. Its lists of members start empty. -/
def addType (module : Module) (type : TypeDecl) : Module × TypeId :=
  let id := TypeId.ofPosition module.types.size
  let fresh := { type with outer := none, nested := [], fields := [], routines := [] }
  ({ module with types := module.types.push fresh, topLevel := module.topLevel ++ [id] }, id)

/-- Adds a type that is nested in another. Its lists of members start empty. -/
def addNestedType (module : Module) (outer : TypeId) (type : TypeDecl) :
    Except ModuleFault (Module × TypeId) :=
  match module.type? outer with
  | none => .error (.unknownType outer)
  | some around =>
    let id := TypeId.ofPosition module.types.size
    let fresh := { type with outer := some outer, nested := [], fields := [], routines := [] }
    let grown := { around with nested := around.nested ++ [id] }
    .ok ({ module.setType outer grown with types := (module.setType outer grown).types.push fresh },
      id)

def addField (module : Module) (owner : TypeId) (field : FieldDecl) :
    Except ModuleFault (Module × FieldId) :=
  match module.type? owner with
  | none => .error (.unknownType owner)
  | some type =>
    match module.firstField (·.name = field.name) type.fields with
    | .error handle => .error (.dangling handle)
    | .ok (some _) => .error (.duplicateMember (module.fullName owner) field.name)
    | .ok none =>
      let id := FieldId.ofPosition module.fields.size
      let grown := { type with fields := type.fields ++ [id] }
      .ok ({ module.setType owner grown with fields := module.fields.push { field with owner } },
        id)

def addRoutine (module : Module) (owner : TypeId) (routine : RoutineDecl) :
    Except ModuleFault (Module × RoutineId) :=
  match module.type? owner with
  | none => .error (.unknownType owner)
  | some type =>
    let id := RoutineId.ofPosition module.routines.size
    let grown := { type with routines := type.routines ++ [id] }
    .ok ({ module.setType owner grown with
        routines := module.routines.push { routine with owner } }, id)

/-- The parameters of a type of an arity as arguments for itself. Positions have sixteen bits, so
the count wraps there. -/
def ownParameters (arity : Nat) : List ValueType :=
  (List.range (arity % 65536)).map fun position => .parameter (UInt16.ofNat position)

/-- The binding of a member, named `member` in messages, of a type as a viewpoint asks for it. -/
def bind (module : Module) (owner : TypeId) (member : String) (viewpoint : Viewpoint) :
    Except ModuleFault Binding :=
  match module.type? owner with
  | none => .error (.unknownType owner)
  | some type =>
    match viewpoint with
    | .inside => .ok (if type.arity = 0 then .direct else .instantiated (ownParameters type.arity))
    | .outside arguments =>
      if arguments.length = type.arity then
        .ok (if type.arity = 0 then .direct else .instantiated arguments)
      else .error (.arityMismatch member type.arity arguments.length)

def bindRoutine (module : Module) (id : RoutineId) (viewpoint : Viewpoint) :
    Except ModuleFault RoutineRef :=
  match module.routine? id with
  | none => .error (.unknownRoutine id)
  | some routine => do
    let binding ← module.bind routine.owner (module.routineName id) viewpoint
    return { routine := id, binding }

def bindField (module : Module) (id : FieldId) (viewpoint : Viewpoint) :
    Except ModuleFault FieldRef :=
  match module.field? id with
  | none => .error (.unknownField id)
  | some field => do
    let binding ← module.bind field.owner (module.fieldName id) viewpoint
    return { field := id, binding }

end Module

end Rekindle
