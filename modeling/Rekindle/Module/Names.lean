import Rekindle.Module.Basic

/-!
# Names

The full name of a type is the qualified name of the outermost type around it, followed by the
names on the way down. It is read off the chain of types each of which is nested in the next; where
that chain leaves the module or never ends, the handle stands in for the name.
-/

namespace Rekindle.Module

/-- The type, the type around it, and so on to a type that is nested in none, if that one is
reached within the given number of types. -/
def outerChain (module : Module) : (limit : Nat) → TypeId → Option (List TypeDecl)
  | 0, _ => none
  | limit + 1, id =>
    match module.type? id with
    | none => none
    | some type =>
      match type.outer with
      | none => some [type]
      | some outer => (outerChain module limit outer).map (type :: ·)

def qualifiedName (type : TypeDecl) : String :=
  if type.space = "" then type.name else type.space ++ "." ++ type.name

def chainName : List TypeDecl → String
  | [] => ""
  | [root] => qualifiedName root
  | type :: around => chainName around ++ "/" ++ type.name

/-- The full name of a type, or its handle if the types around it do not end. -/
def fullName (module : Module) (id : TypeId) : String :=
  match module.outerChain module.types.size id with
  | some chain => chainName chain
  | none => id.text

/-- The full name of a field, or its handle if it does not exist. -/
def fieldName (module : Module) (id : FieldId) : String :=
  match module.field? id with
  | some field => module.fullName field.owner ++ "::" ++ field.name
  | none => id.text

/-- The full name of a routine, or its handle if it does not exist. -/
def routineName (module : Module) (id : RoutineId) : String :=
  match module.routine? id with
  | some routine => module.fullName routine.owner ++ "::" ++ routine.name
  | none => id.text

def findType (module : Module) (name : String) : Option TypeId :=
  module.typeIds.find? fun id => module.fullName id = name

/-- The first field of a list that has a property, unless a handle before it leads nowhere. -/
def firstField (module : Module) (accepts : FieldDecl → Bool) :
    List FieldId → Except Dangling (Option FieldId)
  | [] => .ok none
  | id :: others =>
    match module.field? id with
    | none => .error (.field id)
    | some field => if accepts field then .ok (some id) else firstField module accepts others

/-- The first routine of a list that has a property, unless a handle before it leads nowhere. -/
def firstRoutine (module : Module) (accepts : RoutineDecl → Bool) :
    List RoutineId → Except Dangling (Option RoutineId)
  | [] => .ok none
  | id :: others =>
    match module.routine? id with
    | none => .error (.routine id)
    | some routine =>
      if accepts routine then .ok (some id) else firstRoutine module accepts others

/-- The field of a type that has a name; a type that does not exist has none. -/
def findField (module : Module) (id : TypeId) (name : String) :
    Except Dangling (Option FieldId) :=
  match module.type? id with
  | none => .ok none
  | some type => module.firstField (·.name = name) type.fields

/-- The first routine of a type that has a name; a type that does not exist has none. -/
def findRoutine (module : Module) (id : TypeId) (name : String) :
    Except Dangling (Option RoutineId) :=
  match module.type? id with
  | none => .ok none
  | some type => module.firstRoutine (·.name = name) type.routines

/-- The initializer of a type; a type that does not exist has none. -/
def initializer (module : Module) (id : TypeId) : Except Dangling (Option RoutineId) :=
  match module.type? id with
  | none => .ok none
  | some type => module.firstRoutine (·.isInitializer) type.routines

end Rekindle.Module
