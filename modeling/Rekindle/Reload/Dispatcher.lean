import Rekindle.Reload.Fault
import Rekindle.Reload.Names

/-!
# The dispatcher

A module that can be reloaded has one hidden type with two static fields, which hold the callbacks
to be called before and after a reload, and a routine to add to and one to invoke each of them.
Adding reads the field, combines what it saw with the new callback and exchanges the result for
what it saw; where another thread was faster, it starts again from what that thread left.
-/

namespace Rekindle.Reload

/-- The members of the dispatcher of a module. -/
structure Dispatcher where
  type : TypeId
  unloadActions : FieldId
  loadActions : FieldId
  registerUnload : RoutineId
  registerLoad : RoutineId
  unload : RoutineId
  load : RoutineId
deriving DecidableEq, Repr, Inhabited

def generated (markers : Markers) : Attribute := .bare markers.compilerGenerated

namespace Dispatcher

/-- Adds the argument to the callback in a field. The locals are what was last read from the field,
what is taken to be in it, and the combination. -/
def registerBody (slot : FieldRef) : Body where
  zeroesLocals := true
  locals := [.callback, .callback, .callback]
  instructions := #[
    .loadField slot,
    .storeLocal 0,
    .loadLocal 0,
    .storeLocal 1,
    .loadLocal 1,
    .loadArgument 0,
    .combineCallbacks,
    .storeLocal 2,
    .loadFieldAddress slot,
    .loadLocal 2,
    .loadLocal 1,
    .compareExchange,
    .storeLocal 0,
    .loadLocal 0,
    .loadLocal 1,
    .branchUnequal 2,
    .ret]
  handlers := []

/-- Invokes the callback in a field, if there is one. -/
def invokeBody (slot : FieldRef) : Body where
  zeroesLocals := false
  locals := []
  instructions := #[
    .loadField slot,
    .dup,
    .branchTrue 5,
    .pop,
    .ret,
    .invokeCallback,
    .ret]
  handlers := []

def typeDecl (markers : Markers) : TypeDecl :=
  { TypeDecl.named Names.dispatcher with
    visibility := .withinModule
    isAbstract := true
    isSealed := true
    attributes := [generated markers] }

def slotDecl (name : String) : FieldDecl :=
  { FieldDecl.static name .callback with visibility := .withinType }

def registerDecl (markers : Markers) (name : String) (slot : FieldRef) : RoutineDecl :=
  { RoutineDecl.static name .void (registerBody slot) with
    parameters := [{ name := "callback", type := .callback }]
    attributes := [generated markers] }

def invokeDecl (markers : Markers) (name : String) (slot : FieldRef) : RoutineDecl :=
  { RoutineDecl.static name .void (invokeBody slot) with attributes := [generated markers] }

def addMembers (markers : Markers) (module : Module) (type : TypeId) :
    Except ModuleFault (Module × Dispatcher) := do
  let (module, unloadActions) ← module.addField type (slotDecl Names.unloadActions)
  let (module, loadActions) ← module.addField type (slotDecl Names.loadActions)
  let unloadSlot ← module.bindField unloadActions .inside
  let (module, registerUnload) ←
    module.addRoutine type (registerDecl markers Names.registerUnload unloadSlot)
  let loadSlot ← module.bindField loadActions .inside
  let (module, registerLoad) ←
    module.addRoutine type (registerDecl markers Names.registerLoad loadSlot)
  let (module, unload) ← module.addRoutine type (invokeDecl markers Names.unload unloadSlot)
  let (module, load) ← module.addRoutine type (invokeDecl markers Names.load loadSlot)
  return (module,
    { type, unloadActions, loadActions, registerUnload, registerLoad, unload, load })

def addTo (markers : Markers) (module : Module) : Except Fault (Module × Dispatcher) :=
  match module.findType Names.dispatcher with
  | some _ => .error (.dispatcherExists Names.dispatcher)
  | none =>
    let (module, type) := module.addType (typeDecl markers)
    (addMembers markers module type).mapError .module

end Dispatcher

end Rekindle.Reload
