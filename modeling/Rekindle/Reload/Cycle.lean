import Rekindle.Machine.Host
import Rekindle.Reload.Names

/-!
# Reload cycles

A reloader knows the modules of a machine that have a dispatcher. It discovers them when it is
first asked, and again only when it is told to. A cycle runs the unload routine of every known
module, asks for a garbage pass, and runs the load routine of every known module; the first routine
that fails ends the cycle.
-/

namespace Rekindle.Reload

open Machine (ModuleHandle Store Trap Limits)

/-- A loaded module with the routines of its dispatcher. -/
structure ReloadableModule where
  handle : ModuleHandle
  name : String
  unload : RoutineId
  load : RoutineId
deriving DecidableEq, Repr, Inhabited

/-- What a completed cycle did. -/
structure CycleReport where
  /-- The number of modules that were reloaded. -/
  modules : Nat
  /-- The number of garbage passes so far. -/
  garbagePasses : Nat
deriving DecidableEq, Repr, Inhabited

/-- Why a cycle ended early. -/
inductive CycleFault where
  | unload (module : String) (cause : Trap)
  | load (module : String) (cause : Trap)
deriving DecidableEq, Repr, Inhabited

def CycleFault.message : CycleFault → String
  | .unload module cause => "Unload of module " ++ module ++ " failed: " ++ cause.message
  | .load module cause => "Load of module " ++ module ++ " failed: " ++ cause.message

/-- The routine of a type that has a name, if the type lists it. -/
def entryRoutine (module : Module) (type : TypeId) (name : String) : Option RoutineId :=
  match module.findRoutine type name with
  | .ok found => found
  | .error _ => none

/-- A loaded module as a reloadable one, if it has a dispatcher with both routines. -/
def reloadable? (handle : ModuleHandle) (module : Module) : Option ReloadableModule := do
  let type ← module.findType Names.dispatcher
  let unload ← entryRoutine module type Names.unload
  let load ← entryRoutine module type Names.load
  return { handle, name := module.name, unload, load }

def discover (store : Store) : List ReloadableModule :=
  store.modules.toList.zipIdx.filterMap fun (module, position) => reloadable? ⟨position⟩ module

/-- What drives the cycles of a machine. -/
structure Reloader where
  /-- The modules it discovered, absent before it was first asked. -/
  known : Option (List ReloadableModule)
deriving DecidableEq, Repr, Inhabited

namespace Reloader

def new : Reloader := ⟨none⟩

def refresh (store : Store) : Reloader := ⟨some (discover store)⟩

def modules (reloader : Reloader) (store : Store) : List ReloadableModule :=
  reloader.known.getD (discover store)

def settled (reloader : Reloader) (store : Store) : Reloader := ⟨some (reloader.modules store)⟩

/-- Calls a routine of every module; a trap is told as a fault of the module. -/
def callEach (limits : Limits) (steps : Nat) (routine : ReloadableModule → RoutineId)
    (fault : String → Trap → CycleFault) :
    Store → List ReloadableModule → Option (Store × Except CycleFault Unit)
  | store, [] => some (store, .ok ())
  | store, module :: others =>
    match store.invoke limits steps module.handle (routine module) [] [] with
    | none => none
    | some (store, .error trap) => some (store, .error (fault module.name trap))
    | some (store, .ok _) => callEach limits steps routine fault store others

def cycle (limits : Limits) (steps : Nat) (store : Store) (modules : List ReloadableModule) :
    Option (Store × Except CycleFault CycleReport) :=
  match callEach limits steps (·.unload) .unload store modules with
  | none => none
  | some (store, .error fault) => some (store, .error fault)
  | some (store, .ok ()) =>
    match callEach limits steps (·.load) .load store.collectGarbage modules with
    | none => none
    | some (store, .error fault) => some (store, .error fault)
    | some (store, .ok ()) =>
      some (store, .ok { modules := modules.length, garbagePasses := store.garbagePasses })

def reload (reloader : Reloader) (limits : Limits) (steps : Nat) (store : Store) :
    Option (Store × Except CycleFault CycleReport) :=
  cycle limits steps store (reloader.modules store)

/-- What is done when the host restarts: nothing if it reloads everything itself, and a cycle
otherwise. -/
def restart (reloader : Reloader) (limits : Limits) (steps : Nat) (store : Store)
    (fullReload : Bool) : Option (Store × Except CycleFault (Option CycleReport)) :=
  if fullReload then some (store, .ok none)
  else (reloader.reload limits steps store).map fun (store, result) => (store, result.map some)

end Reloader

end Rekindle.Reload
