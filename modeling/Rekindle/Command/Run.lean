import Rekindle.Command.Files

/-!
# Running modules

Modules are loaded in order, a routine without parameters of the first module that has it is
called, and after its return the modules are reloaded a number of times.
-/

namespace Rekindle.Command

open Machine (Limits ModuleHandle Store Value)
open Reload (Reloader)

/-- A routine by the full name of its type and its own name. -/
structure Entry where
  type : String
  routine : String
deriving DecidableEq, Repr, Inhabited

/-- What follows the last double colon of a reversed text and what precedes it, both reversed. -/
def splitReversed : List Char → Option (List Char × List Char)
  | ':' :: ':' :: before => some ([], before)
  | c :: rest => (splitReversed rest).map fun (after, before) => (c :: after, before)
  | [] => none

/-- Reads a routine written as its type and its name around the last double colon. -/
def Entry.parse (text : String) : Except Fault Entry :=
  match splitReversed text.toList.reverse with
  | some (after, before) =>
    if after = [] ∨ before = [] then .error (.invalidEntry text)
    else .ok { type := String.ofList before.reverse, routine := String.ofList after.reverse }
  | none => .error (.invalidEntry text)

/-- What is to be run. -/
structure RunRequest where
  /-- The files of the modules in the order of loading. -/
  inputs : List String
  entry : String
  /-- The number of reload cycles after the call. -/
  reloads : Nat := 0
  limits : Limits := {}
deriving DecidableEq, Repr, Inhabited

/-- What a run led to. -/
structure RunSummary where
  result : Option Value
  reloadableModules : Nat
  cycles : Nat
deriving DecidableEq, Repr, Inhabited

def loadAll (files : Files) : Store → List String → Except Fault Store
  | store, [] => .ok store
  | store, path :: paths => do
    let module ← files.readModule path
    let (store, _) ← (store.load module).mapError .trap
    loadAll files store paths

def findEntry (store : Store) (entry : Entry) : Option (ModuleHandle × RoutineId) :=
  store.handles.findSome? fun handle =>
    match store.findRoutine handle entry.type entry.routine with
    | .ok routine => some (handle, routine)
    | .error _ => none

def reloadTimes (limits : Limits) (steps : Nat) (reloader : Reloader) :
    Nat → Store → Except Fault Unit
  | 0, _ => .ok ()
  | times + 1, store =>
    match reloader.reload limits steps store with
    | none => .error .unfinished
    | some (_, .error fault) => .error (.cycle fault)
    | some (store, .ok _) => reloadTimes limits steps reloader times store

/-- Runs modules, where every call may take a number of steps. -/
def run (steps : Nat) (files : Files) (request : RunRequest) : Except Fault RunSummary := do
  match request.limits.fault? with
  | some fault => throw (.limits fault)
  | none =>
    let entry ← Entry.parse request.entry
    let store ← loadAll files .empty request.inputs
    match findEntry store entry with
    | none => throw (.entryNotFound request.entry)
    | some (handle, routine) =>
      match store.invoke request.limits steps handle routine [] [] with
      | none => throw .unfinished
      | some (_, .error trap) => throw (.trap trap)
      | some (store, .ok result) =>
        let reloader := Reloader.refresh store
        reloadTimes request.limits steps reloader request.reloads store
        return {
          result
          reloadableModules := (reloader.modules store).length
          cycles := request.reloads }

namespace RunSummary

def text (summary : RunSummary) : String :=
  "Result: " ++
    (match summary.result with
      | some value => value.text
      | none => "(void)") ++ "\n" ++
    "Reloadable modules: " ++ toString summary.reloadableModules ++ "\n" ++
    "Reload cycles: " ++ toString summary.cycles ++ "\n"

end RunSummary

end Rekindle.Command
