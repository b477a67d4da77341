import Rekindle.Machine.Initialization
import Rekindle.Machine.Trap
import Rekindle.Module.Names
import Rekindle.Validity.Check

/-!
# The store

What the threads of a machine share: the loaded modules, the static storage of every instantiation
that was asked for so far, and the table of threads that wait for an initializer. Storage comes
into being with the defaults of its fields when it is first asked for. Its slots are those of the
type's list of fields; a field that its type does not list is taken to the first one.
-/

namespace Rekindle.Machine

/-- The static storage of an instantiation. -/
structure Storage where
  slots : Array Value
  status : Status Trap
deriving DecidableEq, Repr, Inhabited

/-- What the threads of a machine share. -/
structure Store where
  modules : Array Module
  storages : List (Instantiation × Storage)
  waits : Waits Instantiation
  /-- An identity that no callback has yet. -/
  nextCallback : Nat
  /-- The number of garbage passes that were asked for. -/
  garbagePasses : Nat
deriving DecidableEq, Repr, Inhabited

namespace Store

def empty : Store where
  modules := #[]
  storages := []
  waits := .empty
  nextCallback := 0
  garbagePasses := 0

def load (store : Store) (module : Module) : Except Trap (Store × ModuleHandle) :=
  match Validity.checkModule module with
  | .error defect => .error (.rejected defect)
  | .ok () => .ok ({ store with modules := store.modules.push module }, ⟨store.modules.size⟩)

def handles (store : Store) : List ModuleHandle :=
  (List.range store.modules.size).map ModuleHandle.mk

def module (store : Store) (handle : ModuleHandle) : Except Trap Module :=
  match store.modules[handle.position]? with
  | some module => .ok module
  | none => .error (.unknownModule handle)

/-- The storage of an instantiation, if it was asked for before. -/
def storage? (store : Store) (instantiation : Instantiation) : Option Storage :=
  (store.storages.find? fun entry => entry.1 = instantiation).map (·.2)

def changeStorage (instantiation : Instantiation) (change : Storage → Storage) :
    List (Instantiation × Storage) → List (Instantiation × Storage)
  | [] => []
  | entry :: others =>
    if entry.1 = instantiation then (entry.1, change entry.2) :: others
    else entry :: changeStorage instantiation change others

/-- Changes the storage of an instantiation that was asked for before. -/
def updateStorage (store : Store) (instantiation : Instantiation) (change : Storage → Storage) :
    Store :=
  { store with storages := changeStorage instantiation change store.storages }

def freshSlot (module : Module) (arguments : List ValueType) (id : FieldId) : Value :=
  match module.field? id with
  | some field => if field.hasStorage then .default (field.type.substitute arguments) else .null
  | none => .null

def freshStorage (module : Module) (type : TypeDecl) (arguments : List ValueType) : Storage where
  slots := (type.fields.map (freshSlot module arguments)).toArray
  status := .pending

/-- The storage of an instantiation, which comes into being if it was not asked for before. -/
def demand (store : Store) (instantiation : Instantiation) : Except Trap (Store × Storage) :=
  match store.storage? instantiation with
  | some storage => .ok (store, storage)
  | none => do
    let module ← store.module instantiation.module
    match module.type? instantiation.type with
    | none => throw (.unknownType instantiation.type.text)
    | some type =>
      let storage := freshStorage module type instantiation.arguments
      return ({ store with storages := (instantiation, storage) :: store.storages }, storage)

def typeName (store : Store) (instantiation : Instantiation) : String :=
  match store.modules[instantiation.module.position]? with
  | some module => module.fullName instantiation.type
  | none => instantiation.type.text

def ask (store : Store) (thread : ThreadId) (instantiation : Instantiation) :
    Except Trap (Store × Ticket Trap) := do
  let (store, storage) ← store.demand instantiation
  let (ticket, status, waits) := storage.status.ask store.waits thread instantiation
  return ({ store.updateStorage instantiation fun storage => { storage with status } with waits },
    ticket)

/-- Notes how the initializer of an instantiation ended and lets the threads that wait for it go
on. -/
def publish (store : Store) (instantiation : Instantiation) (outcome : Except Trap Unit) : Store :=
  { store.updateStorage instantiation
      fun storage => { storage with status := .ofOutcome outcome } with
    waits := store.waits.release instantiation }

def isInitialized (store : Store) (instantiation : Instantiation) : Bool :=
  match store.storage? instantiation with
  | some storage => storage.status = .done
  | none => false

def instantiationCount (store : Store) : Nat := store.storages.length

def lastPosition (id : FieldId) : (fields : List FieldId) → Option Nat
  | [] => none
  | field :: fields =>
    match lastPosition id fields with
    | some position => some (position + 1)
    | none => if field = id then some 0 else none

def slotOf (module : Module) (id : FieldId) : Except Trap Nat :=
  match module.field? id with
  | none => .error (.unknownField id.text)
  | some field =>
    match module.type? field.owner with
    | none => .ok 0
    | some type => .ok ((lastPosition id type.fields).getD 0)

/-- What is in a slot, if there is such a slot. -/
def slot? (store : Store) (address : Address) : Option Value :=
  (store.storage? address.instantiation).bind fun storage => storage.slots[address.slot]?

def setSlot (store : Store) (address : Address) (value : Value) : Store :=
  store.updateStorage address.instantiation fun storage =>
    { storage with slots := storage.slots.setIfInBounds address.slot value }

def read (store : Store) (address : Address) : Except Trap Value :=
  match store.slot? address with
  | some value => .ok value
  | none => .error (.slotOutOfRange address.slot)

def write (store : Store) (address : Address) (value : Value) : Except Trap Store :=
  match store.slot? address with
  | some _ => .ok (store.setSlot address value)
  | none => .error (.slotOutOfRange address.slot)

def newCallback (store : Store) (targets : List BoundRoutine) : Store × Value :=
  ({ store with nextCallback := store.nextCallback + 1 },
    .callback { identity := store.nextCallback, targets })

def combine (store : Store) (first second : Value) : Option (Store × Value) :=
  (Value.combine store.nextCallback first second).map fun combined =>
    ({ store with nextCallback := store.nextCallback + 1 }, combined)

def collectGarbage (store : Store) : Store :=
  { store with garbagePasses := store.garbagePasses + 1 }

end Store

end Rekindle.Machine
