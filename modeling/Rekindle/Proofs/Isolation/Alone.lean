import Rekindle.Proofs.Isolation.Relocation
import Rekindle.Proofs.Machine.Storage

/-!
# A module alone

The store of a machine that holds one of the modules of another machine and nothing else: the
module, and of the static storage what belongs to it. What is done with the module's own storage is
done to the same effect where the module is alone, and leaves the storage of the other modules as
it was.
-/

namespace Rekindle.Machine

open Fallible

section Definitions

variable (home : ModuleHandle)

def Status.relocate : Status Trap → Status Trap
  | .failed cause => .failed (cause.relocate home)
  | status => status

def Ticket.relocate : Ticket Trap → Ticket Trap
  | .failed cause => .failed (cause.relocate home)
  | ticket => ticket

def Storage.relocate (storage : Storage) : Storage where
  slots := storage.slots.map (Value.relocate home)
  status := storage.status.relocate home

def WaitEdge.relocate (edge : WaitEdge Instantiation) : WaitEdge Instantiation :=
  { edge with key := edge.key.relocate home }

def Waits.relocate (waits : Waits Instantiation) : Waits Instantiation :=
  ⟨waits.edges.map (WaitEdge.relocate home)⟩

namespace Store

/-- The storages of a module's types, as they are where the module is alone. -/
def own (storages : List (Instantiation × Storage)) : List (Instantiation × Storage) :=
  (storages.filter fun entry => entry.1.module = home).map
    (Prod.map (Instantiation.relocate home) (Storage.relocate home))

/-- The store of a machine that holds only the module of a handle, in the state it is in. -/
def alone (store : Store) : Store where
  modules := store.modules[home.position]?.toArray
  storages := own home store.storages
  waits := store.waits.relocate home
  nextCallback := store.nextCallback
  garbagePasses := store.garbagePasses

/-- Nothing in the static fields of a module leads to another module. -/
def Encloses (store : Store) : Prop :=
  ∀ place value, place.instantiation.module = home → store.slot? place = some value →
    value.Within home.reach

/-- What becomes of a store in which a module does something: the storage of every other module
is as it was, and the static fields of the module lead to no other one still. -/
structure Spares (store after : Store) : Prop where
  modules_eq : after.modules = store.modules
  others : ∀ instantiation, instantiation.module ≠ home →
    after.storage? instantiation = store.storage? instantiation
  encloses : after.Encloses home

end Store

end Definitions

variable {home : ModuleHandle}

/-! ### Waiting -/

namespace Waits

variable (waits : Waits Instantiation) (thread target : ThreadId)

@[simp]
theorem next?_relocate : (waits.relocate home).next? thread = waits.next? thread := by
  simp only [next?, relocate, List.find?_map, Option.map_map]
  rfl

@[simp]
theorem erase_relocate : (waits.relocate home).erase thread = (waits.erase thread).relocate home := by
  simp only [erase, relocate, List.filter_map]
  rfl

@[simp]
theorem insert_relocate (edge : WaitEdge Instantiation) :
    (waits.relocate home).insert (edge.relocate home) = (waits.insert edge).relocate home := by
  rw [insert, erase_relocate]
  rfl

@[simp]
theorem release_relocate (key : Instantiation) :
    (waits.relocate home).release (key.relocate home) = (waits.release key).relocate home := by
  simp only [release, relocate, List.filter_map]
  congr 2
  apply List.filter_congr
  intro edge _
  simp [WaitEdge.relocate]

@[simp]
theorem leadsTo_relocate (steps : Nat) :
    (waits.relocate home).leadsTo target steps thread = waits.leadsTo target steps thread := by
  induction steps generalizing thread with
  | zero => rfl
  | succ steps ih =>
      simp only [leadsTo, next?_relocate]
      split
      · rfl
      · split
        · exact ih _
        · rfl

@[simp]
theorem reaches_relocate :
    (waits.relocate home).reaches thread target = waits.reaches thread target := by
  have count_eq : (waits.relocate home).count = waits.count := List.length_map _
  rw [reaches, reaches, count_eq, leadsTo_relocate]

end Waits

/-- A thread is told the same where the module is alone. -/
theorem Status.ask_relocate (home : ModuleHandle) (status : Status Trap) (waits : Waits Instantiation)
    (thread : ThreadId) (key : Instantiation) :
    (status.relocate home).ask (waits.relocate home) thread (key.relocate home) =
      ((status.ask waits thread key).1.relocate home,
        (status.ask waits thread key).2.1.relocate home,
        (status.ask waits thread key).2.2.relocate home) := by
  cases status with
  | running owner =>
      simp only [relocate, ask, Waits.reaches_relocate, Waits.erase_relocate]
      split
      · rfl
      · exact congrArg (fun waits => (_, _, waits)) (waits.insert_relocate ⟨thread, owner, key⟩)
  | _ =>
      simp only [relocate, ask, Waits.erase_relocate]
      rfl

theorem Status.relocate_ofOutcome (outcome : Except Trap Unit) :
    (Status.ofOutcome outcome).relocate home =
      .ofOutcome (outcome.mapError (Trap.relocate home)) := by
  cases outcome <;> rfl

namespace Store

variable {store after : Store} {instantiation : Instantiation} {place : Address}

/-! ### Look-ups -/

theorem modules_alone (store : Store) (home : ModuleHandle) :
    (store.alone home).modules[(home.relocate home).position]? =
      store.modules[home.position]? := by
  simp only [alone, ModuleHandle.relocate_self]
  cases store.modules[home.position]? <;> rfl

/-- Before anything was run, the machine with the module alone is one that has loaded just this
module. -/
theorem load_alone {modules : Array Module} {module : Module}
    (found : modules[home.position]? = some module)
    (accepted : Validity.checkModule module = .ok ()) :
    Store.empty.load module = .ok (Store.alone home { Store.empty with modules }, ⟨0⟩) := by
  simp only [load, accepted, alone, found]
  rfl

/-- The module is found where it is alone. -/
theorem relocates_module (store : Store) (home : ModuleHandle) :
    Relocates home id (fun module => store.modules[home.position]? = some module)
      (store.module home) ((store.alone home).module (home.relocate home)) := by
  simp only [Store.module, modules_alone]
  rcases found : store.modules[home.position]? with _ | module
  · exact .error trivial
  · exact .ok rfl

theorem find?_own (inside : instantiation.module = home)
    (storages : List (Instantiation × Storage)) :
    (own home storages).find? (fun entry => entry.1 = instantiation.relocate home) =
      (storages.find? fun entry => entry.1 = instantiation).map
        (Prod.map (Instantiation.relocate home) (Storage.relocate home)) := by
  rw [own, List.find?_map, List.find?_filter]
  congr 2
  funext entry
  by_cases same : entry.1 = instantiation <;> simp [same, inside]

theorem storage?_alone (store : Store) (inside : instantiation.module = home) :
    (store.alone home).storage? (instantiation.relocate home) =
      (store.storage? instantiation).map (Storage.relocate home) := by
  simp only [storage?, alone, find?_own inside, Option.map_map]
  rfl

theorem slot?_alone (store : Store) (inside : place.instantiation.module = home) :
    (store.alone home).slot? (place.relocate home) =
      (store.slot? place).map (Value.relocate home) := by
  have storage_eq : (store.alone home).storage? (place.relocate home).instantiation = _ :=
    storage?_alone store inside
  rw [slot?, slot?, storage_eq]
  cases store.storage? place.instantiation with
  | none => rfl
  | some storage => exact Array.getElem?_map

theorem typeName_alone (store : Store) (inside : instantiation.module = home) :
    (store.alone home).typeName (instantiation.relocate home) = store.typeName instantiation := by
  have module_eq : (instantiation.relocate home).module = home.relocate home :=
    congrArg (ModuleHandle.relocate · home) inside
  rw [typeName, typeName, module_eq, modules_alone, inside]
  rfl

/-! ### Updates -/

section Updates

variable (inside : instantiation.module = home) (change other : Storage → Storage)
  (changes : ∀ storage, (change storage).relocate home = other (storage.relocate home))
include inside changes

theorem own_changeStorage (storages : List (Instantiation × Storage)) :
    own home (changeStorage instantiation change storages) =
      changeStorage (instantiation.relocate home) other (own home storages) := by
  induction storages with
  | nil => rfl
  | cons entry others ih =>
      simp only [own] at ih
      by_cases same : entry.1 = instantiation
      · simp [changeStorage, own, same, inside, changes]
      · by_cases here : entry.1.module = home <;> simp [changeStorage, own, same, here, ih]

theorem alone_updateStorage (store : Store) :
    (store.updateStorage instantiation change).alone home =
      (store.alone home).updateStorage (instantiation.relocate home) other := by
  simp only [alone, updateStorage, own_changeStorage inside change other changes]

end Updates

theorem alone_setSlot (store : Store) (inside : place.instantiation.module = home)
    (value : Value) : (store.setSlot place value).alone home =
      (store.alone home).setSlot (place.relocate home) (value.relocate home) := by
  apply alone_updateStorage inside
  intro storage
  simp only [Storage.relocate, Array.map_setIfInBounds]
  rfl

theorem alone_publish (store : Store) (inside : instantiation.module = home)
    (outcome : Except Trap Unit) :
    (store.publish instantiation outcome).alone home =
      (store.alone home).publish (instantiation.relocate home)
        (outcome.mapError (Trap.relocate home)) := by
  have updated := alone_updateStorage inside
    (fun storage => { storage with status := .ofOutcome outcome })
    (fun storage => { storage with status := .ofOutcome (outcome.mapError (Trap.relocate home)) })
    (fun storage => by simp only [Storage.relocate, Status.relocate_ofOutcome]) store
  have released : (store.waits.relocate home).release (instantiation.relocate home) = _ :=
    store.waits.release_relocate instantiation
  rw [publish, publish, ← updated]
  simp only [alone, released, updateStorage]

/-! ### Asking -/

@[simp]
theorem relocate_freshSlot (module : Module) (arguments : List ValueType) (id : FieldId) :
    (freshSlot module arguments id).relocate home = freshSlot module arguments id := by
  unfold freshSlot
  split
  · split
    · exact Value.relocate_default _
    · rfl
  · rfl

theorem relocate_freshStorage (module : Module) (type : TypeDecl) (arguments : List ValueType) :
    (freshStorage module type arguments).relocate home = freshStorage module type arguments := by
  simp only [Storage.relocate, freshStorage, List.map_toArray, List.map_map]
  congr 2
  apply List.map_congr_left
  intro field _
  exact relocate_freshSlot module arguments field

theorem alone_grown (store : Store) (inside : instantiation.module = home) (storage : Storage) :
    Store.alone home { store with storages := (instantiation, storage) :: store.storages } =
      { store.alone home with
        storages := (instantiation.relocate home, storage.relocate home) ::
          (store.alone home).storages } := by
  simp [alone, own, inside]

theorem relocates_demand (store : Store) (inside : instantiation.module = home) :
    Relocates home (Prod.map (alone home) (Storage.relocate home)) (fun _ => True)
      (store.demand instantiation) ((store.alone home).demand (instantiation.relocate home)) := by
  have storage_eq := storage?_alone store inside
  have module_eq : (instantiation.relocate home).module = home.relocate home :=
    congrArg (ModuleHandle.relocate · home) inside
  rcases found : store.storage? instantiation with _ | storage
  · rw [found] at storage_eq
    simp only [demand, found, storage_eq, inside, module_eq, Option.map_none]
    refine (relocates_module store home).bind fun module _ => ?_
    have type_eq : (instantiation.relocate home).type = instantiation.type := rfl
    rcases declared : module.type? instantiation.type with _ | type
    · simp only [id, type_eq, declared]
      exact .error trivial
    · have fresh_eq : (freshStorage module type instantiation.arguments).relocate home = _ :=
        relocate_freshStorage module type instantiation.arguments
      have grown_eq := alone_grown store inside (freshStorage module type instantiation.arguments)
      rw [fresh_eq] at grown_eq
      simp only [id, type_eq, declared]
      exact .ok_of_eq trivial (Prod.ext grown_eq fresh_eq)
  · rw [found] at storage_eq
    simp only [demand, found, storage_eq, Option.map_some]
    exact .ok trivial

/-- Asking for a type of the module comes out the same where the module is alone. -/
theorem relocates_ask (store : Store) (thread : ThreadId) (inside : instantiation.module = home) :
    Relocates home (Prod.map (alone home) (Ticket.relocate home)) (fun _ => True)
      (store.ask thread instantiation)
      ((store.alone home).ask thread (instantiation.relocate home)) := by
  refine (relocates_demand store inside).bind fun demanded _ => ?_
  rcases demanded with ⟨grown, storage⟩
  have told := Status.ask_relocate home storage.status grown.waits thread instantiation
  rcases asked : storage.status.ask grown.waits thread instantiation with ⟨ticket, status, waits⟩
  have updated := alone_updateStorage inside (fun storage => { storage with status })
    (fun storage => { storage with status := status.relocate home }) (fun _ => rfl) grown
  rw [asked] at told
  have waits_eq : (grown.alone home).waits = grown.waits.relocate home := rfl
  have status_eq : (storage.relocate home).status = storage.status.relocate home := rfl
  simp only [Prod.map, asked, waits_eq, status_eq, told, ← updated]
  exact .ok trivial

/-! ### What the other modules notice -/

theorem Encloses.spares (encloses : store.Encloses home) : store.Spares home store :=
  ⟨rfl, fun _ _ => rfl, encloses⟩

theorem Spares.trans {last : Store} (first : store.Spares home after)
    (second : after.Spares home last) : store.Spares home last :=
  ⟨second.modules_eq.trans first.modules_eq,
    fun other apart => (second.others other apart).trans (first.others other apart),
    second.encloses⟩

theorem Encloses.setSlot (encloses : store.Encloses home)
    (inside : place.instantiation.module = home) {value : Value} (known : value.Within home.reach) :
    store.Spares home (store.setSlot place value) := by
  refine ⟨rfl, ?_, ?_⟩
  · intro other apart
    have different : other ≠ place.instantiation := fun same => apart (same ▸ inside)
    rw [Store.setSlot, storage?_updateStorage, if_neg different]
  · intro other held within found
    rw [slot?_setSlot] at found
    split at found
    · rcases Option.map_eq_some_iff.mp found with ⟨_, _, rfl⟩
      exact known
    · exact encloses other held within found

theorem Encloses.publish (encloses : store.Encloses home) (inside : instantiation.module = home)
    (outcome : Except Trap Unit) : store.Spares home (store.publish instantiation outcome) := by
  refine ⟨rfl, ?_, ?_⟩
  · intro other apart
    have different : other ≠ instantiation := fun same => apart (same ▸ inside)
    rw [storage?_publish, if_neg different]
  · intro other held within found
    rw [slot?_publish] at found
    exact encloses other held within found

theorem Encloses.issued (encloses : store.Encloses home) :
    store.Spares home { store with nextCallback := store.nextCallback + 1 } :=
  ⟨rfl, fun _ _ => rfl, encloses⟩

theorem Encloses.ask (encloses : store.Encloses home) (inside : instantiation.module = home)
    {thread : ThreadId} {ticket : Ticket Trap} {storage : Storage}
    (asked : store.Asked thread instantiation after ticket storage) :
    store.Spares home after := by
  refine ⟨asked.modules_eq, ?_, ?_⟩
  · intro other apart
    have different : other ≠ instantiation := fun same => apart (same ▸ inside)
    rw [asked.storage?_eq, if_neg different]
  · intro other held within found
    rw [asked.slot?_eq] at found
    split at found
    · rename_i same
      rcases asked.storage_eq with present | ⟨_, module, type, _, _, fresh⟩
      · apply encloses other held within
        rw [slot?, same, present]
        exact found
      · rw [fresh] at found
        exact freshStorage_within module type _ found
    · exact encloses other held within found

theorem Encloses.relocates_ask (encloses : store.Encloses home) (thread : ThreadId)
    (inside : instantiation.module = home) :
    Relocates home (Prod.map (alone home) (Ticket.relocate home))
      (fun asked => store.Spares home asked.1) (store.ask thread instantiation)
      ((store.alone home).ask thread (instantiation.relocate home)) := by
  refine (Store.relocates_ask store thread inside).of_ok fun asked found _ => ?_
  rcases ask_ok found with ⟨storage, asks⟩
  exact encloses.ask inside asks

/-! ### Access to slots -/

theorem relocates_read (encloses : store.Encloses home)
    (inside : place.instantiation.module = home) :
    Relocates home (Value.relocate home) (Value.Within home.reach) (store.read place)
      ((store.alone home).read (place.relocate home)) := by
  rw [read, read, slot?_alone store inside]
  rcases found : store.slot? place with _ | value
  · exact .error trivial
  · exact .ok (encloses place value inside found)

theorem relocates_write (encloses : store.Encloses home)
    (inside : place.instantiation.module = home) {value : Value}
    (known : value.Within home.reach) :
    Relocates home (alone home) (store.Spares home) (store.write place value)
      ((store.alone home).write (place.relocate home) (value.relocate home)) := by
  rw [write, write, slot?_alone store inside, ← alone_setSlot store inside]
  rcases found : store.slot? place with _ | held
  · exact .error trivial
  · exact .ok (encloses.setSlot inside known)

end Store

end Rekindle.Machine
