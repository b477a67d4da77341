import Rekindle.Machine.Store
import Rekindle.Proofs.Fallible

/-!
# Storage

What the operations of the store do to the storage of each instantiation, and what they leave as it
was. The loaded modules are never touched, and asking for an instantiation never changes what is in
a slot.
-/

namespace Rekindle.Machine

/-- A module that is loaded stays when another one is loaded. -/
theorem getElem?_push {modules : Array Module} {position : Nat} {module : Module}
    (loaded : modules[position]? = some module) (added : Module) :
    (modules.push added)[position]? = some module := by
  rw [Array.getElem?_push_lt (Array.getElem?_eq_some_iff.mp loaded).1]
  exact congrArg some (Array.getElem?_eq_some_iff.mp loaded).2

namespace Store

open Fallible

variable {store after : Store} {instantiation other : Instantiation}

/-! ### Loading -/

theorem load_ok {module : Module} {handle : ModuleHandle}
    (loads : store.load module = .ok (after, handle)) :
    Validity.checkModule module = .ok () ∧
      after = { store with modules := store.modules.push module } ∧
        handle = ⟨store.modules.size⟩ := by
  unfold load at loads
  split at loads <;> cases loads
  rename_i accepted
  exact ⟨accepted, rfl, rfl⟩

/-! ### Single updates -/

@[simp]
theorem modules_updateStorage (change : Storage → Storage) :
    (store.updateStorage instantiation change).modules = store.modules := rfl

@[simp]
theorem nextCallback_updateStorage (change : Storage → Storage) :
    (store.updateStorage instantiation change).nextCallback = store.nextCallback := rfl

@[simp]
theorem waits_updateStorage (change : Storage → Storage) :
    (store.updateStorage instantiation change).waits = store.waits := rfl

theorem find?_changeStorage (instantiation other : Instantiation) (change : Storage → Storage)
    (storages : List (Instantiation × Storage)) :
    ((changeStorage instantiation change storages).find? fun entry => entry.1 = other).map (·.2) =
      if other = instantiation then
        ((storages.find? fun entry => entry.1 = instantiation).map (·.2)).map change
      else (storages.find? fun entry => entry.1 = other).map (·.2) := by
  induction storages with
  | nil => simp [changeStorage]
  | cons entry others ih =>
      by_cases hit : entry.1 = instantiation
      · by_cases same : other = instantiation
        · simp [changeStorage, hit, same]
        · have apart : instantiation ≠ other := fun equal => same equal.symm
          simp [changeStorage, hit, same, apart]
      · by_cases seen : entry.1 = other
        · have apart : other ≠ instantiation := fun equal => hit (seen.trans equal)
          simp [changeStorage, seen, apart]
        · simpa [changeStorage, hit, seen] using ih

/-- A change that leaves the storage as it is that it is made to changes nothing. -/
theorem changeStorage_self {storage : Storage} {change : Storage → Storage}
    {storages : List (Instantiation × Storage)}
    (found : (storages.find? fun entry => entry.1 = instantiation).map (·.2) = some storage)
    (same : change storage = storage) :
    changeStorage instantiation change storages = storages := by
  induction storages with
  | nil => rfl
  | cons entry others ih =>
      by_cases hit : entry.1 = instantiation
      · simp only [List.find?_cons, hit, decide_true, Option.map_some, Option.some.injEq] at found
        simp only [changeStorage, if_pos hit, found, same]
        rw [← found]
      · simp only [List.find?_cons, hit, decide_false] at found
        simp only [changeStorage, if_neg hit, ih found]

theorem updateStorage_self {storage : Storage} {change : Storage → Storage}
    (found : store.storage? instantiation = some storage) (same : change storage = storage) :
    store.updateStorage instantiation change = store := by
  rw [updateStorage, changeStorage_self found same]

@[simp]
theorem storage?_updateStorage (store : Store) (instantiation other : Instantiation)
    (change : Storage → Storage) :
    (store.updateStorage instantiation change).storage? other =
      if other = instantiation then (store.storage? instantiation).map change
      else store.storage? other :=
  find?_changeStorage instantiation other change store.storages

@[simp]
theorem modules_setSlot (address : Address) (value : Value) :
    (store.setSlot address value).modules = store.modules := rfl

@[simp]
theorem nextCallback_setSlot (address : Address) (value : Value) :
    (store.setSlot address value).nextCallback = store.nextCallback := rfl

@[simp]
theorem waits_setSlot (address : Address) (value : Value) :
    (store.setSlot address value).waits = store.waits := rfl

/-- A slot that is written holds the value, and every other slot what it held. -/
theorem slot?_setSlot (store : Store) (address place : Address) (value : Value) :
    (store.setSlot address value).slot? place =
      if place = address then (store.slot? address).map fun _ => value
      else store.slot? place := by
  rcases address with ⟨instantiation, slot⟩
  rcases place with ⟨other, position⟩
  simp only [slot?, setSlot, storage?_updateStorage, Address.mk.injEq]
  by_cases same : other = instantiation
  · subst same
    rcases found : store.storage? other with _ | storage
    · simp
    · by_cases hit : position = slot
      · subst hit
        simp [Array.getElem?_setIfInBounds]
        split <;> simp_all
      · have apart : slot ≠ position := fun equal => hit equal.symm
        simp [hit, Array.getElem?_setIfInBounds_ne apart]
  · simp [same]

@[simp]
theorem modules_publish (outcome : Except Trap Unit) :
    (store.publish instantiation outcome).modules = store.modules := rfl

@[simp]
theorem nextCallback_publish (outcome : Except Trap Unit) :
    (store.publish instantiation outcome).nextCallback = store.nextCallback := rfl

@[simp]
theorem storage?_publish (store : Store) (instantiation other : Instantiation)
    (outcome : Except Trap Unit) :
    (store.publish instantiation outcome).storage? other =
      if other = instantiation then
        (store.storage? instantiation).map fun storage =>
          { storage with status := .ofOutcome outcome }
      else store.storage? other :=
  find?_changeStorage instantiation other _ store.storages

@[simp]
theorem slot?_publish (store : Store) (instantiation : Instantiation)
    (outcome : Except Trap Unit) (address : Address) :
    (store.publish instantiation outcome).slot? address = store.slot? address := by
  simp only [slot?, storage?_publish]
  split
  · rename_i same
    rw [same]
    cases store.storage? instantiation <;> simp
  · rfl

/-! ### Asking -/

/-- What a demand gives: the storage that was there, or fresh storage of a declared type. -/
theorem demand_ok {storage : Storage}
    (demanded : store.demand instantiation = .ok (after, storage)) :
    (store.storage? instantiation = some storage ∧ after = store) ∨
      (store.storage? instantiation = none ∧
        ∃ module type, store.modules[instantiation.module.position]? = some module ∧
          module.type? instantiation.type = some type ∧
          storage = freshStorage module type instantiation.arguments ∧
          after = { store with storages := (instantiation, storage) :: store.storages }) := by
  unfold demand at demanded
  rcases found : store.storage? instantiation with _ | present
  · right
    simp only [found, bind_eq_ok_iff] at demanded
    rcases demanded with ⟨module, loaded, demanded⟩
    rcases declared : module.type? instantiation.type with _ | type
    · simp [declared] at demanded
    · simp only [declared, pure_eq_ok, Except.ok.injEq, Prod.mk.injEq] at demanded
      rcases demanded with ⟨grown, fresh⟩
      refine ⟨rfl, module, type, ?_, declared, fresh.symm, ?_⟩
      · unfold Store.module at loaded
        split at loaded <;> simp_all
      · rw [← grown, ← fresh]
  · left
    simp only [found, Except.ok.injEq, Prod.mk.injEq] at demanded
    rcases demanded with ⟨rfl, rfl⟩
    exact ⟨rfl, rfl⟩

theorem storage?_of_demand {storage : Storage}
    (demanded : store.demand instantiation = .ok (after, storage)) (other : Instantiation) :
    after.storage? other =
      if other = instantiation then some storage else store.storage? other := by
  rcases demand_ok demanded with ⟨present, rfl⟩ | ⟨_, _, _, _, _, _, rfl⟩
  · split
    · rename_i same
      rw [same, present]
    · rfl
  · by_cases same : other = instantiation
    · simp [storage?, same]
    · have apart : instantiation ≠ other := fun equal => same equal.symm
      simp [storage?, same, apart]

theorem modules_of_demand {storage : Storage}
    (demanded : store.demand instantiation = .ok (after, storage)) :
    after.modules = store.modules := by
  rcases demand_ok demanded with ⟨_, rfl⟩ | ⟨_, _, _, _, _, _, rfl⟩ <;> rfl

theorem nextCallback_of_demand {storage : Storage}
    (demanded : store.demand instantiation = .ok (after, storage)) :
    after.nextCallback = store.nextCallback := by
  rcases demand_ok demanded with ⟨_, rfl⟩ | ⟨_, _, _, _, _, _, rfl⟩ <;> rfl

theorem waits_of_demand {storage : Storage}
    (demanded : store.demand instantiation = .ok (after, storage)) :
    after.waits = store.waits := by
  rcases demand_ok demanded with ⟨_, rfl⟩ | ⟨_, _, _, _, _, _, rfl⟩ <;> rfl

/-- What a thread is told is decided by the status of the storage, which changes accordingly. -/
structure Asked (store : Store) (thread : ThreadId) (instantiation : Instantiation)
    (after : Store) (ticket : Ticket Trap) (storage : Storage) : Prop where
  demanded : ∃ grown, store.demand instantiation = .ok (grown, storage)
  ticket_eq : ticket = (storage.status.ask store.waits thread instantiation).1
  storage?_eq : ∀ other, after.storage? other =
    if other = instantiation then
      some { storage with status := (storage.status.ask store.waits thread instantiation).2.1 }
    else store.storage? other
  waits_eq : after.waits = (storage.status.ask store.waits thread instantiation).2.2
  modules_eq : after.modules = store.modules
  nextCallback_eq : after.nextCallback = store.nextCallback

theorem ask_ok {thread : ThreadId} {ticket : Ticket Trap}
    (asked : store.ask thread instantiation = .ok (after, ticket)) :
    ∃ storage, Asked store thread instantiation after ticket storage := by
  unfold ask at asked
  rcases bind_eq_ok_iff.mp asked with ⟨⟨grown, storage⟩, demanded, asked⟩
  simp only [pure_eq_ok, Except.ok.injEq, Prod.mk.injEq] at asked
  rcases asked with ⟨rfl, rfl⟩
  rw [waits_of_demand demanded]
  refine ⟨storage, ⟨grown, demanded⟩, rfl, fun other => ?_, rfl, ?_, ?_⟩
  · have updated := storage?_updateStorage grown instantiation other fun kept =>
      { kept with status := (storage.status.ask store.waits thread instantiation).2.1 }
    rw [storage?_of_demand demanded, storage?_of_demand demanded, if_pos rfl] at updated
    refine updated.trans ?_
    split <;> rfl
  · simpa using modules_of_demand demanded
  · simpa using nextCallback_of_demand demanded

/-- Asking for an instantiation leaves what is in its slots, which are fresh where it had none. -/
theorem Asked.slot?_eq {thread : ThreadId} {ticket : Ticket Trap} {storage : Storage}
    (asked : Asked store thread instantiation after ticket storage) (address : Address) :
    after.slot? address =
      if address.instantiation = instantiation then storage.slots[address.slot]?
      else store.slot? address := by
  simp only [slot?, asked.storage?_eq]
  split <;> rfl

/-- The storage that is asked for is the one that was there, or fresh. -/
theorem Asked.storage_eq {thread : ThreadId} {ticket : Ticket Trap} {storage : Storage}
    (asked : Asked store thread instantiation after ticket storage) :
    store.storage? instantiation = some storage ∨
      (store.storage? instantiation = none ∧
        ∃ module type, store.modules[instantiation.module.position]? = some module ∧
          module.type? instantiation.type = some type ∧
          storage = freshStorage module type instantiation.arguments) := by
  rcases asked.demanded with ⟨grown, demanded⟩
  rcases demand_ok demanded with ⟨present, _⟩ | ⟨missing, module, type, loaded, declared, fresh, _⟩
  · exact .inl present
  · exact .inr ⟨missing, module, type, loaded, declared, fresh⟩

theorem ask_succeeds {module : Module} {type : TypeDecl} (thread : ThreadId)
    (loaded : store.modules[instantiation.module.position]? = some module)
    (declared : module.type? instantiation.type = some type) :
    ∃ after ticket, store.ask thread instantiation = .ok (after, ticket) := by
  have demanded : ∃ grown storage, store.demand instantiation = .ok (grown, storage) := by
    rcases found : store.storage? instantiation with _ | storage
    · have present : store.module instantiation.module = .ok module := by
        simp [Store.module, loaded]
      simp [demand, found, present, declared]
    · exact ⟨store, storage, by simp [demand, found]⟩
  rcases demanded with ⟨grown, storage, demanded⟩
  simp [ask, demanded]

/-! ### Failed initializers -/

/-- Whether the initializer of an instantiation has failed. -/
def HasFailed (store : Store) (instantiation : Instantiation) : Prop :=
  ∃ storage cause, store.storage? instantiation = some storage ∧ storage.status = .failed cause

theorem Asked.hasFailed {thread : ThreadId} {ticket : Ticket Trap} {storage : Storage}
    (asked : Asked store thread instantiation after ticket storage)
    (failed : after.HasFailed other) : store.HasFailed other := by
  rcases failed with ⟨found, cause, present, failed⟩
  rw [asked.storage?_eq] at present
  split at present
  · rename_i same
    cases present
    have before : storage.status = .failed cause := by
      rcases status : storage.status with _ | owner | _ | reason <;>
        simp only [status, Status.ask] at failed
      · cases failed
      · split at failed <;> cases failed
      · cases failed
      · exact failed
    rcases asked.storage_eq with kept | ⟨_, _, _, _, _, fresh⟩
    · exact ⟨storage, cause, same ▸ kept, before⟩
    · rw [fresh] at before
      cases before
  · exact ⟨found, cause, present, failed⟩

/-- Only a thread that asks for a type whose initializer has failed is told so. -/
theorem Asked.hasFailed_of_ticket {thread : ThreadId} {storage : Storage} {cause : Trap}
    (asked : Asked store thread instantiation after (.failed cause) storage) :
    store.HasFailed instantiation := by
  have told := asked.ticket_eq
  have before : storage.status = .failed cause := by
    rcases status : storage.status with _ | owner | _ | reason <;>
      simp only [status, Status.ask] at told
    · cases told
    · split at told <;> cases told
    · cases told
    · simp [Ticket.failed.inj told]
  rcases asked.storage_eq with kept | ⟨_, _, _, _, _, fresh⟩
  · exact ⟨storage, cause, kept, before⟩
  · rw [fresh] at before
    cases before

theorem hasFailed_of_setSlot {address : Address} {value : Value}
    (failed : (store.setSlot address value).HasFailed other) : store.HasFailed other := by
  rcases failed with ⟨found, cause, present, failed⟩
  rw [setSlot, storage?_updateStorage] at present
  split at present
  · rename_i same
    rcases before : store.storage? address.instantiation with _ | storage
    · simp [before] at present
    · rw [before] at present
      cases present
      exact ⟨storage, cause, same ▸ before, failed⟩
  · exact ⟨found, cause, present, failed⟩

theorem hasFailed_of_publish_ok
    (failed : (store.publish instantiation (.ok ())).HasFailed other) : store.HasFailed other := by
  rcases failed with ⟨found, cause, present, failed⟩
  rw [storage?_publish] at present
  split at present
  · rcases before : store.storage? instantiation with _ | storage
    · simp [before] at present
    · rw [before] at present
      cases present
      cases failed
  · exact ⟨found, cause, present, failed⟩

/-! ### Slots of fields -/

/-- The position found for a field is one where the type lists it. -/
theorem getElem?_of_lastPosition {id : FieldId} {fields : List FieldId} {position : Nat}
    (found : lastPosition id fields = some position) : fields[position]? = some id := by
  induction fields generalizing position with
  | nil => simp [lastPosition] at found
  | cons field fields ih =>
      simp only [lastPosition] at found
      rcases later : lastPosition id fields with _ | place
      · rw [later] at found
        by_cases same : field = id
        · simp only [same, if_true, Option.some.injEq] at found
          simp [← found, same]
        · simp [same] at found
      · rw [later] at found
        simp only [Option.some.injEq] at found
        simpa [← found] using ih later

theorem exists_lastPosition {id : FieldId} {fields : List FieldId} (listed : id ∈ fields) :
    ∃ position, lastPosition id fields = some position := by
  induction fields with
  | nil => simp at listed
  | cons field fields ih =>
      rcases later : lastPosition id fields with _ | place
      · rcases List.mem_cons.mp listed with rfl | listedLater
        · exact ⟨0, by simp [lastPosition, later]⟩
        · rcases ih listedLater with ⟨place, found⟩
          rw [later] at found
          cases found
      · exact ⟨place + 1, by simp [lastPosition, later]⟩

end Store

end Rekindle.Machine
