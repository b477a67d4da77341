import Rekindle.Proofs.Registration.Calling

/-!
# What a slot lists

While nothing but registrations writes to a slot of a dispatcher, the slot lists the targets of what
was registered, in the order in which that was done. Until the dispatcher type is first used, it has
no storage, and nothing is listed.
-/

namespace Rekindle.Machine

open Reload

namespace Site

/-- Storage in use in which a slot lists targets. -/
structure Shows (site : Site) (thread : ThreadId) (targets : List BoundRoutine)
    (storage : Storage) : Prop where
  active : storage.status.IsActive thread
  held : ∃ value, storage.slots[site.slot.slot]? = some value ∧ value.IsCombinable ∧
    value.targets = targets

/-- A store in which a slot lists targets. -/
structure Records (site : Site) (thread : ThreadId) (targets : List BoundRoutine)
    (store : Store) : Prop where
  loaded : store.modules[site.handle.position]? = some site.module
  present : ∀ storage, store.storage? site.slot.instantiation = some storage →
    site.Shows thread targets storage
  absent : store.storage? site.slot.instantiation = none → targets = []

/-- A slot of the same type of the same loaded module. -/
structure Neighbours (site other : Site) : Prop where
  handle_eq : other.handle = site.handle
  module_eq : other.module = site.module
  owner_eq : other.owner = site.owner

variable {site other : Site} {thread : ThreadId} {targets : List BoundRoutine}
  {store after : Store} {storage base : Storage} {argument : Value}

/-! ### Places -/

/-- A slot is where its type lists its field. -/
theorem slot_listed (site : Site) : ∃ type, site.module.type? site.owner = some type ∧
    type.fields[site.slot.slot]? = some site.field := by
  rcases site.registers.field_declared with ⟨_, found⟩
  rcases site.registers.field_listed with ⟨type, declared, listed⟩
  rcases Store.exists_lastPosition listed with ⟨position, isLast⟩
  have place : site.slot.slot = position := by
    simp [slot, Store.slotOf, found, declared, isLast]
  exact ⟨type, declared, place ▸ Store.getElem?_of_lastPosition isLast⟩

theorem Neighbours.instantiation_eq (neighbours : site.Neighbours other) :
    other.slot.instantiation = site.slot.instantiation := by
  simp only [slot, neighbours.handle_eq, neighbours.owner_eq]

/-- Different fields have different slots. -/
theorem Neighbours.slot_ne (neighbours : site.Neighbours other) (apart : other.field ≠ site.field) :
    other.slot.slot ≠ site.slot.slot := by
  rcases site.slot_listed with ⟨type, declared, listed⟩
  rcases other.slot_listed with ⟨otherType, otherDeclared, otherListed⟩
  rw [neighbours.module_eq, neighbours.owner_eq, declared] at otherDeclared
  cases otherDeclared
  intro same
  rw [same, listed] at otherListed
  exact apart (Option.some.inj otherListed).symm

/-- A host finds a slot. -/
theorem hostAddress_eq (site : Site)
    (loaded : store.modules[site.handle.position]? = some site.module)
    (plain : ∀ type, site.module.type? site.owner = some type → type.arity = 0) :
    store.hostAddress site.handle site.field [] = .ok site.slot := by
  rcases site.registers.field_declared with ⟨name, found⟩
  rcases site.registers.field_listed with ⟨type, declared, _⟩
  have placed : Store.slotOf site.module site.field = .ok site.slot.slot := by
    simp [Store.slotOf, found, declared, slot]
  simp [Store.hostAddress, Store.module, loaded, found, Store.checkArguments, declared,
    plain type declared, placed, Dispatcher.slotDecl, FieldDecl.hasStorage]
  rfl

/-! ### What keeps a slot as it is -/

theorem Shows.withStatus (shows : site.Shows thread targets storage) {status : Status Trap}
    (active : status.IsActive thread) : site.Shows thread targets { storage with status } :=
  ⟨active, shows.held⟩

/-- Fresh storage lists nothing. -/
theorem shows_fresh {type : TypeDecl} (declared : site.module.type? site.owner = some type)
    {status : Status Trap} (active : status.IsActive thread) :
    site.Shows thread [] { Store.freshStorage site.module type [] with status } :=
  ⟨active, .null, fresh_slot declared, trivial, rfl⟩

namespace Records

theorem of_shows (loaded : after.modules[site.handle.position]? = some site.module)
    (found : after.storage? site.slot.instantiation = some storage)
    (shows : site.Shows thread targets storage) : site.Records thread targets after := by
  refine ⟨loaded, ?_, ?_⟩
  · intro other otherFound
    rw [found] at otherFound
    cases otherFound
    exact shows
  · intro missing
    rw [found] at missing
    cases missing

theorem of_same (records : site.Records thread targets store)
    (loaded : after.modules[site.handle.position]? = some site.module)
    (same : after.storage? site.slot.instantiation = store.storage? site.slot.instantiation) :
    site.Records thread targets after := by
  refine ⟨loaded, ?_, ?_⟩
  · intro storage found
    exact records.present storage (same ▸ found)
  · intro missing
    exact records.absent (same ▸ missing)

theorem usable (records : site.Records thread targets store) : site.Usable thread store := by
  refine ⟨records.loaded, ?_⟩
  intro storage found
  rcases records.present storage found with ⟨active, value, held, combinable, _⟩
  exact ⟨active, value, held, combinable⟩

theorem targets_eq (records : site.Records thread targets store) :
    (store.held site.slot).targets = targets := by
  rw [Store.held, Store.slot?]
  rcases found : store.storage? site.slot.instantiation with _ | storage
  · rw [records.absent found]
    rfl
  · rcases (records.present storage found).held with ⟨value, held, _, targets_eq⟩
    rw [Option.bind_some, held]
    exact targets_eq

theorem based (records : site.Records thread targets store)
    (neighbours : site.Neighbours other) (based : other.Based store base) :
    site.Shows thread targets base := by
  cases based with
  | present found => exact records.present base (neighbours.instantiation_eq ▸ found)
  | fresh missing declared =>
      rw [neighbours.instantiation_eq] at missing
      rw [neighbours.module_eq, neighbours.owner_eq] at declared
      rw [records.absent missing, neighbours.module_eq]
      exact shows_fresh declared trivial

/-- Asking for an instantiation leaves what a slot lists. -/
theorem ask (records : site.Records thread targets store) {instantiation : Instantiation}
    {ticket : Ticket Trap} (asked : store.Asked thread instantiation after ticket storage) :
    site.Records thread targets after := by
  have loaded : after.modules[site.handle.position]? = some site.module := by
    rw [asked.modules_eq]
    exact records.loaded
  have found := asked.storage?_eq site.slot.instantiation
  split at found
  · rename_i same
    subst same
    refine of_shows loaded found ?_
    rcases asked.storage_eq with present | ⟨missing, module, type, moduleLoaded, declared, fresh⟩
    · have shows := records.present storage present
      apply shows.withStatus
      have active := shows.active
      cases status : storage.status with
      | running owner =>
          rw [status] at active
          cases active
          simp [Status.ask, Status.IsActive]
      | done => trivial
      | pending | failed cause =>
          rw [status] at active
          cases active
    · rw [show store.modules[site.slot.instantiation.module.position]? = some site.module from
        records.loaded] at moduleLoaded
      cases moduleLoaded
      rw [records.absent missing, fresh]
      exact shows_fresh declared rfl
  · exact records.of_same loaded found

/-- The end of an initializer is noted, of the dispatcher type only when it has succeeded. -/
theorem publish (records : site.Records thread targets store) {instantiation : Instantiation}
    {outcome : Except Trap Unit}
    (succeeds : instantiation = site.slot.instantiation → outcome = .ok ()) :
    site.Records thread targets (store.publish instantiation outcome) := by
  have published := Store.storage?_publish store instantiation site.slot.instantiation outcome
  split at published
  · rename_i same
    subst same
    obtain rfl := succeeds rfl
    rcases found : store.storage? site.slot.instantiation with _ | storage
    · rw [found] at published
      exact records.of_same records.loaded (published.trans found.symm)
    · rw [found] at published
      exact .of_shows records.loaded published ((records.present storage found).withStatus (by trivial))
  · exact records.of_same records.loaded published

/-- A registration adds to its slot. -/
theorem registered (records : site.Records thread targets store)
    (registered : site.Registered store argument after) :
    site.Records thread (targets ++ argument.targets) after := by
  rcases registered.added with
    ⟨base, value, combined, based, valueHeld, combinable, targets_eq, found⟩
  have shows := records.based ⟨rfl, rfl, rfl⟩ based
  have inside := (Array.getElem?_eq_some_iff.mp valueHeld).1
  rcases shows.held with ⟨held, isHeld, _, heldTargets⟩
  rw [valueHeld] at isHeld
  cases isHeld
  refine of_shows ?_ found ⟨shows.active, combined, by simp [inside], combinable, ?_⟩
  · rw [registered.beside.modules_eq]
    exact records.loaded
  · rw [targets_eq, heldTargets]

/-- A registration leaves what another slot lists. -/
theorem registeredBeside (records : site.Records thread targets store)
    (neighbours : site.Neighbours other) (apart : other.field ≠ site.field)
    (registered : other.Registered store argument after) : site.Records thread targets after := by
  rcases registered.added with ⟨base, value, combined, based, _, _, _, found⟩
  have shows := records.based neighbours based
  rw [neighbours.instantiation_eq] at found
  refine of_shows ?_ found ⟨shows.active, ?_⟩
  · rw [registered.beside.modules_eq]
    exact records.loaded
  · rw [Array.getElem?_setIfInBounds_ne (neighbours.slot_ne apart)]
    exact shows.held

end Records

end Site

end Rekindle.Machine
