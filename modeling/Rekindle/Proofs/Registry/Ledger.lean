import Rekindle.Proofs.Machine.Confined
import Rekindle.Proofs.Machine.Statuses
import Rekindle.Proofs.Registration.Slots
import Rekindle.Proofs.Registry.Wiring

/-!
# The ledger of a dispatcher

A ledger lists the routines that were registered with a dispatcher, in the order in which their
registration was completed. While nothing but registrations writes to the dispatcher, its slots hold
what the ledger lists. What a machine does otherwise to its store keeps it so.
-/

namespace Rekindle.Machine

open Fallible Reload Validity

/-- A wired module that a machine has loaded. -/
structure Registry where
  handle : ModuleHandle
  module : Module
  dispatcher : Dispatcher
  hooks : List Hook
  wired : Wired module dispatcher hooks

/-- A routine that was registered, with the occasion to call it on. -/
abbrev Entry := Occasion × BoundRoutine

/-- What a ledger lists for an occasion. -/
def onOccasion (occasion : Occasion) (ledger : List Entry) : List BoundRoutine :=
  (ledger.filter fun entry => entry.1 = occasion).map (·.2)

@[simp]
theorem onOccasion_append (occasion : Occasion) (ledger more : List Entry) :
    onOccasion occasion (ledger ++ more) =
      onOccasion occasion ledger ++ onOccasion occasion more := by
  simp [onOccasion]

theorem onOccasion_self (occasion : Occasion) (targets : List BoundRoutine) :
    onOccasion occasion (targets.map fun target => (occasion, target)) = targets := by
  simp [onOccasion, List.filter_map, Function.comp_def]

theorem onOccasion_of_ne {occasion other : Occasion} (apart : occasion ≠ other)
    (targets : List BoundRoutine) :
    onOccasion other (targets.map fun target => (occasion, target)) = [] := by
  simp [onOccasion, List.filter_map, Function.comp_def, apart]

theorem eq_nil_of_onOccasion {ledger : List Entry}
    (nothing : ∀ occasion, onOccasion occasion ledger = []) : ledger = [] := by
  cases ledger with
  | nil => rfl
  | cons entry others =>
      have something := nothing entry.1
      simp [onOccasion] at something

/-- A registration with one of the slots of a dispatcher adds to what the slots list. -/
theorem Site.registered_each {sites : Occasion → Site} {thread : ThreadId} {ledger : List Entry}
    {store after : Store} {occasion : Occasion} {argument : Value}
    (neighbours : ∀ occasion other, (sites occasion).Neighbours (sites other))
    (apart : ∀ occasion other, occasion ≠ other → (sites occasion).field ≠ (sites other).field)
    (records : ∀ occasion, (sites occasion).Records thread (onOccasion occasion ledger) store)
    (registered : (sites occasion).Registered store argument after) (other : Occasion) :
    (sites other).Records thread (onOccasion other
      (ledger ++ argument.targets.map fun target => (occasion, target))) after := by
  rw [onOccasion_append]
  by_cases same : occasion = other
  · subst same
    rw [onOccasion_self]
    exact (records occasion).registered registered
  · rw [onOccasion_of_ne same, List.append_nil]
    exact (records other).registeredBeside (neighbours other occasion) (apart occasion other same)
      registered

theorem Value.IsCombinable.within {scope : Scope} {value : Value} (combinable : value.IsCombinable)
    (targets : ∀ target ∈ value.targets, scope.routines target) : value.Within scope := by
  cases value with
  | null => trivial
  | callback object => exact targets
  | _ => cases combinable

namespace Registry

/-! ### Names in the module -/

section Names

variable (registry : Registry)

/-- Where what is to be called on an occasion is kept. -/
def site (occasion : Occasion) : Site where
  module := registry.module
  handle := registry.handle
  owner := registry.dispatcher.type
  routine := registry.dispatcher.registrar occasion
  field := registry.dispatcher.actions occasion
  registers := registry.wired.registers occasion

/-- The dispatcher type, which has no parameters. -/
def dispatching : Instantiation where
  module := registry.handle
  type := registry.dispatcher.type
  arguments := []

/-- An instantiation that has as many arguments as its type has parameters, if it is one of the
module. -/
def Places (instantiation : Instantiation) : Prop :=
  instantiation.module = registry.handle → ∃ type,
    registry.module.type? instantiation.type = some type ∧
      type.arity = instantiation.arguments.length

/-- A routine of the module that may be called from everywhere. -/
structure Admits (target : BoundRoutine) : Prop where
  nameable : Nameable registry.dispatcher registry.module target.routine
  placed : ∀ routine, registry.module.routine? target.routine = some routine → ∃ type,
    registry.module.type? routine.owner = some type ∧ type.arity = target.arguments.length

/-- What values may lead to while nothing but registrations writes to the dispatcher. -/
def scope : Scope where
  routines target := target.module = registry.handle → registry.Admits target
  places place := place.instantiation ≠ registry.dispatching

end Names

variable {registry : Registry}

theorem Places.eq_dispatching {instantiation : Instantiation}
    (places : registry.Places instantiation) (here : instantiation.module = registry.handle)
    (isDispatcher : instantiation.type = registry.dispatcher.type) :
    instantiation = registry.dispatching := by
  rcases places here with ⟨type, declared, arity_eq⟩
  rw [isDispatcher] at declared
  rw [registry.wired.plain type declared] at arity_eq
  rcases instantiation with ⟨handle, owner, arguments⟩
  simp only at here isDispatcher arity_eq
  rw [here, isDispatcher, List.eq_nil_of_length_eq_zero arity_eq.symm, dispatching]

theorem hooked_ne {hook : Hook} (listed : hook ∈ registry.hooks) (arguments : List ValueType) :
    (⟨registry.handle, hook.type, arguments⟩ : Instantiation) ≠ registry.dispatching :=
  fun same => registry.wired.apart hook listed (congrArg (·.type) same)

theorem neighbours (registry : Registry) (occasion other : Occasion) :
    (registry.site occasion).Neighbours (registry.site other) := ⟨rfl, rfl, rfl⟩

/-! ### What the dispatcher holds -/

/-- Storage of the dispatcher that is in use and holds what a ledger lists. -/
structure Holds (registry : Registry) (ledger : List Entry) (storage : Storage) : Prop where
  active : storage.status.IsActive hostThread
  held : ∀ occasion, ∃ value, storage.slots[(registry.site occasion).slot.slot]? = some value ∧
    value.IsCombinable ∧ value.targets = onOccasion occasion ledger

/-- A store in which the dispatcher holds what a ledger lists. -/
structure Keeps (registry : Registry) (ledger : List Entry) (store : Store) : Prop where
  loaded : store.modules[registry.handle.position]? = some registry.module
  present : ∀ storage, store.storage? registry.dispatching = some storage →
    registry.Holds ledger storage
  absent : store.storage? registry.dispatching = none → ledger = []

/-- A ledger that lists the routines of every initialized instantiation of a hooked type once, and
no others. -/
structure Accounts (registry : Registry) (ledger : List Entry) (store : Store) : Prop where
  once : ∀ occasion, (onOccasion occasion ledger).Nodup
  listed : ∀ occasion target, target ∈ onOccasion occasion ledger ↔
    target.module = registry.handle ∧ ∃ hook ∈ registry.hooks,
      hook.routine occasion = some target.routine ∧
        store.status? ⟨registry.handle, hook.type, target.arguments⟩ = some .done

/-- A store in which a ledger is right about the dispatcher and about what is initialized. -/
structure Sound (registry : Registry) (ledger : List Entry) (store : Store) : Prop where
  keeps : registry.Keeps ledger store
  accounts : registry.Accounts ledger store
  within : store.Within registry.scope

variable {ledger : List Entry} {store after : Store} {storage base : Storage}

theorem Accounts.congr (accounts : registry.Accounts ledger store)
    (same : ∀ hook ∈ registry.hooks, ∀ arguments,
      after.status? ⟨registry.handle, hook.type, arguments⟩ = some .done ↔
        store.status? ⟨registry.handle, hook.type, arguments⟩ = some .done) :
    registry.Accounts ledger after := by
  refine ⟨accounts.once, ?_⟩
  intro occasion target
  rw [accounts.listed]
  apply and_congr_right
  intro _
  apply exists_congr
  intro hook
  apply and_congr_right
  intro isHook
  rw [same hook isHook]

/-- The dispatcher holds what a ledger lists when each of its slots lists it. -/
theorem keeps_of_records
    (records : ∀ occasion,
      (registry.site occasion).Records hostThread (onOccasion occasion ledger) store) :
    registry.Keeps ledger store := by
  refine ⟨(records .load).loaded, fun storage found => ⟨?_, fun occasion => ?_⟩, ?_⟩
  · exact ((records .load).present storage found).active
  · exact ((records occasion).present storage found).held
  · exact fun missing => eq_nil_of_onOccasion fun occasion => (records occasion).absent missing

namespace Keeps

theorem records (keeps : registry.Keeps ledger store) (occasion : Occasion) :
    (registry.site occasion).Records hostThread (onOccasion occasion ledger) store := by
  refine ⟨keeps.loaded, ?_, ?_⟩
  · intro storage found
    have holds := keeps.present storage found
    exact ⟨holds.active, holds.held occasion⟩
  · intro missing
    rw [keeps.absent missing]
    rfl

theorem of_same (keeps : registry.Keeps ledger store)
    (loaded : after.modules[registry.handle.position]? = some registry.module)
    (same : after.storage? registry.dispatching = store.storage? registry.dispatching) :
    registry.Keeps ledger after :=
  keeps_of_records fun occasion => (keeps.records occasion).of_same loaded same

theorem module_found (keeps : registry.Keeps ledger store) :
    store.module registry.handle = .ok registry.module := by
  simp only [Store.module, keeps.loaded]

/-- What a handle of the registry leads to. -/
theorem module_eq (keeps : registry.Keeps ledger store) {handle : ModuleHandle} {module : Module}
    (loaded : store.modules[handle.position]? = some module) (here : handle = registry.handle) :
    module = registry.module := by
  rw [here, keeps.loaded] at loaded
  exact (Option.some.inj loaded).symm

/-- Asking for an instantiation leaves what the dispatcher holds. -/
theorem ask (keeps : registry.Keeps ledger store) {instantiation : Instantiation}
    {ticket : Ticket Trap}
    (asked : store.Asked hostThread instantiation after ticket storage) :
    registry.Keeps ledger after :=
  keeps_of_records fun occasion => (keeps.records occasion).ask asked

/-- A registration adds to what the dispatcher holds. -/
theorem registered (keeps : registry.Keeps ledger store) {occasion : Occasion} {argument : Value}
    (registered : (registry.site occasion).Registered store argument after) :
    registry.Keeps (ledger ++ argument.targets.map fun target => (occasion, target)) after :=
  keeps_of_records (Site.registered_each registry.neighbours
    (fun _ _ => Dispatcher.actions_ne registry.wired.actions_apart) keeps.records registered)

end Keeps

/-! ### What keeps a ledger right -/

namespace Sound

theorem persists (sound : registry.Sound ledger store) (keeps : registry.Keeps ledger after)
    (persists : store.Persists hostThread after) (within : after.Within registry.scope) :
    registry.Sound ledger after :=
  ⟨keeps, sound.accounts.congr fun _ _ _ => persists.done _, within⟩

theorem ask (sound : registry.Sound ledger store) {instantiation : Instantiation}
    {ticket : Ticket Trap}
    (asked : store.Asked hostThread instantiation after ticket storage) :
    registry.Sound ledger after :=
  sound.persists (sound.keeps.ask asked) asked.persists (sound.within.ask asked)

theorem setSlot (sound : registry.Sound ledger store) {place : Address} {value : Value}
    (placed : registry.scope.places place) (known : value.Within registry.scope) :
    registry.Sound ledger (store.setSlot place value) := by
  refine sound.persists (sound.keeps.of_same sound.keeps.loaded ?_)
    (Store.persists_setSlot hostThread store place value) (sound.within.setSlot place known)
  have apart : registry.dispatching ≠ place.instantiation := fun same => placed same.symm
  rw [Store.setSlot, Store.storage?_updateStorage, if_neg apart]

theorem issue (sound : registry.Sound ledger store) :
    registry.Sound ledger { store with nextCallback := store.nextCallback + 1 } :=
  sound.persists (sound.keeps.of_same sound.keeps.loaded rfl)
    ⟨fun _ => .rfl, fun _ running => running⟩ sound.within

theorem touched (sound : registry.Sound ledger store)
    (touched : store.Touched registry.scope after) : registry.Sound ledger after := by
  cases touched with
  | same => exact sound
  | wrote placed within => exact sound.setSlot placed within
  | issued => exact sound.issue

/-- A further module can be loaded. -/
theorem load (sound : registry.Sound ledger store) (module : Module) :
    registry.Sound ledger { store with modules := store.modules.push module } :=
  sound.persists (sound.keeps.of_same (getElem?_push sound.keeps.loaded module) rfl)
    ⟨fun _ => .rfl, fun _ running => running⟩ sound.within

/-- The end of an initializer is noted. For a hooked type it changes nothing only if the initializer
failed, and was not known to have succeeded. -/
theorem publish (sound : registry.Sound ledger store) {instantiation : Instantiation}
    {outcome : Except Trap Unit} (apart : instantiation ≠ registry.dispatching)
    (unhooked : ∀ hook ∈ registry.hooks, ∀ arguments,
      instantiation = ⟨registry.handle, hook.type, arguments⟩ →
        store.status? instantiation ≠ some .done ∧ ∃ trap, outcome = .error trap) :
    registry.Sound ledger (store.publish instantiation outcome) := by
  refine ⟨sound.keeps.of_same sound.keeps.loaded ?_, sound.accounts.congr ?_,
    sound.within.publish instantiation outcome⟩
  · have apartToo : registry.dispatching ≠ instantiation := fun same => apart same.symm
    rw [Store.storage?_publish, if_neg apartToo]
  · intro hook listed arguments
    rw [Store.status?_publish]
    split
    · rename_i same
      rcases unhooked hook listed arguments same.symm with ⟨unfinished, trap, rfl⟩
      rw [same]
      constructor
      · intro failed
        rcases Option.map_eq_some_iff.mp failed with ⟨_, _, impossible⟩
        cases impossible
      · intro finished
        exact absurd finished unfinished
    · exact .rfl

/-- The dispatcher type is initialized without further ado. -/
theorem dispatch (sound : registry.Sound ledger store) :
    registry.Sound ledger (store.publish registry.dispatching (.ok ())) := by
  refine ⟨?_, sound.accounts.congr ?_, sound.within.publish _ _⟩
  · exact keeps_of_records fun occasion => (sound.keeps.records occasion).publish fun _ => rfl
  · intro hook listed arguments
    rw [Store.status?_publish, if_neg (hooked_ne listed arguments)]

end Sound

end Registry

end Rekindle.Machine
