import Rekindle.Proofs.Cycles.Tended
import Rekindle.Proofs.Machine.Requests
import Rekindle.Proofs.Registration.Slots
import Rekindle.Proofs.Registry.Completing

/-!
# Desks

A desk is a loaded module with a tended dispatcher. As long as no value leads to the fields of the
dispatcher, they list what was registered, whatever else is registered, called or initialized, and
by whom. On the stack of the host's thread, the dispatcher type is initialized only at the top, and
a routine that registers is taken as a whole.
-/

namespace Rekindle.Machine

open Fallible Reload Validity

/-- A loaded module with a dispatcher. -/
structure Placed where
  handle : ModuleHandle
  module : Module
  dispatcher : Dispatcher
deriving DecidableEq

namespace Placed

variable (placed : Placed)

/-- The dispatcher type, which has no parameters. -/
def dispatching : Instantiation where
  module := placed.handle
  type := placed.dispatcher.type
  arguments := []

/-- The routine that invokes what is listed for an occasion. -/
def invoker (occasion : Occasion) : BoundRoutine where
  module := placed.handle
  routine := placed.dispatcher.invoker occasion
  arguments := []

/-- What values may lead to: everything but the fields of the dispatcher. -/
def scope : Scope where
  routines _ := True
  places place := place.instantiation ≠ placed.dispatching

/-- What is completed with the dispatcher. -/
def completes : List Activation → List Entry := completed placed.handle placed.dispatcher

theorem completes_sees : SeesReturns placed.completes :=
  completed_sees placed.handle placed.dispatcher

end Placed

/-- A loaded module with a tended dispatcher. -/
structure Desk extends Placed where
  tended : Tended module dispatcher

namespace Desk

/-- Where what is to be called on an occasion is kept. -/
def site (desk : Desk) (occasion : Occasion) : Site where
  module := desk.module
  handle := desk.handle
  owner := desk.dispatcher.type
  routine := desk.dispatcher.registrar occasion
  field := desk.dispatcher.actions occasion
  registers := desk.tended.registers occasion

theorem neighbours (desk : Desk) (occasion other : Occasion) :
    (desk.site occasion).Neighbours (desk.site other) := ⟨rfl, rfl, rfl⟩

variable {desk : Desk} {ledger : List Entry} {store after : Store} {storage : Storage}
  {instantiation : Instantiation} {activations : List Activation}

/-! ### What the dispatcher lists -/

/-- A store in which the dispatcher lists what a ledger does, and no value leads to it. -/
structure Keeps (desk : Desk) (ledger : List Entry) (store : Store) : Prop where
  records : ∀ occasion, (desk.site occasion).Records hostThread (onOccasion occasion ledger) store
  within : store.Within desk.scope

namespace Keeps

theorem loaded (keeps : desk.Keeps ledger store) :
    store.modules[desk.handle.position]? = some desk.module :=
  (keeps.records .load).loaded

/-- What the handle of a desk leads to. -/
theorem module_eq (keeps : desk.Keeps ledger store) {handle : ModuleHandle} {module : Module}
    (loaded : store.modules[handle.position]? = some module) (here : handle = desk.handle) :
    module = desk.module := by
  rw [here, keeps.loaded] at loaded
  exact (Option.some.inj loaded).symm

theorem of_same (keeps : desk.Keeps ledger store)
    (loaded : after.modules[desk.handle.position]? = some desk.module)
    (same : after.storage? desk.dispatching = store.storage? desk.dispatching)
    (within : after.Within desk.scope) : desk.Keeps ledger after :=
  ⟨fun occasion => (keeps.records occasion).of_same loaded same, within⟩

theorem ask (keeps : desk.Keeps ledger store) {ticket : Ticket Trap}
    (asked : store.Asked hostThread instantiation after ticket storage) :
    desk.Keeps ledger after :=
  ⟨fun occasion => (keeps.records occasion).ask asked, keeps.within.ask asked⟩

theorem publish (keeps : desk.Keeps ledger store) {outcome : Except Trap Unit}
    (succeeds : instantiation = desk.dispatching → outcome = .ok ()) :
    desk.Keeps ledger (store.publish instantiation outcome) :=
  ⟨fun occasion => (keeps.records occasion).publish succeeds,
    keeps.within.publish instantiation outcome⟩

theorem setSlot (keeps : desk.Keeps ledger store) {place : Address} {value : Value}
    (placed : desk.scope.places place) (known : value.Within desk.scope) :
    desk.Keeps ledger (store.setSlot place value) := by
  refine keeps.of_same keeps.loaded ?_ (keeps.within.setSlot place known)
  have apart : desk.dispatching ≠ place.instantiation := fun same => placed same.symm
  rw [Store.setSlot, Store.storage?_updateStorage, if_neg apart]

theorem issue (keeps : desk.Keeps ledger store) :
    desk.Keeps ledger { store with nextCallback := store.nextCallback + 1 } :=
  keeps.of_same keeps.loaded rfl keeps.within

theorem collectGarbage (keeps : desk.Keeps ledger store) :
    desk.Keeps ledger store.collectGarbage :=
  keeps.of_same keeps.loaded rfl keeps.within

theorem touched (keeps : desk.Keeps ledger store) (touched : store.Touched desk.scope after) :
    desk.Keeps ledger after := by
  cases touched with
  | same => exact keeps
  | wrote placed within => exact keeps.setSlot placed within
  | issued => exact keeps.issue

/-- A further module can be loaded. -/
theorem load (keeps : desk.Keeps ledger store) (module : Module) :
    desk.Keeps ledger { store with modules := store.modules.push module } :=
  keeps.of_same (getElem?_push keeps.loaded module) rfl keeps.within

/-- A registration is added to the ledger. -/
theorem registered (keeps : desk.Keeps ledger store) {occasion : Occasion} {argument : Value}
    (registered : (desk.site occasion).Registered store argument after)
    (known : argument.Within desk.scope) :
    desk.Keeps (ledger ++ argument.targets.map fun target => (occasion, target)) after :=
  ⟨Site.registered_each desk.neighbours
    (fun _ _ => Dispatcher.actions_ne desk.tended.actions_apart) keeps.records registered,
    registered.within keeps.within known⟩

end Keeps

/-! ### Stacks -/

/-- A frame that does not write to the dispatcher, and not of a routine that registers. -/
structure Harmless (desk : Desk) (frame : Frame) : Prop where
  within : frame.Within desk.scope
  apart : frame.module = desk.handle → ∀ occasion,
    frame.routine ≠ desk.dispatcher.registrar occasion
  sparing : frame.module = desk.handle → SparingBody desk.dispatcher desk.module frame.body
  fits : frame.module = desk.handle → ∃ arity routine,
    BodyFits desk.module arity routine frame.body

/-- A call that is not one of a routine that registers, or one that goes by its signature, or one
without an argument. -/
def Callable (desk : Desk) (target : BoundRoutine) (parameters : List Value) : Prop :=
  target.module = desk.handle → (∃ occasion, target.routine = desk.dispatcher.registrar occasion) →
    parameters = [] ∨ target.arguments = []

/-- A part of a stack under which the dispatcher lists what a ledger does. -/
def Calm (desk : Desk) : Activation → Prop
  | .body frame => desk.Harmless frame
  | .call target parameters =>
    (∀ value ∈ parameters, value.Within desk.scope) ∧ desk.Callable target parameters
  | .initializer instantiation => instantiation ≠ desk.dispatching
  | .targets _ | .access _ => True

/-- A store and a stack of which every step keeps what the dispatcher lists. -/
inductive State (desk : Desk) (ledger : List Entry) : Store → List Activation → Prop where
  | calm {store : Store} {activations : List Activation} (keeps : desk.Keeps ledger store)
      (all : ∀ activation ∈ activations, desk.Calm activation) :
      State desk ledger store activations
  /-- The dispatcher type is being initialized. -/
  | opening {store : Store} {below : List Activation} (keeps : desk.Keeps ledger store)
      (others : ∀ activation ∈ below, desk.Calm activation) :
      State desk ledger store (.initializer desk.dispatching :: below)
  /-- A routine that registers was entered. -/
  | registering {occasion : Occasion} {argument : Value} {store : Store} {storage : Storage}
      {below : List Activation} (keeps : desk.Keeps ledger store)
      (found : store.storage? desk.dispatching = some storage)
      (known : argument.Within desk.scope)
      (others : ∀ activation ∈ below, desk.Calm activation) :
      State desk ledger store
        (.body ((desk.site occasion).frame argument 0 .null .null .null []) :: below)

/-- What a step leads to when the dispatcher lists what a ledger does. -/
def Stays (desk : Desk) (ledger : List Entry) : Progress → Prop
  | .running store activations => desk.State ledger store activations
  | .blocked _ _ => True
  | .finished store _ => desk.Keeps ledger store

theorem Harmless.stays {frame next : Frame} (harmless : desk.Harmless frame)
    (stays : frame.Stays desk.scope next) : desk.Harmless next := by
  refine ⟨stays.within, ?_, ?_, ?_⟩
  · rw [stays.module_eq, stays.routine_eq]
    exact harmless.apart
  · rw [stays.module_eq, stays.body_eq]
    exact harmless.sparing
  · rw [stays.module_eq, stays.body_eq]
    exact harmless.fits

/-- A routine that registers is not entered without an argument. -/
theorem enter_harmless {limit depth : Nat} {target : BoundRoutine} {parameters : List Value}
    (keeps : desk.Keeps ledger store)
    (known : ∀ value ∈ parameters, value.Within desk.scope)
    (apart : target.module = desk.handle →
      (∃ occasion, target.routine = desk.dispatcher.registrar occasion) → parameters.length ≠ 1) :
    desk.scope.Confines (Frame.enter limit depth store target parameters) desk.Harmless := by
  rcases entered : Frame.enter limit depth store target parameters with trap | frame
  · have confined : desk.scope.Confines (Frame.enter limit depth store target parameters) _ :=
      enter_confined known
    rw [entered] at confined
    exact confined
  · rcases enter_ok entered with ⟨module, routine, body, isModule, found, hasBody, count, rfl⟩
    have loaded := Store.module_ok isModule
    have other : target.module = desk.handle → ∀ occasion,
        target.routine ≠ desk.dispatcher.registrar occasion := by
      intro here occasion same
      obtain rfl := keeps.module_eq loaded here
      rcases (desk.tended.registers occasion).routine_declared with ⟨_, _, declared⟩
      rw [same, declared] at found
      cases found
      exact apart here ⟨occasion, same⟩ count
    refine ⟨start_within module target routine body known, other, ?_, ?_⟩
    · intro here
      obtain rfl := keeps.module_eq loaded here
      exact desk.tended.sparing _ _ _ found hasBody (other here)
    · intro here
      obtain rfl := keeps.module_eq loaded here
      rcases desk.tended.valid.routines _ _ found with ⟨owner, _, _, _, bodies⟩
      exact ⟨owner.arity, routine, bodies body hasBody⟩

end Desk

end Rekindle.Machine
