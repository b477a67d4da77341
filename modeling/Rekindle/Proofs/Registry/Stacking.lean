import Rekindle.Proofs.Registry.Completing
import Rekindle.Proofs.Transparency.Lookups

/-!
# Stacks over a dispatcher

What the host's thread may have on its stack while a ledger is right. An instantiation is
initialized at most once at a time, the initializer of a hooked type stands directly above the note
of its end, and everything else is discreet.
-/

namespace Rekindle.Machine

open Fallible Reload Validity

/-- The instantiations whose initializers are to end. -/
def initializing : List Activation → List Instantiation
  | [] => []
  | .initializer instantiation :: below => instantiation :: initializing below
  | .body _ :: below | .targets _ :: below | .call _ _ :: below | .access _ :: below =>
    initializing below

/-- Different instantiations that the host's thread initializes. -/
structure Started (store : Store) (instantiations : List Instantiation) : Prop where
  distinct : instantiations.Nodup
  running : ∀ instantiation ∈ instantiations,
    store.status? instantiation = some (.running hostThread)

namespace Started

variable {store after : Store} {instantiations : List Instantiation}
  {instantiation : Instantiation}

theorem persists (started : Started store instantiations)
    (persists : store.Persists hostThread after) : Started after instantiations :=
  ⟨started.distinct, fun other listed => persists.running other (started.running other listed)⟩

theorem first (started : Started store (instantiation :: instantiations)) :
    store.status? instantiation = some (.running hostThread) :=
  started.running instantiation List.mem_cons_self

theorem others (started : Started store (instantiation :: instantiations))
    (same : ∀ other ∈ instantiations, other ≠ instantiation →
      after.status? other = store.status? other) : Started after instantiations := by
  rcases List.nodup_cons.mp started.distinct with ⟨fresh, distinct⟩
  refine ⟨distinct, ?_⟩
  intro other listed
  have apart : other ≠ instantiation := by
    rintro rfl
    exact fresh listed
  rw [same other listed apart]
  exact started.running other (List.mem_cons_of_mem _ listed)

theorem publish (started : Started store (instantiation :: instantiations))
    (outcome : Except Trap Unit) :
    Started (store.publish instantiation outcome) instantiations := by
  apply started.others
  intro other _ apart
  rw [Store.status?_publish, if_neg apart]

/-- A thread that is told to run an initializer was not running it. -/
theorem run (started : Started store instantiations) {storage : Storage}
    (asked : store.Asked hostThread instantiation after .run storage) :
    Started after (instantiation :: instantiations) := by
  rcases asked.status?_run with ⟨unstarted, _, running⟩
  have later := started.persists asked.persists
  refine ⟨List.nodup_cons.mpr ⟨?_, started.distinct⟩, ?_⟩
  · intro listed
    exact unstarted (started.running instantiation listed)
  · exact List.forall_mem_cons.mpr ⟨running, later.running⟩

end Started

namespace Registry

/-! ### Frames -/

/-- A frame of a discreet body, in the module of a registry or in any body of another. -/
structure Innocent (registry : Registry) (frame : Frame) : Prop where
  within : frame.Within registry.scope
  apart : frame.module = registry.handle → ∀ occasion,
    frame.routine ≠ registry.dispatcher.registrar occasion
  discreet : frame.module = registry.handle → ∀ instruction ∈ frame.body.instructions.toList,
    Discreet registry.dispatcher registry.module instruction
  fits : frame.module = registry.handle → ∃ arity routine,
    BodyFits registry.module arity routine frame.body

variable {registry : Registry} {ledger : List Entry} {frame after : Frame}
  {instruction : Instruction}

namespace Innocent

theorem stays (innocent : registry.Innocent frame) (stays : frame.Stays registry.scope after) :
    registry.Innocent after := by
  refine ⟨stays.within, ?_, ?_, ?_⟩
  · rw [stays.module_eq, stays.routine_eq]
    exact innocent.apart
  · rw [stays.module_eq, stays.body_eq]
    exact innocent.discreet
  · rw [stays.module_eq, stays.body_eq]
    exact innocent.fits

theorem mem_of_instruction? (current : frame.instruction? = some instruction) :
    instruction ∈ frame.body.instructions.toList :=
  Array.mem_toList_iff.mpr (Array.mem_of_getElem? current)

/-- What a frame names may be called from everywhere. -/
theorem bound_admitted (innocent : registry.Innocent frame)
    (current : frame.instruction? = some instruction) {reference : RoutineRef}
    (names : instruction = .call reference ∨ instruction = .loadRoutine reference) :
    registry.scope.routines (frame.bound reference) := by
  intro here
  have listed := mem_of_instruction? current
  have discreet := innocent.discreet here instruction listed
  rcases innocent.fits here with ⟨arity, routine, fits⟩
  have operand := (fits.instructions instruction listed).operand
  have nameable : Nameable registry.dispatcher registry.module reference.routine := by
    rcases names with rfl | rfl <;> exact discreet
  have reference_fits : RoutineRefFits registry.module arity reference := by
    rcases names with rfl | rfl <;> exact operand
  refine ⟨nameable, ?_⟩
  rcases reference_fits with ⟨named, found, _, _, binding⟩
  intro other otherFound
  rw [show registry.module.routine? reference.routine = some other from otherFound] at found
  cases found
  rcases length_close binding frame.arguments with ⟨type, declared, arity_eq⟩
  exact ⟨type, declared, arity_eq⟩

/-- What a frame can reach of a field has as many arguments as the type of the field. -/
theorem address_places {store : Store} {address : Address} (innocent : registry.Innocent frame)
    (keeps : registry.Keeps ledger store) (current : frame.instruction? = some instruction)
    {reference : FieldRef}
    (names : instruction = .loadField reference ∨ instruction = .storeField reference ∨
      instruction = .loadFieldAddress reference)
    (placed : frame.address store reference = .ok address) :
    registry.Places address.instantiation ∧
      (instruction ≠ .loadField reference → registry.scope.places address) := by
  have confined := address_confined registry.scope frame store reference
  rw [placed] at confined
  rcases confined with ⟨module, field, loaded, found, instantiation_eq⟩
  by_cases here : frame.module = registry.handle
  · have listed := mem_of_instruction? current
    rcases innocent.fits here with ⟨arity, routine, fits⟩
    have operand := (fits.instructions instruction listed).operand
    have discreet := innocent.discreet here instruction listed
    obtain rfl := keeps.module_eq loaded here
    have reference_fits : FieldRefFits registry.module arity reference := by
      rcases names with rfl | rfl | rfl <;> exact operand
    rcases reference_fits with ⟨other, otherFound, _, binding⟩
    rw [found] at otherFound
    cases otherFound
    rcases length_close binding frame.arguments with ⟨type, declared, arity_eq⟩
    rw [instantiation_eq]
    refine ⟨fun _ => ⟨type, declared, arity_eq⟩, ?_⟩
    intro writes isDispatcher
    rw [instantiation_eq] at isDispatcher
    have apart : field.owner ≠ registry.dispatcher.type := by
      rcases names with rfl | rfl | rfl
      · exact absurd rfl writes
      · exact discreet field found
      · exact discreet field found
    exact apart (congrArg (·.type) isDispatcher)
  · rw [instantiation_eq]
    refine ⟨fun isHere => absurd isHere here, ?_⟩
    intro _ isDispatcher
    rw [instantiation_eq] at isDispatcher
    exact here (congrArg (·.module) isDispatcher)

end Innocent

/-! ### Stacks -/

/-- An instantiation of a hooked type. -/
def Hooks (registry : Registry) (instantiation : Instantiation) : Prop :=
  instantiation.module = registry.handle ∧
    ∃ hook ∈ registry.hooks, hook.type = instantiation.type

/-- A stack of which every part is discreet or the initializer of a hooked type. -/
inductive Stacked (registry : Registry) : List Activation → Prop where
  | nil : Stacked registry []
  | body {frame : Frame} {below : List Activation} (innocent : registry.Innocent frame)
      (others : Stacked registry below) : Stacked registry (.body frame :: below)
  | wrapper {hook : Hook} {copy : RoutineId} {frame : Frame} {below : List Activation}
      (wrapping : registry.Wrapping hook (some copy) frame) (others : Stacked registry below) :
      Stacked registry (.body frame ::
        .initializer ⟨registry.handle, hook.type, frame.arguments⟩ :: below)
  | initializer {instantiation : Instantiation} {below : List Activation}
      (unhooked : ¬registry.Hooks instantiation) (apart : instantiation ≠ registry.dispatching)
      (others : Stacked registry below) : Stacked registry (.initializer instantiation :: below)
  | targets {targets : List BoundRoutine} {below : List Activation}
      (known : ∀ target ∈ targets, registry.scope.routines target)
      (others : Stacked registry below) : Stacked registry (.targets targets :: below)
  | call {target : BoundRoutine} {parameters : List Value} {below : List Activation}
      (known : registry.scope.routines target)
      (within : ∀ value ∈ parameters, value.Within registry.scope)
      (others : Stacked registry below) : Stacked registry (.call target parameters :: below)
  | access {instantiation : Instantiation} {below : List Activation}
      (places : registry.Places instantiation) (others : Stacked registry below) :
      Stacked registry (.access instantiation :: below)

/-- A store and a stack for which a ledger is right, and stays right with every step. -/
inductive State (registry : Registry) (ledger : List Entry) : Store → List Activation → Prop where
  | calm {store : Store} {activations : List Activation} (sound : registry.Sound ledger store)
      (started : Started store (initializing activations))
      (stacked : registry.Stacked activations) : State registry ledger store activations
  | dispatching {store : Store} {below : List Activation} (sound : registry.Sound ledger store)
      (started : Started store (registry.dispatching :: initializing below))
      (stacked : registry.Stacked below) :
      State registry ledger store (.initializer registry.dispatching :: below)
  | finishing {hook : Hook} {frame : Frame} {store : Store} {below : List Activation}
      (sound : registry.Sound ledger store) (wrapping : registry.Wrapping hook none frame)
      (started : Started store
        (⟨registry.handle, hook.type, frame.arguments⟩ :: initializing below))
      (stacked : registry.Stacked below) :
      State registry ledger store (.body frame ::
        .initializer ⟨registry.handle, hook.type, frame.arguments⟩ :: below)

/-- What a step leads to when it keeps a ledger right. -/
def Stays (registry : Registry) (ledger : List Entry) : Progress → Prop
  | .running store activations => registry.State ledger store activations
  | .blocked _ _ => True
  | .finished store _ => registry.Sound ledger store

variable {store : Store} {below activations : List Activation} {trap : Trap}

/-- The dispatcher type is not initialized below anything. -/
theorem Stacked.ne_dispatching (stacked : registry.Stacked activations) :
    ∀ instantiation ∈ initializing activations, instantiation ≠ registry.dispatching := by
  induction stacked with
  | nil => exact List.forall_mem_nil _
  | body _ _ ih => exact ih
  | wrapper wrapping _ ih =>
      exact List.forall_mem_cons.mpr ⟨hooked_ne wrapping.listed _, ih⟩
  | initializer _ apart _ ih => exact List.forall_mem_cons.mpr ⟨apart, ih⟩
  | targets _ _ ih => exact ih
  | call _ _ _ ih => exact ih
  | access _ _ ih => exact ih

/-! ### Ends of initializers -/

/-- An initializer that fails registers nothing. -/
theorem fails_stays {instantiation : Instantiation} (sound : registry.Sound ledger store)
    (started : Started store (instantiation :: initializing below))
    (stacked : registry.Stacked below) (apart : instantiation ≠ registry.dispatching) :
    registry.State ledger (store.publish instantiation (.error trap)) below := by
  refine .calm (sound.publish apart ?_) (started.publish _) stacked
  intro _ _ _ _
  rw [started.first]
  exact ⟨by simp, trap, rfl⟩

/-- An initializer of a type that is not hooked ends. -/
theorem ends_stays {instantiation : Instantiation} {outcome : Except Trap Unit}
    (sound : registry.Sound ledger store)
    (started : Started store (instantiation :: initializing below))
    (stacked : registry.Stacked below) (unhooked : ¬registry.Hooks instantiation)
    (apart : instantiation ≠ registry.dispatching) :
    registry.State ledger (store.publish instantiation outcome) below := by
  refine .calm (sound.publish apart ?_) (started.publish _) stacked
  rintro hook listed arguments rfl
  exact absurd ⟨rfl, hook, listed, rfl⟩ unhooked

theorem Wrapping.receive {hook : Hook} {copy? : Option RoutineId}
    (wrapping : registry.Wrapping hook copy? frame) (trap : Trap) :
    frame.receive trap = .error trap := by
  rcases wrapping.ahead with ⟨type, routine, _, _, ahead⟩
  exact receive_of_unguarded ahead.handlers_eq trap

/-- A trap is received by a discreet body, or ends an initializer or the call of the host. -/
theorem unwind_stays (sound : registry.Sound ledger store) (raised : trap.Within registry.scope)
    (stacked : registry.Stacked activations) (started : Started store (initializing activations)) :
    registry.Stays ledger (unwind store trap activations) := by
  -- The trap goes up to the first handler or the first note of an initializer, which ends with it.
  induction stacked generalizing trap with
  | nil => exact sound
  | @body frame below innocent others ih =>
      have confined := Frame.receive_confined innocent.within raised
      rcases received : frame.receive trap with passed | next
      · rw [received] at confined
        simp only [unwind, received]
        exact ih confined started
      · rw [received] at confined
        simp only [unwind, received]
        exact .calm sound started (.body (innocent.stays confined) others)
  | @wrapper hook copy frame below wrapping others ih =>
      simp only [unwind, wrapping.receive trap]
      exact fails_stays sound started others (hooked_ne wrapping.listed _)
  | initializer unhooked apart others ih => exact ends_stays sound started others unhooked apart
  | targets known others ih | call known within others ih | access places others ih =>
      exact ih raised started

end Registry

end Rekindle.Machine
