import Rekindle.Proofs.Machine.Scope
import Rekindle.Proofs.Transparency.Leading

/-!
# Domains

A domain says what a thread may come to: the stores, what is executed and called in them, the
instantiations that are asked for, and what values lead to. If a domain is closed, which concerns
only what single frames and stores come to at once, a thread in it never leaves it.
-/

namespace Rekindle.Machine

/-- What a thread may come to. -/
structure Domain where
  /-- What values may lead to. -/
  scope : Scope
  stores : Store → Prop
  /-- Bodies in execution. -/
  frames : Frame → Prop
  /-- Routines that may be called. -/
  calls : BoundRoutine → Prop
  /-- Instantiations that may be asked for. -/
  asks : Instantiation → Prop

/-- A domain that contains whatever its stores and frames come to at once. -/
structure Domain.IsClosed (domain : Domain) : Prop where
  within {store : Store} : domain.stores store → store.Within domain.scope
  framesWithin {frame : Frame} : domain.frames frame → frame.Within domain.scope
  asked {thread : ThreadId} {store after : Store} {instantiation : Instantiation}
    {ticket : Ticket Trap} : domain.stores store → domain.asks instantiation →
      store.ask thread instantiation = .ok (after, ticket) → domain.stores after
  published {store : Store} (instantiation : Instantiation) (outcome : Except Trap Unit) :
    domain.stores store → domain.stores (store.publish instantiation outcome)
  touched {store after : Store} :
    domain.stores store → store.Touched domain.scope after → domain.stores after
  stays {frame next : Frame} :
    domain.frames frame → frame.Stays domain.scope next → domain.frames next
  /-- What may be called may be executed. -/
  starts {store : Store} {target : BoundRoutine} {module : Module} {routine : RoutineDecl}
    {body : Body} {parameters : List Value} : domain.stores store → domain.calls target →
      store.modules[target.module.position]? = some module →
      module.routine? target.routine = some routine → routine.body = some body →
      (Frame.start module target routine body parameters).Within domain.scope →
        domain.frames (.start module target routine body parameters)
  /-- The type of what may be called may be asked for. -/
  owned {store : Store} {target : BoundRoutine} {instantiation : Instantiation} :
    domain.stores store → domain.calls target → ownerOf store target = .ok instantiation →
      domain.asks instantiation
  initializes {store : Store} {instantiation : Instantiation} {target : BoundRoutine} :
    domain.stores store → domain.asks instantiation →
      initializerOf store instantiation = some target → domain.calls target
  /-- What a value leads to may be called. -/
  leads {target : BoundRoutine} : domain.scope.routines target → domain.calls target
  /-- What a frame names may be led to. -/
  binds {store : Store} {frame : Frame} {instruction : Instruction} {reference : RoutineRef} :
    domain.stores store → domain.frames frame → frame.instruction? = some instruction →
      instruction = .call reference ∨ instruction = .loadRoutine reference →
        domain.scope.routines (frame.bound reference)
  places {store : Store} {frame : Frame} {instruction : Instruction} {reference : FieldRef}
    {place : Address} : domain.stores store → domain.frames frame →
      frame.instruction? = some instruction →
      instruction = .loadField reference ∨ instruction = .storeField reference ∨
        instruction = .loadFieldAddress reference →
      frame.address store reference = .ok place →
        domain.asks place.instantiation ∧ domain.scope.places place

/-- A part of a stack that is in a domain. -/
def Activation.Within (domain : Domain) : Activation → Prop
  | .body frame => domain.frames frame
  | .initializer instantiation | .access instantiation => domain.asks instantiation
  | .targets listed => ∀ target ∈ listed, domain.calls target
  | .call target parameters =>
    domain.calls target ∧ ∀ value ∈ parameters, value.Within domain.scope

/-- What comes of an attempt that stays in a domain. -/
def Attempt.Within (domain : Domain) : Attempt → Prop
  | .running store activations | .blocked store activations =>
    domain.stores store ∧ ∀ activation ∈ activations, activation.Within domain
  | .returned store result =>
    domain.stores store ∧ ∀ value, result = some value → value.Within domain.scope
  | .raised store trap activations =>
    domain.stores store ∧ trap.Within domain.scope ∧
      ∀ activation ∈ activations, activation.Within domain

/-- What a step leads to that stays in a domain. -/
def Progress.Within (domain : Domain) : Progress → Prop
  | .running store activations | .blocked store activations =>
    domain.stores store ∧ ∀ activation ∈ activations, activation.Within domain
  | .finished store result =>
    domain.stores store ∧ domain.scope.Confines result fun result =>
      ∀ value, result = some value → value.Within domain.scope

variable {domain : Domain} {limit : Nat} {thread : ThreadId} {store after : Store}
  {instantiation : Instantiation} {activations below : List Activation} {frame : Frame}
  {trap : Trap} {target : BoundRoutine} {parameters : List Value} {result : Option Value}

/-! ### Stacks -/

section Stacks

variable (closed : domain.IsClosed) (stores : domain.stores store)
  (all : ∀ activation ∈ activations, activation.Within domain)

include closed stores all

theorem unwind_within (raised : trap.Within domain.scope) :
    (unwind store trap activations).Within domain := by
  induction activations generalizing trap with
  | nil => exact ⟨stores, raised⟩
  | cons activation below ih =>
      rcases List.forall_mem_cons.mp all with ⟨first, rest⟩
      cases activation with
      | initializer instantiation => exact ⟨closed.published _ _ stores, rest⟩
      | body frame =>
          have receives := Frame.receive_confined (closed.framesWithin first) raised
          rcases received : frame.receive trap with passed | next
          · rw [received] at receives
            simp only [unwind, received]
            exact ih rest receives
          · rw [received] at receives
            simp only [unwind, received]
            have first : (Activation.body next).Within domain := closed.stays first receives
            exact ⟨stores, List.forall_mem_cons.mpr ⟨first, rest⟩⟩
      | targets | call | access => exact ih rest raised

omit stores all in
theorem Attempt.Within.settle {attempt : Attempt} (within : attempt.Within domain) :
    attempt.settle.Within domain := by
  cases attempt with
  | running | blocked | returned => exact within
  | raised => exact unwind_within closed within.1 within.2.2 within.2.1

theorem complete_within (known : ∀ value, result = some value → value.Within domain.scope) :
    (complete store result activations).Within domain := by
  unfold complete
  split
  · exact ⟨stores, known⟩
  · next frame below =>
      rcases List.forall_mem_cons.mp all with ⟨first, rest⟩
      have resumes := Frame.resume_confined (closed.framesWithin first) store known
      rcases resumed : frame.resume store result with trap | next
      · rw [resumed] at resumes
        exact ⟨stores, resumes, all⟩
      · rw [resumed] at resumes
        have first : (Activation.body next).Within domain := closed.stays first resumes
        exact ⟨stores, List.forall_mem_cons.mpr ⟨first, rest⟩⟩
  · exact ⟨stores, all⟩

theorem entering_within (called : domain.calls target)
    (given : ∀ value ∈ parameters, value.Within domain.scope) :
    (entering limit store target parameters activations).Within domain := by
  have enters : domain.scope.Confines
      (Frame.enter limit (depth activations + 1) store target parameters) _ := enter_confined given
  rcases entered : Frame.enter limit (depth activations + 1) store target parameters with
    trap | frame
  · rw [entered] at enters
    simp only [entering, entered]
    exact ⟨stores, enters, all⟩
  · rw [entered] at enters
    rcases enters with ⟨within, module, routine, body, loaded, found, hasBody, rfl⟩
    simp only [entering, entered]
    have first : (Activation.body (.start module target routine body parameters)).Within domain :=
      closed.starts stores called loaded found hasBody within
    exact ⟨stores, List.forall_mem_cons.mpr ⟨first, all⟩⟩

theorem startInitializer_within (known : domain.asks instantiation) :
    (startInitializer limit store instantiation activations).Within domain := by
  have waiting : ∀ activation ∈ .initializer instantiation :: activations,
      activation.Within domain := List.forall_mem_cons.mpr ⟨known, all⟩
  rcases found : initializerOf store instantiation with _ | target
  · simp only [startInitializer, found]
    exact ⟨stores, waiting⟩
  · rw [startInitializer_eq found]
    exact entering_within closed stores waiting (closed.initializes stores known found)
      (List.forall_mem_nil _)

theorem acquire_within (known : domain.asks instantiation) {proceed : Store → Attempt}
    (goesOn : ∀ after, domain.stores after → (proceed after).Within domain) :
    (acquire limit thread store instantiation activations proceed).Within domain := by
  have asks := ask_confined domain.scope store thread instantiation
  rcases asked : store.ask thread instantiation with trap | ⟨after, ticket⟩
  · rw [asked] at asks
    simp only [acquire, asked]
    exact ⟨stores, asks, all⟩
  · -- Asking changes the store, also where the thread is then told to wait or to fail.
    have storesAfter := closed.asked stores known asked
    simp only [acquire, asked]
    cases ticket with
    | ready => exact goesOn after storesAfter
    | run => exact startInitializer_within closed storesAfter all known
    | failed cause => exact ⟨storesAfter, trivial, all⟩
    | wait => exact ⟨storesAfter, all⟩

theorem call_within (called : domain.calls target)
    (given : ∀ value ∈ parameters, value.Within domain.scope) :
    (call limit thread store target parameters activations).Within domain := by
  have owns := ownerOf_confined domain.scope store target
  rcases owned : ownerOf store target with trap | instantiation
  · rw [owned] at owns
    simp only [call, owned]
    exact ⟨stores, owns, all⟩
  · have waits : (Activation.call target parameters).Within domain := ⟨called, given⟩
    rw [call_eq owned]
    refine acquire_within closed stores (List.forall_mem_cons.mpr ⟨waits, all⟩)
      (closed.owned stores called owned) ?_
    intro after storesAfter
    exact entering_within closed storesAfter all called given

end Stacks

/-! ### Bodies -/

section Bodies

variable (closed : domain.IsClosed) (stores : domain.stores store) (known : domain.frames frame)
  (rest : ∀ activation ∈ below, activation.Within domain)
include closed known rest

theorem stays_within {next : Frame} (stays : frame.Stays domain.scope next) :
    ∀ activation ∈ .body next :: below, activation.Within domain := by
  have first : (Activation.body next).Within domain := closed.stays known stays
  exact List.forall_mem_cons.mpr ⟨first, rest⟩

theorem here_within : ∀ activation ∈ .body frame :: below, activation.Within domain :=
  stays_within closed known rest (closed.framesWithin known).stays

include stores

theorem proceedWith_within {moved : Except Trap (Store × Frame)}
    (leads : domain.scope.Confines moved (frame.Remains domain.scope store)) :
    (proceedWith store frame below moved).Within domain := by
  rcases moved with trap | ⟨after, next⟩
  · exact ⟨stores, leads, here_within closed known rest⟩
  · exact ⟨closed.touched stores leads.1, stays_within closed known rest leads.2⟩

theorem accessField_within {instruction : Instruction}
    (current : frame.instruction? = some instruction) {reference : FieldRef}
    (names : instruction = .loadField reference ∨ instruction = .storeField reference ∨
      instruction = .loadFieldAddress reference)
    {use : Store → Address → Except Trap (Store × Frame)}
    (uses : ∀ after place, domain.stores after → domain.scope.places place →
      domain.scope.Confines (use after place) (frame.Remains domain.scope after)) :
    (accessField limit thread store frame below reference use).Within domain := by
  have here := here_within closed known rest
  have reached := address_confined domain.scope frame store reference
  rcases located : frame.address store reference with trap | place
  · rw [located] at reached
    simp only [accessField, located]
    exact ⟨stores, reached, here⟩
  · rcases closed.places stores known current names located with ⟨asks, inScope⟩
    simp only [accessField, located]
    refine acquire_within closed stores here asks ?_
    intro after storesAfter
    exact proceedWith_within closed storesAfter known rest
      (uses after place storesAfter inScope)

/-- What an instruction of a frame leads to is in the domain of the frame. -/
theorem stepBody_within {instruction : Instruction}
    (current : frame.instruction? = some instruction) :
    (stepBody limit thread store frame below instruction).Within domain := by
  have bound {reference : RoutineRef}
      (names : instruction = .call reference ∨ instruction = .loadRoutine reference) :
      domain.scope.routines (frame.bound reference) := closed.binds stores known current names
  have comes := stepBody_comesTo (closed.framesWithin known) (closed.within stores) instruction
    (fun reference loads => bound (.inr loads)) limit thread below
  generalize stepBody limit thread store frame below instruction = outcome at comes ⊢
  cases comes with
  | proceeds confined => exact proceedWith_within closed stores known rest confined
  | accesses names confined =>
      have either := names.imp_right (Or.imp_left And.left)
      refine accessField_within closed stores known rest current either ?_
      intro after place storesAfter inScope
      exact confined after place (closed.within storesAfter) fun _ => inScope
  | raises within => exact ⟨stores, within, here_within closed known rest⟩
  | calls names within stays =>
      have called := closed.leads (bound (.inl names))
      exact ⟨stores, List.forall_mem_cons.mpr
        ⟨⟨called, within⟩, stays_within closed known rest stays⟩⟩
  | invokes within stays =>
      have listed : (Activation.targets _).Within domain :=
        fun target member => closed.leads (within target member)
      exact ⟨stores, List.forall_mem_cons.mpr ⟨listed, stays_within closed known rest stays⟩⟩
  | returns within => exact complete_within closed stores rest within

end Bodies

/-! ### Steps and runs -/

section Steps

variable (closed : domain.IsClosed) (stores : domain.stores store)
  (all : ∀ activation ∈ activations, activation.Within domain)
include closed stores all

theorem attempt_within : (attempt limit thread store activations).Within domain := by
  cases activations with
  | nil => exact ⟨stores, nofun⟩
  | cons activation below =>
      rcases List.forall_mem_cons.mp all with ⟨first, rest⟩
      cases activation with
      | initializer instantiation => exact ⟨closed.published _ _ stores, rest⟩
      | targets listed =>
          cases listed with
          | nil => exact complete_within closed stores rest nofun
          | cons target further =>
              rcases List.forall_mem_cons.mp first with ⟨known, more⟩
              have called : (Activation.call target []).Within domain :=
                ⟨known, List.forall_mem_nil _⟩
              have waits : (Activation.targets further).Within domain := more
              exact ⟨stores, List.forall_mem_cons.mpr
                ⟨called, List.forall_mem_cons.mpr ⟨waits, rest⟩⟩⟩
      | call target parameters => exact call_within closed stores rest first.1 first.2
      | access instantiation =>
          refine acquire_within closed stores all first ?_
          intro after storesAfter
          exact complete_within closed storesAfter rest nofun
      | body frame =>
          rcases current : frame.instruction? with _ | instruction
          · simp only [attempt, current]
            exact ⟨stores, trivial, all⟩
          · simp only [attempt, current]
            exact stepBody_within closed stores first rest current

/-- A step does not lead out of a closed domain. -/
theorem step_within : (step limit thread store activations).Within domain :=
  (attempt_within closed stores all).settle closed

/-- A run does not lead out of a closed domain. -/
theorem run_within {steps : Nat} {ended : Except Trap (Option Value)}
    (runs : run limit thread steps store activations = some (after, ended)) :
    domain.stores after ∧ domain.scope.Confines ended fun result =>
      ∀ value, result = some value → value.Within domain.scope := by
  induction steps generalizing store activations with
  | zero => cases runs
  | succ steps ih =>
      have stepped : (step limit thread store activations).Within domain :=
        step_within closed stores all
      simp only [run] at runs
      rcases progress : step limit thread store activations with
        ⟨middle, next⟩ | ⟨middle, next⟩ | ⟨last, result⟩
      · rw [progress] at stepped runs
        exact ih stepped.1 stepped.2 runs
      · rw [progress] at runs
        cases runs
      · rw [progress] at stepped runs
        cases runs
        exact stepped

end Steps

end Rekindle.Machine
