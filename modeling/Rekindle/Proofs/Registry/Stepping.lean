import Rekindle.Proofs.Registry.Stacking

/-!
# Steps over a dispatcher

Every step of the host's thread keeps a ledger right, but for the end of the initializer of a hooked
type, which may add to it.
-/

namespace Rekindle.Machine

open Reload Validity

namespace Registry

variable {registry : Registry} {ledger : List Entry} {store : Store} {limit : Nat}
  {below activations : List Activation} {frame : Frame} {target : BoundRoutine}
  {parameters : List Value} {instantiation : Instantiation}

/-! ### Returning -/

theorem Wrapping.added {hook : Hook} {copy : RoutineId}
    (wrapping : registry.Wrapping hook (some copy) frame) : some copy ∈ hook.added :=
  Hook.mem_added.mpr (.inl (wrapping.copies.resolve_left (Option.some_ne_none copy)).symm)

theorem Wrapping.resume {hook : Hook} {copy : RoutineId} (sound : registry.Sound ledger store)
    (wrapping : registry.Wrapping hook (some copy) frame) (result : Option Value) :
    frame.resume store result = .ok frame.advance ∧ registry.Wrapping hook none frame.advance := by
  rcases wrapping.ahead with ⟨type, routine, wrapped, placed, ahead⟩
  have current : frame.instruction? = some (.call (ownRoutine type.arity copy)) :=
    ahead.instruction?
  rcases registry.wired.callable hook wrapping.listed (some copy) wrapping.added copy rfl with
    ⟨declared, calls, _⟩
  have quiet : frame.calleeReturns store (ownRoutine type.arity copy) = false := by
    simp only [Frame.calleeReturns, ahead.module_eq, sound.keeps.loaded, ownRoutine, calls.declared,
      calls.silent]
  refine ⟨by simp [Frame.resume, current, quiet], wrapping.listed, .inl rfl, wrapping.isWrapper,
    type, routine, wrapped, placed, ahead.advance⟩

theorem complete_stays (sound : registry.Sound ledger store) (stacked : registry.Stacked below)
    (started : Started store (initializing below)) {result : Option Value}
    (known : ∀ value, result = some value → value.Within registry.scope) :
    registry.Stays ledger (complete store result below).settle := by
  cases stacked with
  | nil => exact sound
  | @body frame below innocent others =>
      have confined := Frame.resume_confined innocent.within store known
      rcases resumed : frame.resume store result with trap | next
      · rw [resumed] at confined
        simp only [complete, resumed]
        exact unwind_stays sound confined (.body innocent others) started
      · rw [resumed] at confined
        simp only [complete, resumed]
        exact .calm sound started (.body (innocent.stays confined) others)
  | @wrapper hook copy frame below wrapping others =>
      rcases wrapping.resume sound result with ⟨resumed, finishing⟩
      simp only [complete, resumed]
      exact .finishing sound finishing started others
  | initializer unhooked apart others =>
      exact .calm sound started (.initializer unhooked apart others)
  | targets known others => exact .calm sound started (.targets known others)
  | call known within others => exact .calm sound started (.call known within others)
  | access places others => exact .calm sound started (.access places others)

/-! ### Entering -/

/-- A routine that is not called for its registrations has a discreet body. -/
theorem enter_innocent {depth : Nat} (sound : registry.Sound ledger store)
    (known : ∀ value ∈ parameters, value.Within registry.scope)
    (apart : target.module = registry.handle →
      (∀ occasion, target.routine ≠ registry.dispatcher.registrar occasion) ∧
        ∀ hook ∈ registry.hooks, target.routine ≠ hook.initializer) :
    registry.scope.Confines (Frame.enter limit depth store target parameters)
      registry.Innocent := by
  refine (enter_confined known).mono ?_
  rintro frame ⟨within, module, routine, body, loaded, found, hasBody, rfl⟩
  refine ⟨within, fun here => (apart here).1, ?_, ?_⟩
  · intro here
    obtain rfl := sound.keeps.module_eq loaded here
    cases registry.wired.standing _ _ _ found hasBody with
    | wrapper listed same => exact absurd same ((apart here).2 _ listed)
    | registrar same => exact absurd same ((apart here).1 _)
    | discreet discreet => exact discreet
  · intro here
    obtain rfl := sound.keeps.module_eq loaded here
    rcases registry.wired.valid.routines _ _ found with ⟨owner, _, _, _, bodies⟩
    exact ⟨owner.arity, routine, bodies body hasBody⟩

theorem entering_stays (sound : registry.Sound ledger store)
    (started : Started store (initializing activations)) (stacked : registry.Stacked activations)
    (known : ∀ value ∈ parameters, value.Within registry.scope)
    (apart : target.module = registry.handle →
      (∀ occasion, target.routine ≠ registry.dispatcher.registrar occasion) ∧
        ∀ hook ∈ registry.hooks, target.routine ≠ hook.initializer) :
    registry.Stays ledger (entering limit store target parameters activations).settle := by
  have confined : registry.scope.Confines
      (Frame.enter limit (depth activations + 1) store target parameters) registry.Innocent :=
    enter_innocent sound known apart
  rcases entered : Frame.enter limit (depth activations + 1) store target parameters with
    trap | frame
  · rw [entered] at confined
    simp only [entering, entered]
    exact unwind_stays sound confined stacked started
  · rw [entered] at confined
    simp only [entering, entered]
    exact .calm sound started (.body confined stacked)

/-- The initializer of a hooked type calls the copy of what it was first, if there is one. -/
theorem wrapper_entered {hook : Hook} {depth : Nat} {arguments : List ValueType}
    (sound : registry.Sound ledger store) (listed : hook ∈ registry.hooks)
    (places : registry.Places ⟨registry.handle, hook.type, arguments⟩)
    (entered : Frame.enter limit depth store ⟨registry.handle, hook.initializer, arguments⟩ [] =
      .ok frame) :
    frame.arguments = arguments ∧ registry.Wrapping hook hook.initializerCopy frame := by
  have confined : registry.scope.Confines (Frame.enter limit depth store
      ⟨registry.handle, hook.initializer, arguments⟩ []) _ :=
    enter_confined (List.forall_mem_nil _)
  rw [entered] at confined
  rcases confined with ⟨_, module, routine, body, loaded, found, hasBody, rfl⟩
  obtain rfl := sound.keeps.module_eq loaded rfl
  rcases registry.wired.wrapped hook listed with ⟨type, declared, wrapped⟩
  rw [wrapped.found] at found
  cases found
  rw [wrapped.hasBody] at hasBody
  cases hasBody
  rcases places rfl with ⟨other, otherDeclared, placed⟩
  rw [wrapped.declared] at otherDeclared
  cases otherDeclared
  have line_eq : wrapperLine type.arity registry.dispatcher hook.initializerCopy hook.load
      hook.unload ++ [.ret] = ownCall type.arity hook.initializerCopy ++
        (registration type.arity (registry.dispatcher.registrar .load) hook.load ++
          (registration type.arity (registry.dispatcher.registrar .unload) hook.unload ++
            [.ret])) := by
    simp only [wrapperLine, List.append_assoc, Dispatcher.registrar]
  have here : (⟨registry.handle, hook.initializer, arguments⟩ : BoundRoutine).module =
      registry.handle := rfl
  refine ⟨rfl, listed, .inr rfl, rfl, type, _, wrapped, placed, ?_⟩
  rw [← line_eq]
  exact start_ahead here wrapped.silent registry.module
    (wrapperLine type.arity registry.dispatcher hook.initializerCopy hook.load hook.unload)

/-! ### Asking for an instantiation -/

/-- The initializer that an instantiation of a type of the module has belongs to that type. -/
theorem Keeps.initializerOf_found (keeps : registry.Keeps ledger store)
    (found : initializerOf store instantiation = some target)
    (here : target.module = registry.handle) :
    instantiation.module = registry.handle ∧ ∃ routine,
      registry.module.routine? target.routine = some routine ∧
        routine.owner = instantiation.type := by
  rcases initializerOf_eq_some_iff.mp found with ⟨module, id, loaded, isInitializer, rfl⟩
  obtain rfl := keeps.module_eq loaded here
  rcases exists_of_initializer registry.wired.valid.members isInitializer with
    ⟨routine, declared, _, owner_eq⟩
  exact ⟨here, routine, declared, owner_eq⟩

theorem initializer_apart (sound : registry.Sound ledger store)
    (places : registry.Places instantiation) (unhooked : ¬registry.Hooks instantiation)
    (apart : instantiation ≠ registry.dispatching)
    (found : initializerOf store instantiation = some target)
    (here : target.module = registry.handle) :
    (∀ occasion, target.routine ≠ registry.dispatcher.registrar occasion) ∧
      ∀ hook ∈ registry.hooks, target.routine ≠ hook.initializer := by
  rcases sound.keeps.initializerOf_found found here with ⟨isHere, routine, declared, owner_eq⟩
  refine ⟨?_, ?_⟩
  · intro occasion same
    rcases (registry.wired.registers occasion).routine_declared with ⟨_, _, registrar⟩
    rw [same, registrar] at declared
    cases declared
    exact apart (places.eq_dispatching isHere owner_eq.symm)
  · intro hook listed same
    rcases registry.wired.initializer_declared listed with ⟨_, other, otherFound, _, otherOwner⟩
    rw [same, otherFound] at declared
    cases declared
    exact unhooked ⟨isHere, hook, listed, otherOwner.symm.trans owner_eq⟩

/-- The initializer of an instantiation starts, or there is none. -/
theorem startInitializer_stays (sound : registry.Sound ledger store)
    (started : Started store (instantiation :: initializing activations))
    (places : registry.Places instantiation) (stacked : registry.Stacked activations) :
    registry.Stays ledger (startInitializer limit store instantiation activations).settle := by
  by_cases hooked : registry.Hooks instantiation
  · rcases instantiation with ⟨handle, type, arguments⟩
    rcases hooked with ⟨rfl, hook, listed, rfl⟩
    have isInitializer : initializerOf store ⟨registry.handle, hook.type, arguments⟩ =
        some ⟨registry.handle, hook.initializer, arguments⟩ := by
      simp only [initializerOf, sound.keeps.loaded,
        (registry.wired.initializer_declared listed).1]
    rw [startInitializer_eq isInitializer]
    rcases entered : Frame.enter limit
        (depth (.initializer ⟨registry.handle, hook.type, arguments⟩ :: activations) + 1) store
        ⟨registry.handle, hook.initializer, arguments⟩ [] with trap | frame
    · simp only [entering, entered]
      exact fails_stays sound started stacked (hooked_ne listed _)
    · rcases wrapper_entered sound listed places entered with ⟨rfl, wrapping⟩
      simp only [entering, entered]
      rcases copies : hook.initializerCopy with _ | copy
      · rw [copies] at wrapping
        exact .finishing sound wrapping started stacked
      · rw [copies] at wrapping
        exact .calm sound started (.wrapper wrapping stacked)
  · by_cases isDispatcher : instantiation = registry.dispatching
    · subst isDispatcher
      have absent : initializerOf store registry.dispatching = none :=
        @Site.initializerOf_eq_none (registry.site .load) store sound.keeps.loaded
      simp only [startInitializer, absent]
      exact .dispatching sound started stacked
    · have waits : registry.Stacked (.initializer instantiation :: activations) :=
        .initializer hooked isDispatcher stacked
      rcases found : initializerOf store instantiation with _ | target
      · simp only [startInitializer, found]
        exact .calm sound started waits
      · rw [startInitializer_eq found]
        exact entering_stays sound started waits (List.forall_mem_nil _)
          (initializer_apart sound places hooked isDispatcher found)

/-- What needs an instantiation goes on with it, or something happens first that keeps the ledger
right. -/
theorem acquire_stays {proceed : Store → Attempt} (sound : registry.Sound ledger store)
    (started : Started store (initializing activations)) (stacked : registry.Stacked activations)
    (places : registry.Places instantiation)
    (goesOn : ∀ after, registry.Sound ledger after → Started after (initializing activations) →
      registry.Stays ledger (proceed after).settle) :
    registry.Stays ledger
      (acquire limit hostThread store instantiation activations proceed).settle := by
  have confined := ask_confined registry.scope store hostThread instantiation
  rcases asks : store.ask hostThread instantiation with trap | ⟨after, ticket⟩
  · rw [asks] at confined
    simp only [acquire, asks]
    exact unwind_stays sound confined stacked started
  · rw [asks] at confined
    rcases confined with ⟨storage, asked⟩
    have soundAfter := sound.ask asked
    have startedAfter := started.persists asked.persists
    simp only [acquire, asks]
    cases ticket with
    | ready => exact goesOn after soundAfter startedAfter
    | run => exact startInitializer_stays soundAfter (started.run asked) places stacked
    | failed cause => exact unwind_stays soundAfter trivial stacked startedAfter
    | wait => trivial

/-! ### Bodies -/

theorem call_stays (sound : registry.Sound ledger store)
    (started : Started store (initializing below)) (stacked : registry.Stacked below)
    (known : registry.scope.routines target)
    (within : ∀ value ∈ parameters, value.Within registry.scope) :
    registry.Stays ledger (call limit hostThread store target parameters below).settle := by
  have confined := ownerOf_confined registry.scope store target
  rcases owned : ownerOf store target with trap | instantiation
  · rw [owned] at confined
    simp only [call, owned]
    exact unwind_stays sound confined stacked started
  · rw [owned] at confined
    rcases confined with ⟨module, routine, loaded, found, rfl⟩
    rw [call_eq owned]
    refine acquire_stays sound started (.call known within stacked) ?_ ?_
    · intro here
      obtain rfl := sound.keeps.module_eq loaded here
      exact (known here).placed routine found
    · intro after soundAfter startedAfter
      refine entering_stays soundAfter startedAfter stacked within ?_
      intro here
      have nameable := (known here).nameable
      exact ⟨nameable.apart, fun hook listed => registry.wired.nameable_ne nameable listed⟩

variable {instruction : Instruction} (sound : registry.Sound ledger store)
  (innocent : registry.Innocent frame) (others : registry.Stacked below)
  (started : Started store (initializing below))
include sound innocent others started

theorem proceedWith_stays {result : Except Trap (Store × Frame)}
    (confined : registry.scope.Confines result (frame.Remains registry.scope store)) :
    registry.Stays ledger (proceedWith store frame below result).settle := by
  rcases result with trap | ⟨after, next⟩
  · exact unwind_stays sound confined (.body innocent others) started
  · rcases confined with ⟨touched, stays⟩
    refine .calm (sound.touched touched) (started.persists ?_) (.body (innocent.stays stays) others)
    cases touched with
    | same => exact .refl _ _
    | wrote => exact Store.persists_setSlot _ _ _ _
    | issued => exact ⟨fun _ => .rfl, fun _ running => running⟩

theorem accessField_stays (current : frame.instruction? = some instruction)
    {reference : FieldRef}
    (names : instruction = .loadField reference ∨ instruction = .storeField reference ∨
      instruction = .loadFieldAddress reference)
    {use : Store → Address → Except Trap (Store × Frame)}
    (confined : ∀ after place, registry.Sound ledger after →
      (instruction ≠ .loadField reference → registry.scope.places place) →
      registry.scope.Confines (use after place) (frame.Remains registry.scope after)) :
    registry.Stays ledger
      (accessField limit hostThread store frame below reference use).settle := by
  have reached := address_confined registry.scope frame store reference
  rcases placed : frame.address store reference with trap | place
  · rw [placed] at reached
    simp only [accessField, placed]
    exact unwind_stays sound reached (.body innocent others) started
  · rcases innocent.address_places sound.keeps current names placed with ⟨places, written⟩
    simp only [accessField, placed]
    refine acquire_stays sound started (.body innocent others) places ?_
    intro after soundAfter startedAfter
    exact proceedWith_stays soundAfter innocent others startedAfter
      (confined after place soundAfter written)

theorem stepBody_stays (current : frame.instruction? = some instruction) :
    registry.Stays ledger
      (stepBody limit hostThread store frame below instruction).settle := by
  have admitted {reference : RoutineRef}
      (names : instruction = .call reference ∨ instruction = .loadRoutine reference) :=
    innocent.bound_admitted current names
  have comes := stepBody_comesTo innocent.within sound.within instruction
    (fun _ loads => admitted (.inr loads)) limit hostThread below
  generalize stepBody limit hostThread store frame below instruction = outcome at comes ⊢
  cases comes with
  | proceeds confined => exact proceedWith_stays sound innocent others started confined
  | accesses names confined =>
      have either := names.imp_right (Or.imp_left And.left)
      refine accessField_stays sound innocent others started current either ?_
      intro after place soundAfter placed
      exact confined after place soundAfter.within placed
  | raises within => exact unwind_stays sound within (.body innocent others) started
  | calls names within stays =>
      exact .calm sound started
        (.call (admitted (.inl names)) within (.body (innocent.stays stays) others))
  | invokes within stays =>
      exact .calm sound started (.targets within (.body (innocent.stays stays) others))
  | returns within => exact complete_stays sound others started within

omit sound innocent others started

/-! ### Steps -/

/-- The initializer of a hooked type calls the copy of what it was. -/
theorem Wrapping.calls {hook : Hook} {copy : RoutineId} (sound : registry.Sound ledger store)
    (wrapping : registry.Wrapping hook (some copy) frame) (limit : Nat) (below : List Activation) :
    attempt limit hostThread store (.body frame :: below) =
        .running store (.call ⟨registry.handle, copy, frame.arguments⟩ [] :: .body frame :: below) ∧
      registry.Admits ⟨registry.handle, copy, frame.arguments⟩ := by
  rcases wrapping.ahead with ⟨type, routine, wrapped, placed, ahead⟩
  rcases registry.wired.callable hook wrapping.listed (some copy) wrapping.added copy rfl with
    ⟨declared, calls, _⟩
  have small := wrapped.small copy wrapping.added
  have takesNone : declared.parameters = [] := List.eq_nil_of_length_eq_zero calls.arguments_eq
  exact ⟨attempt_ownCall ahead sound.keeps.module_found placed small calls.declared takesNone limit
    hostThread below, Wired.admits wrapping.listed wrapped.declared placed wrapping.added⟩

/-- A step in a calm state completes no registration and keeps the ledger right. -/
theorem Stacked.step_stays (stacked : registry.Stacked activations)
    (sound : registry.Sound ledger store) (started : Started store (initializing activations))
    (limit : Nat) : registry.completes activations = [] ∧
      registry.Stays ledger (step limit hostThread store activations) := by
  cases stacked with
  | nil => exact ⟨rfl, sound⟩
  | @body frame below innocent others =>
      refine ⟨completes_of_apart below innocent.apart, ?_⟩
      rcases current : frame.instruction? with _ | instruction
      · simp only [step, attempt, current]
        exact unwind_stays sound trivial (.body innocent others) started
      · simp only [step, attempt, current]
        exact stepBody_stays sound innocent others started current
  | @wrapper hook copy frame below wrapping others =>
      refine ⟨completes_of_apart _ ?_, ?_⟩
      · intro _ occasion
        rw [wrapping.isWrapper]
        exact registry.wired.initializer_ne wrapping.listed occasion
      · rcases wrapping.calls sound limit
          (.initializer ⟨registry.handle, hook.type, frame.arguments⟩ :: below) with ⟨calls, admits⟩
        rw [step_of_running calls]
        exact .calm sound started
          (.call (fun _ => admits) (List.forall_mem_nil _) (.wrapper wrapping others))
  | initializer unhooked apart others => exact ⟨rfl, ends_stays sound started others unhooked apart⟩
  | @targets targets below known others =>
      refine ⟨rfl, ?_⟩
      cases targets with
      | nil => exact complete_stays sound others started (by simp)
      | cons target targets =>
          rcases List.forall_mem_cons.mp known with ⟨knownFirst, knownOthers⟩
          exact .calm sound started
            (.call knownFirst (List.forall_mem_nil _) (.targets knownOthers others))
  | call known within others => exact ⟨rfl, call_stays sound started others known within⟩
  | @access instantiation below places others =>
      refine ⟨rfl, ?_⟩
      refine acquire_stays sound started (.access places others) places ?_
      intro after soundAfter startedAfter
      exact complete_stays soundAfter others startedAfter (by simp)

end Registry

end Rekindle.Machine
