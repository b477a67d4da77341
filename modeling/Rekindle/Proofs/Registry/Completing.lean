import Rekindle.Proofs.Registration.Lines
import Rekindle.Proofs.Registry.Ledger

/-!
# Completing an initializer

The initializer of a hooked type registers the routines of its type last. Either it is too deep to
register anything, and fails, or it registers all of them and has succeeded. So a ledger that was
right before is right afterwards.
-/

namespace Rekindle.Reload

/-- The occasion that a routine of a dispatcher registers for. -/
def Dispatcher.occasion? (dispatcher : Dispatcher) (id : RoutineId) : Option Occasion :=
  if id = dispatcher.registerLoad then some .load
  else if id = dispatcher.registerUnload then some .unload
  else none

variable {dispatcher : Dispatcher}

theorem Dispatcher.occasion?_registrar
    (apart : dispatcher.registrar .unload ≠ dispatcher.registrar .load) (occasion : Occasion) :
    dispatcher.occasion? (dispatcher.registrar occasion) = some occasion := by
  cases occasion with
  | unload => simpa [Dispatcher.occasion?, Dispatcher.registrar] using apart
  | load => simp [Dispatcher.occasion?, Dispatcher.registrar]

theorem Dispatcher.occasion?_of_apart {id : RoutineId}
    (apart : ∀ occasion, id ≠ dispatcher.registrar occasion) : dispatcher.occasion? id = none := by
  have load : id ≠ dispatcher.registerLoad := apart .load
  have unload : id ≠ dispatcher.registerUnload := apart .unload
  rw [occasion?, if_neg load, if_neg unload]

end Rekindle.Reload

namespace Rekindle.Machine

open Fallible Reload Validity

/-! ### Completed registrations -/

/-- The registrations that a thread completes with its next step: a routine that adds to a slot of a
dispatcher has added what it was called with when it returns. -/
def completed (handle : ModuleHandle) (dispatcher : Dispatcher) : List Activation → List Entry
  | .body frame :: _ =>
    if frame.isReturning ∧ frame.module = handle then
      match dispatcher.occasion? frame.routine with
      | some occasion =>
        (frame.parameters.toList.flatMap (·.targets)).map fun target => (occasion, target)
      | none => []
    else []
  | _ => []

theorem completed_sees (handle : ModuleHandle) (dispatcher : Dispatcher) :
    SeesReturns (completed handle dispatcher) := by
  refine ⟨?_, ?_⟩
  · intro frame below busy
    simp [completed, busy]
  · intro activation below other
    cases activation with
    | body => cases other
    | _ => rfl

theorem completed_of_apart {handle : ModuleHandle} {dispatcher : Dispatcher} {frame : Frame}
    (below : List Activation)
    (apart : frame.module = handle → ∀ occasion, frame.routine ≠ dispatcher.registrar occasion) :
    completed handle dispatcher (.body frame :: below) = [] := by
  simp only [completed]
  split
  · rename_i returns
    rw [Dispatcher.occasion?_of_apart (apart returns.2)]
  · rfl

/-- A routine of a dispatcher completes the registration of what it was called with. -/
theorem completed_registrar {dispatcher : Dispatcher} {site : Site} {occasion : Occasion}
    (isRegistrar : dispatcher.occasion? site.routine = some occasion) (argument a b c : Value)
    (below : List Activation) :
    completed site.handle dispatcher (.body (site.frame argument 16 a b c []) :: below) =
      argument.targets.map fun target => (occasion, target) := by
  have returning : (site.frame argument 16 a b c []).isReturning = true := rfl
  have here : (site.frame argument 16 a b c []).module = site.handle := rfl
  have same : (site.frame argument 16 a b c []).routine = site.routine := rfl
  simp only [completed, returning, here, same, isRegistrar, and_self, if_true]
  simp [Site.frame]

/-- The entry of a routine of a type under arguments, if there is such a routine. -/
def entryOf (occasion : Occasion) (handle : ModuleHandle) (arguments : List ValueType)
    (id? : Option RoutineId) : List Entry :=
  (id?.map fun id => (occasion, ⟨handle, id, arguments⟩)).toList

/-- The entries of a hooked type under arguments. -/
def entriesOf (hook : Hook) (handle : ModuleHandle) (arguments : List ValueType) : List Entry :=
  entryOf .load handle arguments hook.load ++ entryOf .unload handle arguments hook.unload

theorem onOccasion_entriesOf (hook : Hook) (handle : ModuleHandle) (arguments : List ValueType)
    (occasion : Occasion) : onOccasion occasion (entriesOf hook handle arguments) =
      ((hook.routine occasion).map fun id => ⟨handle, id, arguments⟩).toList := by
  cases occasion <;> rcases load : hook.load with _ | _ <;>
    rcases unload : hook.unload with _ | _ <;>
    simp [entriesOf, entryOf, onOccasion, Hook.routine, load, unload]

section Within

variable {scope : Scope} {site : Site} {store after : Store} {base : Storage} {argument : Value}

theorem Site.Based.within (based : site.Based store base) (within : store.Within scope) :
    ∀ value ∈ base.slots, value.Within scope := by
  intro value listed
  cases based with
  | present found =>
      rcases Array.getElem?_of_mem listed with ⟨slot, held⟩
      apply within ⟨site.slot.instantiation, slot⟩ value
      simp only [Store.slot?, found]
      exact held
  | fresh missing declared =>
      simp only [Store.freshStorage, List.mem_toArray, List.mem_map] at listed
      rcases listed with ⟨field, _, rfl⟩
      exact freshSlot_within site.module _ field

theorem Site.Beside.within (beside : site.Beside store after) (within : store.Within scope)
    {storage : Storage} (found : after.storage? site.slot.instantiation = some storage)
    (slots : ∀ value ∈ storage.slots, value.Within scope) : after.Within scope := by
  rintro ⟨instantiation, slot⟩ value held
  by_cases same : instantiation = site.slot.instantiation
  · subst same
    simp only [Store.slot?, found, Option.bind_some] at held
    exact slots value (Array.mem_of_getElem? held)
  · apply within ⟨instantiation, slot⟩ value
    rw [Store.slot?, beside.storages instantiation same] at held
    exact held

theorem Site.Registered.within (registered : site.Registered store argument after)
    (within : store.Within scope) (known : argument.Within scope) : after.Within scope := by
  rcases registered.added with
    ⟨base, value, combined, based, held, stays, targets_eq, found⟩
  have slots := based.within within
  refine registered.beside.within within found ?_
  intro other listed
  rcases Array.mem_or_eq_of_mem_setIfInBounds listed with before | rfl
  · exact slots other before
  · apply stays.within
    intro target isTarget
    rw [targets_eq] at isTarget
    have valueWithin := slots value (Array.mem_of_getElem? held)
    rcases List.mem_append.mp isTarget with early | late
    · cases value with
      | callback object => exact valueWithin target early
      | _ => cases early
    · cases argument with
      | callback object => exact known target late
      | _ => cases late

end Within

namespace Registry

variable {registry : Registry} {ledger entries more : List Entry} {limit : Nat}
  {store middle after : Store} {frame : Frame} {below : List Activation} {rest : List Instruction}
  {arity : Nat} {occasion : Occasion} {argument : Value}

/-- What is completed in the module of a registry. -/
def completes (registry : Registry) : List Activation → List Entry :=
  completed registry.handle registry.dispatcher

theorem completes_sees (registry : Registry) : SeesReturns registry.completes :=
  completed_sees registry.handle registry.dispatcher

theorem completes_of_apart (below : List Activation)
    (apart : frame.module = registry.handle → ∀ occasion,
      frame.routine ≠ registry.dispatcher.registrar occasion) :
    registry.completes (.body frame :: below) = [] :=
  completed_of_apart below apart

theorem completes_registrar (registry : Registry) (occasion : Occasion) (argument a b c : Value)
    (below : List Activation) :
    registry.completes
        (.body ((registry.site occasion).frame argument 16 a b c []) :: below) =
      argument.targets.map fun target => (occasion, target) :=
  @completed_registrar registry.dispatcher (registry.site occasion) occasion
    (Dispatcher.occasion?_registrar registry.wired.registrars_apart occasion) argument a b c below

/-- A store in which entries were added to what the dispatcher holds. -/
structure Adds (registry : Registry) (store : Store) (entries : List Entry) (after : Store) :
    Prop where
  keeps : ∀ ledger, registry.Keeps ledger store → registry.Keeps (ledger ++ entries) after
  storages : ∀ other, other ≠ registry.dispatching → after.storage? other = store.storage? other
  within : store.Within registry.scope → after.Within registry.scope

namespace Adds

theorem refl (registry : Registry) (store : Store) : registry.Adds store [] store := by
  refine ⟨?_, fun _ _ => rfl, fun within => within⟩
  intro ledger keeps
  rw [List.append_nil]
  exact keeps

theorem trans (first : registry.Adds store entries middle)
    (second : registry.Adds middle more after) : registry.Adds store (entries ++ more) after := by
  refine ⟨?_, ?_, fun within => second.within (first.within within)⟩
  · intro ledger keeps
    rw [← List.append_assoc]
    exact second.keeps _ (first.keeps ledger keeps)
  · intro other apart
    rw [second.storages other apart, first.storages other apart]

theorem issue (registry : Registry) (store : Store) :
    registry.Adds store [] { store with nextCallback := store.nextCallback + 1 } := by
  refine ⟨?_, fun _ _ => rfl, fun within => within⟩
  intro ledger keeps
  rw [List.append_nil]
  exact keeps.of_same keeps.loaded rfl

theorem registered (registered : (registry.site occasion).Registered store argument after)
    (known : argument.Within registry.scope) :
    registry.Adds store (argument.targets.map fun target => (occasion, target)) after :=
  ⟨fun _ keeps => keeps.registered registered, registered.beside.storages,
    fun within => registered.within within known⟩

/-- The dispatcher came into use. -/
theorem based {base : Storage} (beside : (registry.site occasion).Beside store after)
    (based : (registry.site occasion).Based store base)
    (found : after.storage? registry.dispatching = some base) : registry.Adds store [] after := by
  refine ⟨?_, beside.storages, ?_⟩
  · intro ledger keeps
    rw [List.append_nil]
    refine keeps_of_records fun other => ?_
    refine .of_shows ?_ found ((keeps.records other).based (registry.neighbours other _) based)
    rw [beside.modules_eq]
    exact keeps.loaded
  · intro within
    exact beside.within within found (based.within within)

theorem status?_eq (adds : registry.Adds store entries after) {instantiation : Instantiation}
    (apart : instantiation ≠ registry.dispatching) :
    after.status? instantiation = store.status? instantiation := by
  rw [Store.status?, adds.storages instantiation apart]
  rfl

theorem sound (adds : registry.Adds store [] after) (sound : registry.Sound ledger store) :
    registry.Sound ledger after := by
  refine ⟨?_, sound.accounts.congr ?_, adds.within sound.within⟩
  · have keeps := adds.keeps ledger sound.keeps
    rwa [List.append_nil] at keeps
  · intro hook listed arguments
    rw [adds.status?_eq (hooked_ne listed arguments)]

end Adds

/-! ### Registrations -/

section Registrations

variable {id? : Option RoutineId}
  (keeps : registry.Keeps ledger store)
  (ahead : frame.Ahead registry.handle
    (registration arity (registry.dispatcher.registrar occasion) id? ++ rest))
include keeps ahead

/-- A registration that is not too deep is completed. -/
theorem Keeps.registration_traces
    (bound_eq : ∀ id, id? = some id →
      frame.bound (ownRoutine arity id) = ⟨registry.handle, id, frame.arguments⟩)
    (admits : ∀ id, id? = some id → registry.Admits ⟨registry.handle, id, frame.arguments⟩)
    (enough : id? ≠ none → ¬limit < depth (.body frame :: below) + 1) :
    ∃ after steps, Traces registry.completes limit hostThread store (.body frame :: below)
        (entryOf occasion registry.handle frame.arguments id?) after
        (.body (frame.moved steps []) :: below) ∧
      (frame.moved steps []).Ahead registry.handle rest ∧
      registry.Adds store (entryOf occasion registry.handle frame.arguments id?) after := by
  cases id? with
  | none =>
      refine ⟨store, 0, ?_, ?_, .refl registry store⟩
      · rw [ahead.moved_zero]
        exact .refl
      · rw [ahead.moved_zero]
        exact ahead
  | some id =>
      have usable := (keeps.records occasion).usable
      have shallow := enough (Option.some_ne_none id)
      rcases usable.registration_traces registry.completes_sees ahead shallow with
        ⟨after, a, b, c, traces, registered⟩
      have targets_eq : (frame.callback arity id store).targets =
          [⟨registry.handle, id, frame.arguments⟩] := by
        rw [← bound_eq id rfl]
        rfl
      have known : (frame.callback arity id store).Within registry.scope := by
        intro target listed
        have isTarget : target ∈ (frame.callback arity id store).targets := listed
        rw [targets_eq, List.mem_singleton] at isTarget
        rw [isTarget]
        exact fun _ => admits id rfl
      have adds := (Adds.issue registry store).trans (.registered registered known)
      rw [completes_registrar, targets_eq] at traces
      rw [targets_eq] at adds
      exact ⟨after, 4, traces, ahead.moved 4, adds⟩

/-- An initializer that is too deep to register something fails, with nothing registered. -/
theorem Keeps.registration_fails {instantiation : Instantiation} (present : id? ≠ none)
    (tooDeep : limit < depth (.body frame :: .initializer instantiation :: below) + 1) :
    ∃ after trap, Traces registry.completes limit hostThread store
        (.body frame :: .initializer instantiation :: below) []
        (after.publish instantiation (.error trap)) below ∧
      registry.Adds store [] after := by
  cases id? with
  | none => exact absurd rfl present
  | some id =>
      have usable := (keeps.records occasion).usable
      rcases usable.registration_refused registry.completes_sees ahead tooDeep with
        ⟨ready, after, base, waiting, traces, silent, attempted, beside, based, found⟩
      refine ⟨after, .callDepthExceeded limit, ?_, .based beside based found⟩
      have unwinds : step limit hostThread ready waiting =
          .running (after.publish instantiation (.error (.callDepthExceeded limit))) below := by
        simp only [step, attempted, Attempt.settle, unwind, Frame.receive]
      have last : Traces registry.completes limit hostThread ready waiting
          (registry.completes waiting ++ []) _ below := .step unwinds .refl
      rw [silent] at last
      exact traces.trans last

end Registrations

/-! ### The end of an initializer -/

theorem Wired.admits {hook : Hook} {type : TypeDecl} (listed : hook ∈ registry.hooks)
    (declared : registry.module.type? hook.type = some type) {arguments : List ValueType}
    (placed : type.arity = arguments.length) {id : RoutineId} (added : some id ∈ hook.added) :
    registry.Admits ⟨registry.handle, id, arguments⟩ := by
  refine ⟨registry.wired.nameable hook listed id added, ?_⟩
  intro routine found
  rcases registry.wired.callable hook listed _ added id rfl with ⟨other, calls, owns⟩
  rw [calls.declared] at found
  cases found
  exact ⟨type, owns ▸ declared, placed⟩

/-- When the initializer of an instantiation of a hooked type has succeeded and its routines are
registered, the ledger is right again. -/
theorem Accounts.complete {hook : Hook} {arguments : List ValueType}
    (accounts : registry.Accounts ledger store) (listed : hook ∈ registry.hooks)
    (unfinished : store.status? ⟨registry.handle, hook.type, arguments⟩ ≠ some .done)
    (finished : after.status? ⟨registry.handle, hook.type, arguments⟩ = some .done)
    (same : ∀ other ∈ registry.hooks, ∀ others,
      (other.type, others) ≠ (hook.type, arguments) →
      after.status? ⟨registry.handle, other.type, others⟩ =
        store.status? ⟨registry.handle, other.type, others⟩) :
    registry.Accounts (ledger ++ entriesOf hook registry.handle arguments) after := by
  refine ⟨?_, ?_⟩
  · intro occasion
    rw [onOccasion_append, onOccasion_entriesOf]
    refine (accounts.once occasion).append ?_ ?_
    · cases hook.routine occasion <;> simp
    · intro target before isNew
      simp only [Option.mem_toList, Option.map_eq_some_iff] at isNew
      rcases isNew with ⟨id, isRoutine, rfl⟩
      rcases (accounts.listed occasion _).mp before with ⟨_, other, isHook, isOther, done⟩
      cases registry.wired.hook_eq listed isHook isRoutine isOther
      exact unfinished done
  · intro occasion target
    -- An entry of the hooked type under these arguments is new, and every other is what it was.
    rw [onOccasion_append, onOccasion_entriesOf, List.mem_append, accounts.listed]
    simp only [Option.mem_toList, Option.map_eq_some_iff]
    constructor
    · rintro (⟨here, other, isHook, isOther, done⟩ | ⟨id, isRoutine, rfl⟩)
      · refine ⟨here, other, isHook, isOther, ?_⟩
        by_cases equal : (other.type, target.arguments) = (hook.type, arguments)
        · rcases Prod.mk.inj equal with ⟨type_eq, arguments_eq⟩
          rw [type_eq, arguments_eq]
          exact finished
        · rw [same other isHook _ equal]
          exact done
      · exact ⟨rfl, hook, listed, isRoutine, finished⟩
    · rintro ⟨here, other, isHook, isOther, done⟩
      by_cases equal : (other.type, target.arguments) = (hook.type, arguments)
      · rcases Prod.mk.inj equal with ⟨type_eq, arguments_eq⟩
        cases List.inj_on_of_nodup_map registry.wired.distinct isHook listed type_eq
        refine .inr ⟨target.routine, isOther, ?_⟩
        rw [← here, ← arguments_eq]
      · rw [same other isHook _ equal] at done
        exact .inl ⟨here, other, isHook, isOther, done⟩

/-- The initializer of a hooked type in execution, when it has done what the type did before it was
hooked, or with a call of the copy of that still ahead. -/
structure Wrapping (registry : Registry) (hook : Hook) (copy? : Option RoutineId) (frame : Frame) :
    Prop where
  listed : hook ∈ registry.hooks
  copies : copy? = none ∨ copy? = hook.initializerCopy
  isWrapper : frame.routine = hook.initializer
  ahead : ∃ type routine, Wrapped registry.dispatcher registry.module hook type routine ∧
    type.arity = frame.arguments.length ∧
    frame.Ahead registry.handle (ownCall type.arity copy? ++
      (registration type.arity (registry.dispatcher.registrar .load) hook.load ++
        (registration type.arity (registry.dispatcher.registrar .unload) hook.unload ++ [.ret])))

/-- A store in which the initializer of an instantiation has ended. -/
structure Ended (registry : Registry) (instantiation : Instantiation) (store : Store)
    (ledger : List Entry) (after : Store) : Prop where
  sound : registry.Sound ledger after
  others : ∀ other, other ≠ instantiation → other ≠ registry.dispatching →
    after.status? other = store.status? other

section Wrapper

variable {hook : Hook} {type : TypeDecl} {routine : RoutineDecl} {instantiation : Instantiation}
  (sound : registry.Sound ledger store) (listed : hook ∈ registry.hooks)
  (wrapped : Wrapped registry.dispatcher registry.module hook type routine)
  (placed : type.arity = frame.arguments.length)
  (ahead : frame.Ahead registry.handle
    (registration type.arity (registry.dispatcher.registrar .load) hook.load ++
      (registration type.arity (registry.dispatcher.registrar .unload) hook.unload ++ [.ret])))
  (instantiation_eq : instantiation = ⟨registry.handle, hook.type, frame.arguments⟩)
  (running : store.status? instantiation = some (.running hostThread))
include sound listed ahead instantiation_eq running

theorem Sound.wrapper_fails (present : hook.load ≠ none ∨ hook.unload ≠ none)
    (tooDeep : limit < depth (.body frame :: .initializer instantiation :: below) + 1) :
    ∃ after, Traces registry.completes limit hostThread store
        (.body frame :: .initializer instantiation :: below) [] after below ∧
      registry.Ended instantiation store ledger after := by
  have apart : instantiation ≠ registry.dispatching := instantiation_eq ▸ hooked_ne listed _
  have fails : ∃ after trap, Traces registry.completes limit hostThread store
      (.body frame :: .initializer instantiation :: below) []
      (after.publish instantiation (.error trap)) below ∧ registry.Adds store [] after := by
    by_cases loads : hook.load = none
    · rw [loads, registration, List.nil_append] at ahead
      exact sound.keeps.registration_fails ahead (present.resolve_left (absurd loads)) tooDeep
    · exact sound.keeps.registration_fails ahead loads tooDeep
  rcases fails with ⟨after, trap, traces, adds⟩
  refine ⟨after.publish instantiation (.error trap), traces, ?_, ?_⟩
  · apply (adds.sound sound).publish apart
    intro _ _ _ _
    rw [adds.status?_eq apart, running]
    exact ⟨by simp, trap, rfl⟩
  · intro other otherApart otherThanDispatcher
    rw [Store.status?_publish, if_neg otherApart, adds.status?_eq otherThanDispatcher]

include wrapped placed

omit instantiation_eq running in
/-- An initializer that is not too deep registers what its type has to be called. -/
theorem Sound.wrapper_registers
    (enough : hook.load ≠ none ∨ hook.unload ≠ none → ¬limit < depth (.body frame :: below) + 1) :
    ∃ after steps, Traces registry.completes limit hostThread store (.body frame :: below)
        (entriesOf hook registry.handle frame.arguments) after
        (.body (frame.moved steps []) :: below) ∧
      (frame.moved steps []).Ahead registry.handle [.ret] ∧
      registry.Adds store (entriesOf hook registry.handle frame.arguments) after := by
  have bound_eq : ∀ id, some id ∈ hook.added →
      frame.bound (ownRoutine type.arity id) = ⟨registry.handle, id, frame.arguments⟩ := by
    intro id added
    simp only [Frame.bound, ownRoutine, ahead.module_eq,
      ownBinding_close placed (wrapped.small id added)]
  have admits : ∀ id, some id ∈ hook.added →
      registry.Admits ⟨registry.handle, id, frame.arguments⟩ :=
    fun _ added => Wired.admits listed wrapped.declared placed added
  rcases sound.keeps.registration_traces ahead
    (fun id loads => bound_eq id (Hook.mem_added.mpr (.inr (.inl loads))))
    (fun id loads => admits id (Hook.mem_added.mpr (.inr (.inl loads))))
    (fun loads => enough (.inl loads)) with ⟨middle, steps, traces, aheadLater, adds⟩
  rcases (adds.keeps ledger sound.keeps).registration_traces aheadLater
    (fun id unloads => bound_eq id (Hook.mem_added.mpr (.inr (.inr unloads))))
    (fun id unloads => admits id (Hook.mem_added.mpr (.inr (.inr unloads))))
    (fun unloads => enough (.inr unloads)) with ⟨after, more, tracesLater, aheadLast, addsLater⟩
  rw [Frame.moved_moved] at tracesLater aheadLast
  exact ⟨after, steps + more, traces.trans tracesLater, aheadLast, adds.trans addsLater⟩

theorem Sound.wrapper_succeeds (isWrapper : frame.routine = hook.initializer)
    (enough : hook.load ≠ none ∨ hook.unload ≠ none →
      ¬limit < depth (.body frame :: .initializer instantiation :: below) + 1) :
    ∃ after, Traces registry.completes limit hostThread store
        (.body frame :: .initializer instantiation :: below)
        (entriesOf hook registry.handle frame.arguments) after below ∧
      registry.Ended instantiation store
        (ledger ++ entriesOf hook registry.handle frame.arguments) after := by
  have apart : instantiation ≠ registry.dispatching := instantiation_eq ▸ hooked_ne listed _
  rcases sound.wrapper_registers listed wrapped placed ahead enough with
    ⟨after, steps, traces, aheadLast, adds⟩
  have quiet : registry.completes
      (.body (frame.moved steps []) :: .initializer instantiation :: below) = [] := by
    apply completes_of_apart
    intro _ occasion same
    exact registry.wired.initializer_ne listed occasion (isWrapper.symm.trans same)
  have returns : attempt limit hostThread after
      (.body (frame.moved steps []) :: .initializer instantiation :: below) =
      .running after (.initializer instantiation :: below) := by
    have current : (frame.moved steps []).instruction? = some .ret := aheadLast.instruction?
    have result : resultOf (frame.moved steps []) = .ok none := by
      simp [resultOf, aheadLast.silent]
    simp only [attempt, current, stepBody, result]
    rfl
  have whole := traces.trans (.quiet quiet returns (.of_quiet rfl rfl))
  rw [List.append_nil] at whole
  refine ⟨after.publish instantiation (.ok ()), whole, ⟨?_, ?_, ?_⟩, ?_⟩
  · have keeps := adds.keeps ledger sound.keeps
    refine keeps.of_same keeps.loaded ?_
    rw [Store.storage?_publish, if_neg fun same => apart same.symm]
  · apply sound.accounts.complete listed
    · rw [← instantiation_eq, running]
      simp
    · rw [← instantiation_eq, Store.status?_publish, if_pos rfl, adds.status?_eq apart, running]
      rfl
    · intro other isHook others otherApart
      rw [Store.status?_publish, if_neg, adds.status?_eq]
      · exact hooked_ne isHook others
      · rw [instantiation_eq]
        intro same
        exact otherApart (Prod.ext (congrArg (·.type) same) (congrArg (·.arguments) same))
  · exact (adds.within sound.within).publish _ _
  · intro other otherApart otherThanDispatcher
    rw [Store.status?_publish, if_neg otherApart, adds.status?_eq otherThanDispatcher]

end Wrapper

/-- An initializer that has only to register its type leads to its end. If it succeeds, its type is
registered, and otherwise nothing is. -/
theorem Sound.wrapper_ends {hook : Hook} (sound : registry.Sound ledger store)
    (wrapping : registry.Wrapping hook none frame)
    (running : store.status? ⟨registry.handle, hook.type, frame.arguments⟩ =
      some (.running hostThread)) (limit : Nat) (below : List Activation) :
    ∃ entries after, Traces registry.completes limit hostThread store
        (.body frame :: .initializer ⟨registry.handle, hook.type, frame.arguments⟩ :: below)
        entries after below ∧
      registry.Ended ⟨registry.handle, hook.type, frame.arguments⟩ store (ledger ++ entries)
        after := by
  rcases wrapping.ahead with ⟨type, routine, wrapped, placed, ahead⟩
  rw [ownCall, List.nil_append] at ahead
  -- Both registrations are made from the same frame, so either none is too deep or the first is.
  by_cases refused : (hook.load ≠ none ∨ hook.unload ≠ none) ∧ limit < depth (.body frame ::
      .initializer ⟨registry.handle, hook.type, frame.arguments⟩ :: below) + 1
  · rcases sound.wrapper_fails wrapping.listed ahead rfl running refused.1 refused.2 with
      ⟨after, traces, ended⟩
    refine ⟨[], after, traces, ?_⟩
    rwa [List.append_nil]
  · rcases sound.wrapper_succeeds wrapping.listed wrapped placed ahead rfl running
      wrapping.isWrapper (fun present tooDeep => refused ⟨present, tooDeep⟩) with
      ⟨after, traces, ended⟩
    exact ⟨_, after, traces, ended⟩

end Registry

end Rekindle.Machine
