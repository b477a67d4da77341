import Rekindle.Proofs.Reload.Hooking

/-!
# Rewiring the initializer

The last step of hooking a type, and what all steps together lead to: up to four appended routines,
and an initializer of which only the body is new.
-/

namespace Rekindle.Reload

open Fallible Validity Rekindle.Module

variable {markers : Markers} {module after last : Module} {owner : TypeId} {type : TypeDecl}
  {candidate : Candidate} {dispatcher : Dispatcher}

/-- Routines that are added under a name of their own, unlike an initializer. -/
def AllAdded (markers : Markers) (routine? : Option RoutineDecl) : Prop :=
  ∀ routine, routine? = some routine → ∃ name body, routine = Hook.addedRoutine markers name body

theorem copyDecl?_added (markers : Markers) (module : Module) (owner : TypeId) (name : String) :
    AllAdded markers (copyDecl? markers module owner name) := by
  intro routine isCopy
  simp only [copyDecl?, Option.map_eq_some_iff] at isCopy
  rcases isCopy with ⟨body, _, rfl⟩
  exact ⟨_, _, rfl⟩

theorem unloadDecl?_added (markers : Markers) (name : String) (arity : Nat)
    (candidate : Candidate) : AllAdded markers (unloadDecl? markers name arity candidate) := by
  intro routine isUnload
  simp only [unloadDecl?, Option.ite_none_left_eq_some, Option.some.injEq] at isUnload
  rcases isUnload with ⟨_, rfl⟩
  exact ⟨_, _, rfl⟩

theorem loadDecl?_added (markers : Markers) (module : Module) (name : String) (arity : Nat)
    (candidate : Candidate) (copy : Option RoutineId) :
    AllAdded markers (loadDecl? markers module name arity candidate copy) := by
  intro routine isLoad
  simp only [loadDecl?, Option.ite_none_left_eq_some, Option.some.injEq] at isLoad
  rcases isLoad with ⟨_, rfl⟩
  exact ⟨_, _, rfl⟩

theorem AllAdded.isInitializer {routine? : Option RoutineDecl} (added : AllAdded markers routine?) :
    ∀ routine, routine? = some routine → routine.isInitializer = false := by
  intro routine present
  rcases added routine present with ⟨name, body, rfl⟩
  rfl

theorem Appended.callable {routine? : Option RoutineDecl} {id? : Option RoutineId}
    (appended : Appended module owner after routine? id?) (added : AllAdded markers routine?)
    (grows : Grows after last) :
    ∀ id, id? = some id → ∃ routine, Callable last id routine 0 ∧ routine.owner = owner := by
  cases appended with
  | nothing => nofun
  | @routine _ decl id addition =>
      rintro _ ⟨⟩
      rcases added decl rfl with ⟨name, body, rfl⟩
      have found := addition.routine?_eq id
      rw [if_pos rfl] at found
      have calls : Callable after id { Hook.addedRoutine markers name body with owner } 0 :=
        ⟨found, rfl, rfl, rfl, rfl⟩
      exact calls.grow grows

/-- The routines that a candidate is given one after the other can all be called in the end. -/
theorem allCallable_of_appended {copied unloaded loaded : Module}
    {copyDecl? unloadDecl? loadDecl? : Option RoutineDecl} {copy unload load : Option RoutineId}
    (copies : Appended module owner copied copyDecl? copy)
    (unloads : Appended copied owner unloaded unloadDecl? unload)
    (loads : Appended unloaded owner loaded loadDecl? load) (copyAdded : AllAdded markers copyDecl?)
    (unloadAdded : AllAdded markers unloadDecl?) (loadAdded : AllAdded markers loadDecl?) :
    AllCallable loaded owner [copy, load, unload] := by
  simp only [AllCallable, List.forall_mem_cons, List.not_mem_nil, false_implies, implies_true,
    and_true]
  refine ⟨?_, ?_, ?_⟩
  · exact copies.callable copyAdded (unloads.grows.trans loads.grows)
  · exact loads.callable loadAdded (.refl loaded)
  · exact unloads.callable unloadAdded loads.grows

theorem loadDecl?_congr (fields_eq : after.fields = module.fields) (name : String) (arity : Nat)
    (candidate : Candidate) (copy : Option RoutineId) :
    loadDecl? markers after name arity candidate copy =
      loadDecl? markers module name arity candidate copy := by
  simp only [loadDecl?, resetsOf, resetOf, field?, fields_eq]

/-- A type stays hookable when routines are appended to it that are no initializers. -/
theorem Hookable.appended {routine? : Option RoutineDecl} {id? : Option RoutineId}
    (appended : Appended module owner after routine? id?) (added : AllAdded markers routine?)
    (valid : Valid module) (declared : module.type? owner = some type)
    (hookable : Hookable module owner) : Hookable after owner := by
  have grows := appended.grows
  refine ⟨?_, ?_⟩
  · intro type' found
    rcases grows.types owner type declared with ⟨fields, routines, kept⟩
    rw [found] at kept
    cases kept
    exact hookable.arity_le type declared
  · intro initializer routine found routineFound
    rcases initializer_of_valid valid owner with ⟨found?, before, owned⟩
    have kept := appended.initializer_eq declared added.isInitializer before
    rw [found] at kept
    cases kept
    rcases owned initializer rfl with ⟨old, oldFound, _, _⟩
    rcases grows.routines initializer old oldFound with ⟨body, keptRoutine, _⟩
    rw [routineFound] at keptRoutine
    cases keptRoutine
    exact hookable.initializer initializer old before oldFound

/-- The initializer that a type has once there must be one. -/
theorem Appended.exists_initializer {initializer : RoutineId} {made : Option RoutineId}
    (appended : Appended module owner after (madeDecl? module owner) made)
    (isInitializer : IsInitializer module owner initializer made) (valid : Valid module)
    (hookable : Hookable module owner) :
    ∃ routine, after.routine? initializer = some routine ∧ routine.owner = owner ∧
      routine.isInitializer = true ∧ routine.parameters = [] ∧ routine.result = .void := by
  rcases isInitializer with ⟨found, _⟩ | ⟨absent, rfl⟩
  · rcases exists_of_initializer valid.members found with ⟨routine, routineFound, fit, owns⟩
    rcases hookable.initializer initializer routine found routineFound with ⟨parameters, result⟩
    exact ⟨routine, appended.routine?_of_declared routineFound, owns, fit, parameters, result⟩
  · have made_eq : madeDecl? module owner = some (.typeInitializer .returning) := by
      simp [madeDecl?, absent]
    have lookup := appended.routine?_eq initializer
    rw [if_pos rfl, made_eq] at lookup
    exact ⟨_, lookup, rfl, rfl, rfl, rfl⟩

/-! ### All steps together -/

/-- The body of a rewired initializer. -/
def wrapperBody (arity : Nat) (dispatcher : Dispatcher) (hook : Hook) : Body :=
  Hook.straightLine
    (wrapperLine arity dispatcher hook.initializerCopy hook.load hook.unload)

/-- A module in which a candidate was hooked. -/
inductive Hooked (markers : Markers) (dispatcher : Dispatcher) (module : Module)
    (candidate : Candidate) (type : TypeDecl) : (after : Module) → (hook : Hook) → Prop where
  | intro {copied unloaded loaded ensured after : Module} {hook : Hook} {made : Option RoutineId}
      {initializer : RoutineDecl}
      (type_eq : hook.type = candidate.type)
      (copy : Appended module candidate.type copied
        (copyDecl? markers module candidate.type type.name) hook.initializerCopy)
      (unload : Appended copied candidate.type unloaded
        (unloadDecl? markers type.name type.arity candidate) hook.unload)
      (load : Appended unloaded candidate.type loaded
        (loadDecl? markers module type.name type.arity candidate hook.initializerCopy) hook.load)
      (ensure : Appended loaded candidate.type ensured (madeDecl? module candidate.type) made)
      (isInitializer : IsInitializer module candidate.type hook.initializer made)
      (found : ensured.routine? hook.initializer = some initializer)
      (rewire : RoutineChanged ensured after hook.initializer
        { initializer with body := some (wrapperBody type.arity dispatcher hook) }) :
      Hooked markers dispatcher module candidate type after hook

theorem Hooked.grows {hook : Hook}
    (hooked : Hooked markers dispatcher module candidate type after hook) :
    Grows module after := by
  cases hooked with
  | intro type_eq copy unload load ensure isInitializer found rewire =>
      exact copy.grows.trans (unload.grows.trans (load.grows.trans
        (ensure.grows.trans (rewire.grows found))))

theorem rewireInitializer_succeeds (symbols : Option Symbols) (valid : Valid module)
    (declared : module.type? owner = some type) (small : type.arity ≤ 65535)
    (hookable : Hookable module owner) {copy load unload : Option RoutineId}
    (callable : AllCallable module owner [copy, load, unload])
    (registrars : Registrars module dispatcher)
    (room : module.routines.size < tableLimit) :
    ∃ rewired ensured initializer made routine,
      Hook.rewireInitializer ⟨module, symbols⟩ owner dispatcher copy load unload =
        (rewired, .ok initializer) ∧
      Appended module owner ensured (madeDecl? module owner) made ∧
      IsInitializer module owner initializer made ∧
      ensured.routine? initializer = some routine ∧
      RoutineChanged ensured rewired.module initializer { routine with
        body := some (Hook.straightLine (wrapperLine type.arity dispatcher copy load unload)) } ∧
      Valid rewired.module := by
  rcases ensureInitializer_succeeds valid declared room with
    ⟨ensured, initializer, made, succeeds, appended, isInitializer, ensuredValid⟩
  rcases appended.exists_initializer isInitializer valid hookable with
    ⟨routine, found, rfl, _, parameters, result⟩
  have grows := appended.grows
  rcases grows.types _ type declared with ⟨fields, routines, kept⟩
  have body_eq := initializerBody_eq kept (callable.grow grows) (registrars.grow grows)
  have line := wrapperLine_fits kept small (callable.grow grows) (registrars.grow grows)
  have changed := setRoutine_changed found { routine with
    body := some (Hook.straightLine (wrapperLine type.arity dispatcher copy load unload)) }
  refine ⟨⟨_, symbols.map fun symbols => symbols.clearRoutine initializer⟩, ensured, initializer,
    made, routine, ?_, appended, isInitializer, found, changed, ?_⟩
  · simp only [Hook.rewireInitializer, succeeds, body_eq, found]
    rfl
  · apply ensuredValid.routineChanged found changed
    apply RoutineFits.grow (changed.grows found)
    refine ⟨_, kept, ?_, ?_, ?_⟩
    · simp [result, TypeFits]
    · simp [parameters]
    · rintro _ ⟨⟩
      apply line.bodyFits
      simp [RoutineDecl.returns, result, ValueType.isVoid]

/-- What each step of hooking a candidate relies on. -/
structure Ready (dispatcher : Dispatcher) (candidate : Candidate) (type : TypeDecl)
    (module : Module) : Prop where
  valid : Valid module
  declared : ∃ routines, module.type? candidate.type = some { type with routines }
  sound : candidate.Sound module
  hookable : Hookable module candidate.type
  registrars : Registrars module dispatcher

theorem Ready.arity_le (ready : Ready dispatcher candidate type module) : type.arity ≤ 65535 := by
  rcases ready.declared with ⟨routines, declared⟩
  have small := ready.hookable.arity_le _ declared
  exact small

theorem Ready.appended {routine? : Option RoutineDecl} {id? : Option RoutineId}
    (ready : Ready dispatcher candidate type module)
    (appended : Appended module candidate.type after routine? id?)
    (added : AllAdded markers routine?) (valid : Valid after) :
    Ready dispatcher candidate type after := by
  rcases ready.declared with ⟨routines, declared⟩
  refine ⟨valid, ?_, ready.sound.grow appended.grows, ?_, ready.registrars.grow appended.grows⟩
  · have lookup := appended.type?_eq candidate.type
    rw [if_pos rfl, declared] at lookup
    exact ⟨_, lookup⟩
  · exact ready.hookable.appended appended added ready.valid declared

theorem Ready.initializer_eq {routine? : Option RoutineDecl} {id? found? : Option RoutineId}
    (ready : Ready dispatcher candidate type module)
    (appended : Appended module candidate.type after routine? id?)
    (added : AllAdded markers routine?) (found : module.initializer candidate.type = .ok found?) :
    after.initializer candidate.type = .ok found? := by
  rcases ready.declared with ⟨routines, declared⟩
  exact appended.initializer_eq declared added.isInitializer found

/-- Every candidate that has what it takes is hooked. -/
theorem ofCandidate_succeeds (markers : Markers) {work : Workpiece}
    (ready : Ready dispatcher candidate type work.module)
    (runs : InitializerRuns work.module candidate.type)
    (room : work.module.routines.size + 4 ≤ tableLimit) :
    ∃ finished hook, Hook.ofCandidate markers dispatcher work candidate = .ok (finished, hook) ∧
      Hooked markers dispatcher work.module candidate type finished.module hook ∧
      Valid finished.module := by
  rcases ready.declared with ⟨_, declared⟩
  have small := ready.arity_le
  rcases initializer_of_valid ready.valid candidate.type with ⟨found?, initializer_eq, _⟩
  rcases copyInitializer_succeeds markers ready.valid declared ready.hookable runs (by omega) with
    ⟨copied, copy, copy_eq, copyAppended, copiedValid⟩
  have copyAdded := copyDecl?_added markers work.module candidate.type type.name
  have copiedReady := ready.appended copyAppended copyAdded copiedValid
  have copiedInitializer := ready.initializer_eq copyAppended copyAdded initializer_eq
  have copiedCount := copyAppended.routineCount_le
  rcases copiedReady.declared with ⟨_, copiedDeclared⟩
  rcases addUnload_succeeds markers copiedValid copiedReady.sound copiedDeclared small
    (by omega) with ⟨unloaded, unload, unload_eq, unloadAppended, unloadedValid⟩
  have unloadAdded := unloadDecl?_added markers type.name type.arity candidate
  have unloadedReady := copiedReady.appended unloadAppended unloadAdded unloadedValid
  have unloadedInitializer := copiedReady.initializer_eq unloadAppended unloadAdded copiedInitializer
  have unloadedCount := unloadAppended.routineCount_le
  rcases unloadedReady.declared with ⟨_, unloadedDeclared⟩
  rcases addLoad_succeeds markers unloadedValid unloadedReady.sound unloadedDeclared small
    (copyAppended.callable copyAdded unloadAppended.grows) (by omega) with
    ⟨loaded, load, load_eq, loadAppended, loadedValid⟩
  have loadAdded := loadDecl?_added markers unloaded type.name type.arity candidate copy
  have loadedReady := unloadedReady.appended loadAppended loadAdded loadedValid
  have loadedInitializer := unloadedReady.initializer_eq loadAppended loadAdded unloadedInitializer
  have loadedCount := loadAppended.routineCount_le
  rcases loadedReady.declared with ⟨_, loadedDeclared⟩
  have callable := allCallable_of_appended copyAppended unloadAppended loadAppended copyAdded
    unloadAdded loadAdded
  rcases rewireInitializer_succeeds copied.symbols loadedValid loadedDeclared small
    loadedReady.hookable callable loadedReady.registrars (by omega) with
    ⟨finished, ensured, initializer, made, routine, rewire_eq, ensureAppended, isInitializer, found,
      changed, finishedValid⟩
  have madeDecl_eq : madeDecl? loaded candidate.type = madeDecl? work.module candidate.type := by
    simp only [madeDecl?, loadedInitializer, initializer_eq]
  have fields_eq : unloaded.fields = work.module.fields :=
    unloadAppended.fields_eq.trans copyAppended.fields_eq
  refine ⟨finished, ⟨candidate.type, candidate.fullName, initializer, copy, load, unload⟩, ?_, ?_,
    finishedValid⟩
  · simp only [Hook.ofCandidate, copy_eq, unload_eq, load_eq, ok_bind, pure_eq_ok]
    rw [rewire_eq]
    rfl
  · rw [madeDecl_eq] at ensureAppended
    rw [loadDecl?_congr fields_eq] at loadAppended
    refine .intro rfl copyAppended unloadAppended loadAppended ensureAppended ?_ found changed
    simp only [IsInitializer, loadedInitializer] at isInitializer
    simp only [IsInitializer, initializer_eq]
    exact isInitializer

end Rekindle.Reload
