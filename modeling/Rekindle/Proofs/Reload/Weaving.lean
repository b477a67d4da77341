import Rekindle.Proofs.Registration.Register
import Rekindle.Proofs.Reload.Instrumentation
import Rekindle.Proofs.Reload.Passes

/-!
# Woven modules

What making a module reloadable did to it, seen from the module itself: every declaration is where
it was, and only the initializers of hooked types do something else than before. Such an initializer
calls a copy of what it was and registers its type; a hooked type without an initializer has one
that only registers it.
-/

namespace Rekindle.Reload

open Fallible Validity Rekindle.Module

variable {markers : Markers} {module middle after : Module} {dispatcher : Dispatcher}
  {hooked more : List TypeId}

/-- What became of a routine. -/
inductive RoutineWoven (dispatcher : Dispatcher) (hooked : List TypeId) (module woven : Module)
    (id : RoutineId) (routine : RoutineDecl) : Prop where
  | plain (found : woven.routine? id = some routine)
  | wrapped {body : Body} {copy : RoutineId} {load unload : Option RoutineId} {arity : Nat}
      {markers : Markers} {name : String}
      (listed : routine.owner ∈ hooked)
      (arity_eq : ∀ type, module.type? routine.owner = some type → type.arity = arity)
      (small : arity ≤ 65535)
      (hasBody : routine.body = some body)
      (parameters : routine.parameters = [])
      (silent : routine.returns = false)
      (wrapper : woven.routine? id = some { routine with
        body := some (Hook.straightLine (wrapperLine arity dispatcher (some copy) load unload)) })
      (copied : woven.routine? copy =
        some { Hook.addedRoutine markers name body with owner := routine.owner })

/-- What became of a type without an initializer. -/
inductive Uninitialized (dispatcher : Dispatcher) (hooked : List TypeId) (module woven : Module)
    (id : TypeId) : Prop where
  | still (absent : woven.initializer id = .ok none)
  | made {initializer : RoutineId} {load unload : Option RoutineId} {arity : Nat}
      (listed : id ∈ hooked)
      (arity_eq : ∀ type, module.type? id = some type → type.arity = arity)
      (small : arity ≤ 65535)
      (found : woven.initializer id = .ok (some initializer))
      (declared : woven.routine? initializer = some { RoutineDecl.typeInitializer
        (Hook.straightLine (wrapperLine arity dispatcher none load unload)) with owner := id })

/-- A module of which the given types were hooked. -/
structure Woven (dispatcher : Dispatcher) (hooked : List TypeId) (module woven : Module) :
    Prop where
  types : ∀ id type, module.type? id = some type →
    ∃ routines, woven.type? id = some { type with routines }
  typeCount : module.types.size ≤ woven.types.size
  fields : ∀ id field, module.field? id = some field → woven.field? id = some field
  routines : ∀ id routine, module.routine? id = some routine →
    RoutineWoven dispatcher hooked module woven id routine
  initializers : ∀ id initializer, module.initializer id = .ok (some initializer) →
    woven.initializer id = .ok (some initializer)
  uninitialized : ∀ id type, module.type? id = some type → module.initializer id = .ok none →
    Uninitialized dispatcher hooked module woven id

/-- A routine of a type that was not hooked is what it was. -/
theorem Woven.plain (weaving : Woven dispatcher hooked module after) {id : RoutineId}
    {routine : RoutineDecl} (found : module.routine? id = some routine)
    (apart : routine.owner ∉ hooked) : after.routine? id = some routine := by
  cases weaving.routines id routine found with
  | plain found => exact found
  | wrapped listed => exact absurd listed apart

theorem Woven.refl (dispatcher : Dispatcher) (module : Module) :
    Woven dispatcher [] module module := by
  refine ⟨?_, Nat.le_refl _, ?_, ?_, ?_, ?_⟩
  · intro id type declared
    exact ⟨type.routines, declared⟩
  · intro id field declared
    exact declared
  · intro id routine declared
    exact .plain declared
  · intro id initializer found
    exact found
  · intro id type _ absent
    exact .still absent

/-- Hooking some types and then others hooks all of them. -/
theorem Woven.trans (first : Woven dispatcher hooked module middle)
    (second : Woven dispatcher more middle after) (apart : ∀ id ∈ hooked, id ∉ more) :
    Woven dispatcher (hooked ++ more) module after := by
  have arities {id : TypeId} {arity : Nat}
      (known : ∀ type, middle.type? id = some type → type.arity = arity) :
      ∀ type, module.type? id = some type → type.arity = arity := by
    intro type declared
    rcases first.types id type declared with ⟨routines, kept⟩
    have same := known _ kept
    exact same
  refine ⟨?_, Nat.le_trans first.typeCount second.typeCount, ?_, ?_, ?_, ?_⟩
  · intro id type declared
    rcases first.types id type declared with ⟨routines, kept⟩
    rcases second.types id _ kept with ⟨lastRoutines, keptAgain⟩
    exact ⟨lastRoutines, keptAgain⟩
  · intro id field declared
    exact second.fields id field (first.fields id field declared)
  · intro id routine declared
    cases first.routines id routine declared with
    | plain found =>
        cases second.routines id routine found with
        | plain found => exact .plain found
        | wrapped listed arity_eq small hasBody parameters silent wrapper copied =>
            exact .wrapped (List.mem_append_right _ listed) (arities arity_eq) small hasBody
              parameters silent wrapper copied
    | wrapped listed arity_eq small hasBody parameters silent wrapper copied =>
        exact .wrapped (List.mem_append_left _ listed) arity_eq small hasBody parameters silent
          (second.plain wrapper (apart _ listed)) (second.plain copied (apart _ listed))
  · intro id initializer found
    exact second.initializers id initializer (first.initializers id initializer found)
  · intro id type declared absent
    cases first.uninitialized id type declared absent with
    | still absent =>
        rcases first.types id type declared with ⟨routines, kept⟩
        cases second.uninitialized id _ kept absent with
        | still absent => exact .still absent
        | made listed arity_eq small found declared =>
            exact .made (List.mem_append_right _ listed) (arities arity_eq) small found declared
    | made listed arity_eq small found declared =>
        exact .made (List.mem_append_left _ listed) arity_eq small
          (second.initializers id _ found) (second.plain declared (apart _ listed))

/-- Adding the dispatcher hooks nothing. -/
theorem Dispatcher.Added.woven (added : Dispatcher.Added markers module after dispatcher) :
    Woven dispatcher [] module after := by
  refine ⟨?_, added.grows.typeCount, ?_, ?_, ?_, ?_⟩
  · intro id type declared
    exact ⟨type.routines, added.type?_of_declared declared⟩
  · intro id field declared
    exact added.field?_of_declared declared
  · intro id routine declared
    exact .plain (added.routine?_of_declared declared)
  · intro id first found
    rcases declared : module.type? id with _ | type
    · simp [initializer, declared] at found
    · exact initializer_grow added.grows declared (added.type?_of_declared declared) found
  · intro id type declared absent
    exact .still
      (initializer_grow added.grows declared (added.type?_of_declared declared) absent)

/-! ### Hooking one type -/

section Hooking

variable {candidate : Candidate} {type : TypeDecl} {hook : Hook}

theorem Hooked.routine?_of_ne
    (hooked : Hooked markers dispatcher module candidate type after hook) {id : RoutineId}
    {routine : RoutineDecl} (found : module.routine? id = some routine)
    (apart : id ≠ hook.initializer) : after.routine? id = some routine := by
  cases hooked with
  | intro type_eq copy unload load ensure isInitializer decl rewire =>
      rw [rewire.routine?_eq, if_neg apart]
      apply ensure.routine?_of_declared
      apply load.routine?_of_declared
      apply unload.routine?_of_declared
      apply copy.routine?_of_declared
      exact found

theorem Hooked.type?_self
    (hooked : Hooked markers dispatcher module candidate type after hook)
    {declared : TypeDecl} (found : module.type? candidate.type = some declared) :
    ∃ routines, after.type? candidate.type = some { declared with routines } := by
  cases hooked with
  | intro type_eq copy unload load ensure isInitializer decl rewire =>
      have copied := copy.type?_eq candidate.type
      rw [if_pos rfl, found] at copied
      have unloaded := unload.type?_eq candidate.type
      rw [if_pos rfl, copied] at unloaded
      have loaded := load.type?_eq candidate.type
      rw [if_pos rfl, unloaded] at loaded
      have ensured := ensure.type?_eq candidate.type
      rw [if_pos rfl, loaded, type?, ← rewire.types_eq] at ensured
      exact ⟨_, ensured⟩

/-- A type that received an initializer has it. -/
theorem Appended.initializer_made {owner : TypeId} {routine : RoutineDecl} {id : RoutineId}
    (appended : Appended module owner after (some routine) (some id))
    {declared : TypeDecl} (found : module.type? owner = some declared)
    (isInitializer : routine.isInitializer = true)
    (absent : module.initializer owner = .ok none) :
    after.initializer owner = .ok (some id) := by
  have lookup := appended.type?_eq owner
  rw [if_pos rfl, found] at lookup
  have added := appended.routine?_eq id
  rw [if_pos rfl] at added
  have accepted : RoutineDecl.isInitializer { routine with owner } = true := isInitializer
  simp only [initializer, found] at absent
  simp only [initializer, lookup, Option.map_some]
  have kept := firstRoutine_grow appended.grows isInitializer_body absent
  clear absent
  generalize declared.routines = ids at kept ⊢
  induction ids with
  | nil =>
      simp only [List.nil_append, Option.toList_some, firstRoutine, added, Option.map_some]
      rw [if_pos accepted]
  | cons other others ih =>
      rw [firstRoutine] at kept
      rw [List.cons_append, firstRoutine]
      rcases otherFound : after.routine? other with _ | otherDecl
      · simp [otherFound] at kept
      · simp only [otherFound] at kept ⊢
        split at kept
        · cases kept
        · rename_i refused
          rw [if_neg refused]
          exact ih kept

/-- A hooked type has an initializer. -/
theorem Hooked.initializer_self
    (hooked : Hooked markers dispatcher module candidate type after hook)
    (declared : module.type? candidate.type = some type) :
    after.initializer candidate.type = .ok (some hook.initializer) := by
  cases hooked with
  | @intro copied unloaded loaded ensured _ _ made decl type_eq copy unload load ensure
      isInitializer found rewire =>
      have copiedType := copy.type?_eq candidate.type
      rw [if_pos rfl, declared] at copiedType
      have unloadedType := unload.type?_eq candidate.type
      rw [if_pos rfl, copiedType] at unloadedType
      have loadedType := load.type?_eq candidate.type
      rw [if_pos rfl, unloadedType] at loadedType
      have ensuredType := ensure.type?_eq candidate.type
      rw [if_pos rfl, loadedType] at ensuredType
      have afterType := ensuredType
      rw [type?, ← rewire.types_eq] at afterType
      have loadedInitializer : ∀ found?, module.initializer candidate.type = .ok found? →
          loaded.initializer candidate.type = .ok found? := by
        intro found? before
        apply load.initializer_eq unloadedType (AllAdded.isInitializer (loadDecl?_added _ _ _ _ _ _))
        apply unload.initializer_eq copiedType (AllAdded.isInitializer (unloadDecl?_added _ _ _ _))
        exact copy.initializer_eq declared (AllAdded.isInitializer (copyDecl?_added _ _ _ _)) before
      apply initializer_grow (rewire.grows found) ensuredType afterType
      rcases isInitializer with ⟨before, rfl⟩ | ⟨absent, rfl⟩
      · have none_eq : madeDecl? module candidate.type = none := by simp [madeDecl?, before]
        rw [none_eq] at ensure
        apply ensure.initializer_eq loadedType
        · intro routine present
          cases present
        · exact loadedInitializer _ before
      · have some_eq : madeDecl? module candidate.type = some (.typeInitializer .returning) := by
          simp [madeDecl?, absent]
        rw [some_eq] at ensure
        exact ensure.initializer_made loadedType rfl (loadedInitializer _ absent)

/-- The routines that were appended stay what they were appended as. -/
theorem Hooked.copy_declared
    (hooked : Hooked markers dispatcher module candidate type after hook) {body : Body}
    (hasBody : initializerBody? module candidate.type = some body)
    (old : hook.initializer.position < module.routines.size) :
    ∃ copy name, hook.initializerCopy = some copy ∧ after.routine? copy =
      some { Hook.addedRoutine markers name body with owner := candidate.type } := by
  cases hooked with
  | intro type_eq copy unload load ensure isInitializer found rewire =>
      simp only [copyDecl?, hasBody, Option.map_some] at copy
      rcases present : hook.initializerCopy with _ | id
      · rw [present] at copy
        cases copy
      · rw [present] at copy
        have added := copy.routine?_eq id
        rw [if_pos rfl] at added
        have place := copy.position_eq rfl
        have apart : id ≠ hook.initializer := by
          rintro rfl
          omega
        refine ⟨id, Names.initializerCopy type.name, rfl, ?_⟩
        rw [rewire.routine?_eq, if_neg apart]
        apply ensure.routine?_of_declared
        apply load.routine?_of_declared
        apply unload.routine?_of_declared
        exact added

/-- The initializer of a hooked type that had one runs the copy and registers the type. -/
theorem Hooked.wrapper_declared
    (hooked : Hooked markers dispatcher module candidate type after hook) {routine : RoutineDecl}
    (found : module.routine? hook.initializer = some routine) :
    after.routine? hook.initializer =
      some { routine with body := some (wrapperBody type.arity dispatcher hook) } := by
  cases hooked with
  | intro type_eq copy unload load ensure isInitializer decl rewire =>
      have kept := ensure.routine?_of_declared (load.routine?_of_declared
        (unload.routine?_of_declared (copy.routine?_of_declared found)))
      rw [decl] at kept
      cases kept
      rw [rewire.routine?_eq, if_pos rfl]

theorem Hooked.isInitializer
    (hooked : Hooked markers dispatcher module candidate type after hook) :
    module.initializer candidate.type = .ok (some hook.initializer) ∨
      module.initializer candidate.type = .ok none ∧ module.routine? hook.initializer = none := by
  cases hooked with
  | intro type_eq copy unload load ensure isInitializer found rewire =>
      rcases isInitializer with ⟨present, _⟩ | ⟨absent, made_eq⟩
      · exact .inl present
      · have place := ensure.position_eq made_eq
        have first := copy.routineCount
        have second := unload.routineCount
        have third := load.routineCount
        refine .inr ⟨absent, ?_⟩
        apply Array.getElem?_eq_none
        omega

/-- What a hooked type's own initializer becomes. -/
theorem Hooked.wrapped (hooked : Hooked markers dispatcher module candidate type after hook)
    (valid : Valid module) (declared : module.type? candidate.type = some type)
    (hookable : Hookable module candidate.type) (runs : InitializerRuns module candidate.type)
    (present : module.initializer candidate.type = .ok (some hook.initializer))
    {routine : RoutineDecl} (found : module.routine? hook.initializer = some routine) :
    RoutineWoven dispatcher [candidate.type] module after hook.initializer routine := by
  have small := hookable.arity_le type declared
  have owns := (owned_of_initializer valid.members present found).2
  rcases hookable.initializer _ routine present found with ⟨parameters, result⟩
  rcases Option.isSome_iff_exists.mp (runs _ routine present found) with ⟨body, hasBody⟩
  have bodyFound : initializerBody? module candidate.type = some body :=
    initializerBody?_eq_some_iff.mpr ⟨_, routine, present, found, hasBody⟩
  rcases hooked.copy_declared bodyFound (position_lt_of_routine? found) with
    ⟨copy, name, isCopy, copied⟩
  have wrapper := hooked.wrapper_declared found
  rw [wrapperBody, isCopy] at wrapper
  rw [← owns] at copied
  refine .wrapped (by simp [owns]) ?_ small hasBody parameters ?_ wrapper copied
  · intro other otherFound
    rw [owns, declared] at otherFound
    cases otherFound
    rfl
  · simp [RoutineDecl.returns, result, ValueType.isVoid]

/-- What a hooked type without an initializer receives. -/
theorem Hooked.made (hooked : Hooked markers dispatcher module candidate type after hook)
    (declared : module.type? candidate.type = some type) (small : type.arity ≤ 65535)
    (absent : module.initializer candidate.type = .ok none) :
    Uninitialized dispatcher [candidate.type] module after candidate.type := by
  have found := hooked.initializer_self declared
  cases hooked with
  | intro type_eq copy unload load ensure isInitializer decl rewire =>
      rcases isInitializer with ⟨present, _⟩ | ⟨_, made_eq⟩
      · rw [absent] at present
        cases present
      · have some_eq : madeDecl? module candidate.type = some (.typeInitializer .returning) := by
          simp [madeDecl?, absent]
        have lookup := ensure.routine?_eq hook.initializer
        rw [made_eq, if_pos rfl, some_eq, decl] at lookup
        cases lookup
        have none_eq := copyDecl?_of_absent markers type.name absent
        have copyAbsent : hook.initializerCopy = none := by
          rw [none_eq] at copy
          generalize hook.initializerCopy = copied at copy
          cases copy
          rfl
        have wrapper := rewire.routine?_eq hook.initializer
        rw [if_pos rfl, wrapperBody, copyAbsent] at wrapper
        refine .made (by simp) ?_ small found wrapper
        intro other otherFound
        rw [declared] at otherFound
        cases otherFound
        rfl

theorem Hooked.woven (hooked : Hooked markers dispatcher module candidate type after hook)
    (valid : Valid module) (declared : module.type? candidate.type = some type)
    (hookable : Hookable module candidate.type) (runs : InitializerRuns module candidate.type) :
    Woven dispatcher [candidate.type] module after := by
  refine ⟨?_, hooked.grows.typeCount, hooked.grows.fields, ?_, ?_, ?_⟩
  · intro id other found
    by_cases same : id = candidate.type
    · subst same
      exact hooked.type?_self found
    · refine ⟨other.routines, ?_⟩
      rw [hooked.type?_of_ne same]
      exact found
  · intro id routine found
    by_cases same : id = hook.initializer
    · subst same
      rcases hooked.isInitializer with present | ⟨_, fresh⟩
      · exact hooked.wrapped valid declared hookable runs present found
      · rw [fresh] at found
        cases found
    · exact .plain (hooked.routine?_of_ne found same)
  · intro id first found
    by_cases same : id = candidate.type
    · subst same
      rcases hooked.isInitializer with present | ⟨absent, _⟩
      · rw [present] at found
        cases found
        exact hooked.initializer_self declared
      · rw [absent] at found
        cases found
    · rw [hooked.initializer_of_ne valid same]
      exact found
  · intro id other otherFound absent
    by_cases same : id = candidate.type
    · subst same
      exact hooked.made declared (hookable.arity_le type declared) absent
    · apply Uninitialized.still
      rw [hooked.initializer_of_ne valid same]
      exact absent

end Hooking

/-! ### Hooking all candidates -/

theorem HookedAll.woven {candidates : List Candidate} {hooks : List Hook}
    (hookedAll : HookedAll markers dispatcher module candidates after hooks)
    (allReady : AllReady dispatcher module candidates)
    (runs : ∀ candidate ∈ candidates, InitializerRuns module candidate.type) :
    Woven dispatcher (candidates.map (·.type)) module after := by
  induction hookedAll with
  | nil => exact .refl dispatcher _
  | cons declared first stillValid others ih =>
      rcases List.nodup_cons.mp allReady.distinct with ⟨fresh, _⟩
      rcases allReady.first with ⟨_, _, readyFirst⟩
      have woven := first.woven allReady.valid declared readyFirst.hookable
        (runs _ List.mem_cons_self)
      refine woven.trans (ih (allReady.hooked first stillValid) ?_) ?_
      · intro other listed
        have apart := allReady.apart other listed
        exact (runs other (List.mem_cons_of_mem _ listed)).hooked first apart allReady.valid
      · intro id listed
        cases List.mem_singleton.mp listed
        exact fresh

/-- Only a type whose initializer has a body is hooked. -/
theorem ofCandidate_runs {work finished : Workpiece} {candidate : Candidate} {hook : Hook}
    (hooks : Hook.ofCandidate markers dispatcher work candidate = .ok (finished, hook)) :
    InitializerRuns work.module candidate.type := by
  intro initializer routine found routineFound
  rcases ofCandidate_ok hooks with ⟨_, _, _, _, _, _, _, copies, _⟩
  rcases copyInitializer_ok copies with ⟨absent, _⟩ | ⟨_, body, _, _, _, present, hasBody, _⟩
  · rw [found] at absent
    cases absent
  · rw [found] at present
    cases present
    rw [routineFound, Option.bind_some] at hasBody
    rw [hasBody]
    rfl

theorem ofCandidates_runs {candidates : List Candidate} {work finished : Workpiece}
    {hooks : List Hook}
    (succeeds : Hook.ofCandidates markers dispatcher work candidates = .ok (finished, hooks))
    (allReady : AllReady dispatcher work.module candidates)
    (room : work.module.routines.size + 4 * candidates.length ≤ tableLimit) :
    ∀ candidate ∈ candidates, InitializerRuns work.module candidate.type := by
  induction candidates generalizing work finished hooks with
  | nil => simp
  | cons candidate candidates ih =>
      rw [List.length_cons] at room
      rcases allReady.first with ⟨type, declared, readyFirst⟩
      rcases ofCandidates_cons_ok succeeds with ⟨middle, _, _, first_eq, others_eq, _⟩
      have runsFirst := ofCandidate_runs first_eq
      rcases ofCandidate_succeeds markers readyFirst runsFirst (by omega) with
        ⟨_, _, succeedsFirst, hooked, middleValid⟩
      rw [first_eq] at succeedsFirst
      cases succeedsFirst
      have count := hooked.routineCount_le
      have remaining : middle.module.routines.size + 4 * candidates.length ≤ tableLimit := by omega
      have runsOthers := ih others_eq (allReady.hooked hooked middleValid) remaining
      have woven := hooked.woven allReady.valid declared readyFirst.hookable runsFirst
      intro other listed
      rcases List.mem_cons.mp listed with rfl | later
      · exact runsFirst
      · intro initializer routine found routineFound
        -- a wrapped initializer had a body, and any other is as it was before
        cases woven.routines initializer routine routineFound with
        | plain kept =>
            exact runsOthers other later initializer routine
              (woven.initializers _ initializer found) kept
        | wrapped _ _ _ hasBody => simp [hasBody]

/-! ### The dispatcher in a woven module -/

/-- Hooking other types leaves the routines alone that add to the dispatcher. -/
theorem Woven.registers (weaving : Woven dispatcher hooked module after) {owner : TypeId}
    {routine : RoutineId} {field : FieldId}
    (registers : Machine.Registers module owner routine field) (apart : owner ∉ hooked) :
    Machine.Registers after owner routine field := by
  rcases registers with
    ⟨⟨markers, name, routineFound⟩, ⟨fieldName, fieldFound⟩, ⟨type, declared, listed⟩, absent⟩
  refine ⟨⟨markers, name, ?_⟩, ⟨fieldName, ?_⟩, ?_, ?_⟩
  · exact weaving.plain routineFound apart
  · exact weaving.fields field _ fieldFound
  · rcases weaving.types owner type declared with ⟨routines, kept⟩
    exact ⟨_, kept, listed⟩
  · cases weaving.uninitialized owner type declared absent with
    | still absent => exact absent
    | made isHooked => exact absurd isHooked apart

/-- A module and what came of making it reloadable. -/
structure Reloadable (dispatcher : Dispatcher) (hooked : List TypeId) (module after : Module) :
    Prop where
  valid : Valid module
  stillValid : Valid after
  woven : Woven dispatcher hooked module after
  registersLoad : Machine.Registers after dispatcher.type dispatcher.registerLoad
    dispatcher.loadActions
  registersUnload : Machine.Registers after dispatcher.type dispatcher.registerUnload
    dispatcher.unloadActions
  fresh : module.type? dispatcher.type = none

theorem instrument_reloadable {settings : Settings} {symbols : Option Symbols} {survey : Survey}
    {instrumented : Instrumented}
    (makes : instrument settings module symbols = .ok (some instrumented))
    (surveyed : Survey.ofModule settings.markers module symbols = .ok survey)
    (hookable : ∀ candidate ∈ survey.candidates, Hookable module candidate.type)
    (room : Room module 1 2 (4 + 4 * survey.candidates.length)) :
    Reloadable instrumented.dispatcher (survey.candidates.map (·.type)) module
      instrumented.module := by
  rcases instrument_passed makes with ⟨other, dispatched, passed⟩
  cases surveyed.symm.trans passed.surveyed
  have hooks_eq := passed.hooked
  have valid := checkModule_eq_ok_iff.mp passed.accepted
  rcases passed.dispatcher_added room with ⟨added, remaining⟩
  have allReady : AllReady instrumented.dispatcher (Workpiece.mk dispatched symbols).module
      survey.candidates :=
    added.allReady valid surveyed hookable
  have runs := ofCandidates_runs hooks_eq allReady remaining
  rcases ofCandidates_succeeds settings.markers allReady runs remaining with
    ⟨_, _, succeeds, hooked, stillValid⟩
  rw [hooks_eq] at succeeds
  cases succeeds
  have woven := hooked.woven allReady runs
  have fresh : module.type? instrumented.dispatcher.type = none := by
    apply Array.getElem?_eq_none
    rw [added.type_position]
  have apart : instrumented.dispatcher.type ∉ survey.candidates.map (·.type) := by
    intro listed
    rcases List.mem_map.mp listed with ⟨candidate, isCandidate, type_eq⟩
    have sound := Survey.candidates_sound valid surveyed candidate isCandidate
    rcases sound.declared with ⟨type, declared⟩
    rw [type_eq, fresh] at declared
    cases declared
  exact ⟨valid, stillValid, added.woven.trans woven (by simp),
    woven.registers (Machine.registers_load added) apart,
    woven.registers (Machine.registers_unload added) apart, fresh⟩

end Rekindle.Reload
