import Rekindle.Proofs.Reload.Weaving

/-!
# Installed hooks

What a module that was made reloadable has for each candidate, whatever its other candidates are
like: the copy of what the initializer of the type was, the routines to run before and after a
reload, and an initializer that runs the copy and registers the other two. Hooking further types
touches none of them.
-/

namespace Rekindle.Reload

open Fallible Validity Rekindle.Module

variable {markers : Markers} {module middle after : Module} {owner : TypeId} {type : TypeDecl}
  {candidate : Candidate} {dispatcher : Dispatcher} {hook : Hook}

/-! ### Steps that succeeded -/

theorem addRoutine_appended {name : String} {body : Body} {id : RoutineId}
    (adds : Hook.addRoutine markers module owner name body = .ok (after, id))
    (room : module.routines.size < tableLimit) :
    Appended module owner after (some (Hook.addedRoutine markers name body)) (some id) := by
  rw [Hook.addRoutine, mapError_eq_ok_iff] at adds
  exact .routine (addRoutine_added adds room)

theorem nameOf_eq (declared : module.type? owner = some type) :
    Hook.nameOf module owner = .ok type.name := by
  rw [Hook.nameOf, declared]

theorem copyInitializer_appended {work copied : Workpiece} {copy : Option RoutineId}
    (copies : Hook.copyInitializer markers work owner = .ok (copied, copy))
    (declared : work.module.type? owner = some type)
    (room : work.module.routines.size < tableLimit) :
    Appended work.module owner copied.module (copyDecl? markers work.module owner type.name)
      copy := by
  rcases copyInitializer_ok copies with
    ⟨absent, rfl, rfl⟩ | ⟨initializer, body, name, grown, id, found, hasBody, named, adds, rfl, rfl⟩
  · rw [copyDecl?_of_absent markers type.name absent]
    exact .nothing
  · rw [nameOf_eq declared] at named
    cases named
    rcases Option.bind_eq_some_iff.mp hasBody with ⟨routine, routineFound, bodied⟩
    have decl_eq : copyDecl? markers work.module owner type.name =
        some (Hook.addedRoutine markers (Names.initializerCopy type.name) body) :=
      copyDecl?_eq_some_iff.mpr ⟨initializer, routine, body, found, routineFound, bodied, rfl⟩
    rw [decl_eq]
    exact addRoutine_appended adds room

theorem addUnload_appended {unload : Option RoutineId}
    (adds : Hook.addUnload markers module candidate = .ok (after, unload))
    (sound : candidate.Sound module) (declared : module.type? candidate.type = some type)
    (room : module.routines.size < tableLimit) :
    Appended module candidate.type after (unloadDecl? markers type.name type.arity candidate)
      unload := by
  unfold Hook.addUnload at adds
  unfold unloadDecl?
  by_cases nothing : candidate.teardowns.isEmpty = true
  · rw [if_pos nothing] at adds ⊢
    cases adds
    exact .nothing
  · rw [if_neg nothing] at adds ⊢
    have calls := teardownCalls_eq sound declared
    simp only [calls, nameOf_eq declared, ok_bind, bind_eq_ok_iff, pure_eq_ok,
      Except.ok.injEq] at adds
    rcases adds with ⟨⟨grown, id⟩, adds, made⟩
    cases made
    exact addRoutine_appended adds room

theorem addLoad_appended {copy load : Option RoutineId}
    (adds : Hook.addLoad markers module candidate copy = .ok (after, load))
    (sound : candidate.Sound module) (declared : module.type? candidate.type = some type)
    (callable : ∀ id, copy = some id → ∃ routine, Callable module id routine 0 ∧
      routine.owner = candidate.type)
    (room : module.routines.size < tableLimit) :
    Appended module candidate.type after
      (loadDecl? markers module type.name type.arity candidate copy) load := by
  unfold Hook.addLoad at adds
  unfold loadDecl?
  by_cases nothing : (candidate.fields.isEmpty && copy.isNone) = true
  · rw [if_pos nothing] at adds ⊢
    cases adds
    exact .nothing
  · rw [if_neg nothing] at adds ⊢
    have resets := fieldResets_eq sound declared
    simp only [resets, callIfPresent_eq declared callable, nameOf_eq declared, ok_bind,
      bind_eq_ok_iff, pure_eq_ok, Except.ok.injEq] at adds
    rcases adds with ⟨⟨grown, id⟩, adds, made⟩
    cases made
    exact addRoutine_appended adds room

theorem ensureInitializer_appended {initializer : RoutineId}
    (ensures : Hook.ensureInitializer module owner = .ok (after, initializer))
    (room : module.routines.size < tableLimit) :
    ∃ made, Appended module owner after (madeDecl? module owner) made ∧
      IsInitializer module owner initializer made := by
  simp only [Hook.ensureInitializer, bind_eq_ok_iff] at ensures
  rcases ensures with ⟨found?, looks, ensures⟩
  have found := initializerOf_ok looks
  rcases found? with _ | present
  · rw [mapError_eq_ok_iff] at ensures
    have decl_eq : madeDecl? module owner = some (.typeInitializer .returning) := by
      simp [madeDecl?, found]
    rw [decl_eq]
    exact ⟨some initializer, .routine (addRoutine_added ensures room), .inr ⟨found, rfl⟩⟩
  · cases ensures
    have decl_eq : madeDecl? module owner = none := by
      simp [madeDecl?, found]
    rw [decl_eq]
    exact ⟨none, .nothing, .inl ⟨found, rfl⟩⟩

theorem rewireInitializer_changed {symbols : Option Symbols} {rewired : Workpiece}
    {copy load unload : Option RoutineId} {initializer : RoutineId}
    (rewires : Hook.rewireInitializer ⟨module, symbols⟩ owner dispatcher copy load unload =
      (rewired, .ok initializer))
    (declared : module.type? owner = some type)
    (callable : AllCallable module owner [copy, load, unload])
    (registrars : Registrars module dispatcher) (room : module.routines.size < tableLimit) :
    ∃ ensured made routine, Appended module owner ensured (madeDecl? module owner) made ∧
      IsInitializer module owner initializer made ∧
      ensured.routine? initializer = some routine ∧
      RoutineChanged ensured rewired.module initializer { routine with
        body := some (Hook.straightLine
          (wrapperLine type.arity dispatcher copy load unload)) } := by
  rcases rewireInitializer_ok rewires with ⟨ensured, body, routine, ensures, made_eq, found, rfl⟩
  rcases ensureInitializer_appended ensures room with ⟨made, appended, isInitializer⟩
  have grows := appended.grows
  rcases grows.types owner type declared with ⟨fields, routines, kept⟩
  rw [initializerBody_eq kept (callable.grow grows) (registrars.grow grows)] at made_eq
  cases made_eq
  exact ⟨ensured, made, routine, appended, isInitializer, found, setRoutine_changed found _⟩

/-- A type keeps its initializer when routines are appended to it that are no initializers. -/
theorem Appended.initializer_kept {routine? : Option RoutineDecl} {id? : Option RoutineId}
    (appended : Appended module owner after routine? id?) (added : AllAdded markers routine?)
    (declared : module.type? owner = some type) (owned : MembersOwned module) :
    after.initializer owner = module.initializer owner := by
  rcases initializer_of_owned owned owner with ⟨found?, found, _⟩
  rw [found]
  exact appended.initializer_eq declared added.isInitializer found

theorem Appended.type?_owner {routine? : Option RoutineDecl} {id? : Option RoutineId}
    (appended : Appended module owner after routine? id?)
    (declared : module.type? owner = some type) :
    ∃ routines, after.type? owner = some { type with routines } := by
  have lookup := appended.type?_eq owner
  rw [if_pos rfl, declared] at lookup
  exact ⟨_, lookup⟩

/-- A candidate that could be hooked was hooked. -/
theorem ofCandidate_hooked {work finished : Workpiece}
    (hooks : Hook.ofCandidate markers dispatcher work candidate = .ok (finished, hook))
    (owned : MembersOwned work.module)
    (declared : work.module.type? candidate.type = some type)
    (sound : candidate.Sound work.module) (registrars : Registrars work.module dispatcher)
    (room : work.module.routines.size + 4 ≤ tableLimit) :
    Hooked markers dispatcher work.module candidate type finished.module hook := by
  rcases ofCandidate_ok hooks with ⟨copied, copy, unloaded, unload, loaded, load, initializer,
    copies, unloads, loads, rewires, rfl⟩
  have copyAppended := copyInitializer_appended copies declared (by omega)
  have copyAdded := copyDecl?_added markers work.module candidate.type type.name
  have copiedOwned := copyAppended.membersOwned owned
  have copiedCount := copyAppended.routineCount_le
  rcases copyAppended.type?_owner declared with ⟨_, copiedDeclared⟩
  have unloadAppended := addUnload_appended unloads (sound.grow copyAppended.grows) copiedDeclared
    (by omega)
  have unloadAdded := unloadDecl?_added markers type.name type.arity candidate
  have unloadedOwned := unloadAppended.membersOwned copiedOwned
  have unloadedGrows := copyAppended.grows.trans unloadAppended.grows
  have unloadedCount := unloadAppended.routineCount_le
  rcases unloadAppended.type?_owner copiedDeclared with ⟨_, unloadedDeclared⟩
  have loadAppended := addLoad_appended loads (sound.grow unloadedGrows) unloadedDeclared
    (copyAppended.callable copyAdded unloadAppended.grows) (by omega)
  have loadAdded := loadDecl?_added markers unloaded type.name type.arity candidate copy
  have loadedCount := loadAppended.routineCount_le
  have loadedGrows := unloadedGrows.trans loadAppended.grows
  rcases loadAppended.type?_owner unloadedDeclared with ⟨_, loadedDeclared⟩
  have callable := allCallable_of_appended copyAppended unloadAppended loadAppended copyAdded
    unloadAdded loadAdded
  rcases rewireInitializer_changed rewires loadedDeclared callable (registrars.grow loadedGrows)
    (by omega) with ⟨ensured, made, routine, ensureAppended, isInitializer, found, changed⟩
  have initializer_eq : loaded.initializer candidate.type =
      work.module.initializer candidate.type := by
    rw [loadAppended.initializer_kept loadAdded unloadedDeclared unloadedOwned,
      unloadAppended.initializer_kept unloadAdded copiedDeclared copiedOwned,
      copyAppended.initializer_kept copyAdded declared owned]
  have fields_eq : unloaded.fields = work.module.fields :=
    unloadAppended.fields_eq.trans copyAppended.fields_eq
  rw [madeDecl?, initializer_eq] at ensureAppended
  rw [IsInitializer, initializer_eq] at isInitializer
  rw [loadDecl?_congr fields_eq] at loadAppended
  exact .intro rfl copyAppended unloadAppended loadAppended ensureAppended isInitializer found changed

theorem Hooked.membersOwned
    (hooked : Hooked markers dispatcher module candidate type after hook)
    (owned : MembersOwned module) : MembersOwned after := by
  cases hooked with
  | intro type_eq copy unload load ensure isInitializer found rewire =>
      have ensured := ensure.membersOwned (load.membersOwned (unload.membersOwned
        (copy.membersOwned owned)))
      exact ensured.routineChanged found rewire

/-- A module in which candidates were hooked one after the other. -/
inductive HookedEach (markers : Markers) (dispatcher : Dispatcher) :
    (module : Module) → List Candidate → (after : Module) → List Hook → Prop where
  | nil {module : Module} : HookedEach markers dispatcher module [] module []
  | cons {module middle after : Module} {candidate : Candidate} {candidates : List Candidate}
      {type : TypeDecl} {hook : Hook} {hooks : List Hook}
      (declared : module.type? candidate.type = some type)
      (first : Hooked markers dispatcher module candidate type middle hook)
      (others : HookedEach markers dispatcher middle candidates after hooks) :
      HookedEach markers dispatcher module (candidate :: candidates) after (hook :: hooks)

theorem HookedEach.grows {candidates : List Candidate} {hooks : List Hook}
    (hooked : HookedEach markers dispatcher module candidates after hooks) :
    Grows module after := by
  induction hooked with
  | nil => exact .refl _
  | cons _ first _ ih => exact first.grows.trans ih

theorem ofCandidates_hooked {candidates : List Candidate} {hooks : List Hook}
    {work finished : Workpiece}
    (succeeds : Hook.ofCandidates markers dispatcher work candidates = .ok (finished, hooks))
    (owned : MembersOwned work.module)
    (sound : ∀ candidate ∈ candidates, candidate.Sound work.module)
    (registrars : Registrars work.module dispatcher)
    (room : work.module.routines.size + 4 * candidates.length ≤ tableLimit) :
    HookedEach markers dispatcher work.module candidates finished.module hooks := by
  induction candidates generalizing work finished hooks with
  | nil =>
      cases succeeds
      exact .nil
  | cons candidate candidates ih =>
      rw [List.length_cons] at room
      rcases ofCandidates_cons_ok succeeds with ⟨_, _, _, first_eq, others_eq, rfl⟩
      have soundFirst := sound candidate List.mem_cons_self
      rcases soundFirst.declared with ⟨type, declared⟩
      have hooked := ofCandidate_hooked first_eq owned declared soundFirst registrars (by omega)
      have count := hooked.routineCount_le
      refine .cons declared hooked (ih others_eq (hooked.membersOwned owned) ?_
        (registrars.grow hooked.grows) (by omega))
      intro other listed
      exact (sound other (List.mem_cons_of_mem _ listed)).grow hooked.grows

/-! ### What is left alone -/

/-- A module in which a type and its routines are what they were. -/
structure Spared (owner : TypeId) (module after : Module) : Prop where
  grows : Grows module after
  type?_eq : after.type? owner = module.type? owner
  initializer_eq : after.initializer owner = module.initializer owner
  routines : ∀ id routine, module.routine? id = some routine → routine.owner = owner →
    after.routine? id = some routine

theorem Spared.refl (owner : TypeId) (module : Module) : Spared owner module module :=
  ⟨.refl module, rfl, rfl, fun _ _ found _ => found⟩

theorem Spared.trans (first : Spared owner module middle) (second : Spared owner middle after) :
    Spared owner module after := by
  refine ⟨first.grows.trans second.grows, second.type?_eq.trans first.type?_eq,
    second.initializer_eq.trans first.initializer_eq, ?_⟩
  intro id routine found owns
  exact second.routines id routine (first.routines id routine found owns) owns

theorem Dispatcher.Added.spared (added : Dispatcher.Added markers module after dispatcher)
    (owned : MembersOwned module) (declared : module.type? owner = some type) :
    Spared owner module after := by
  have kept := added.type?_of_declared declared
  refine ⟨added.grows, kept.trans declared.symm, ?_, ?_⟩
  · rcases initializer_of_owned owned owner with ⟨found?, found, _⟩
    rw [found]
    exact initializer_grow added.grows declared kept found
  · intro id routine found _
    exact added.routine?_of_declared found

/-- Hooking a type changes no routine of another type. -/
theorem Hooked.ne_initializer
    (hooked : Hooked markers dispatcher module candidate type after hook)
    (owned : MembersOwned module) {id : RoutineId} {routine : RoutineDecl}
    (found : module.routine? id = some routine) (apart : routine.owner ≠ candidate.type) :
    id ≠ hook.initializer := by
  rintro rfl
  rcases hooked.isInitializer with present | ⟨_, absent⟩
  · exact apart (owned_of_initializer owned present found).2
  · rw [found] at absent
    cases absent

theorem Hooked.spared (hooked : Hooked markers dispatcher module candidate type after hook)
    (owned : MembersOwned module) (apart : owner ≠ candidate.type) :
    Spared owner module after := by
  have type?_eq := hooked.type?_of_ne apart
  refine ⟨hooked.grows, type?_eq, ?_, ?_⟩
  · rcases initializer_of_owned owned owner with ⟨found?, found, _⟩
    rcases declared : module.type? owner with _ | other
    · simp only [initializer, type?_eq, declared]
    · rw [found]
      exact initializer_grow hooked.grows declared (type?_eq.trans declared) found
  · rintro id routine found rfl
    exact hooked.routine?_of_ne found (hooked.ne_initializer owned found apart)

theorem HookedEach.spared {candidates : List Candidate} {hooks : List Hook}
    (hooked : HookedEach markers dispatcher module candidates after hooks)
    (owned : MembersOwned module) (apart : ∀ candidate ∈ candidates, owner ≠ candidate.type) :
    Spared owner module after := by
  induction hooked with
  | nil => exact .refl owner _
  | cons declared first others ih =>
      have sparedFirst := first.spared owned (apart _ List.mem_cons_self)
      refine sparedFirst.trans (ih (first.membersOwned owned) ?_)
      intro other listed
      exact apart other (List.mem_cons_of_mem _ listed)

/-- What an initializer did before is what it does in a module that leaves its type alone. -/
theorem Spared.initializerBody?_eq (spared : Spared owner module after)
    (owned : MembersOwned module) :
    initializerBody? after owner = initializerBody? module owner := by
  rcases initializer_of_owned owned owner with ⟨found?, found, owns⟩
  simp only [initializerBody?, spared.initializer_eq, found]
  rcases found? with _ | initializer
  · rfl
  · rcases owns initializer rfl with ⟨routine, routineFound, _, isOwner⟩
    simp only [routineFound, spared.routines initializer routine routineFound isOwner]

theorem Spared.copyDecl?_eq (spared : Spared owner module after) (owned : MembersOwned module)
    (name : String) : copyDecl? markers after owner name = copyDecl? markers module owner name := by
  simp only [copyDecl?, spared.initializerBody?_eq owned]

theorem resetsOf_grow (grows : Grows module after) (sound : candidate.Sound module) (arity : Nat) :
    resetsOf after arity candidate = resetsOf module arity candidate := by
  simp only [resetsOf]
  congr 1
  apply List.map_congr_left
  intro found listed
  rcases sound.fields found listed with ⟨field, declared, _, _⟩
  simp only [resetOf, declared, grows.fields _ field declared]

theorem loadDecl?_grow (grows : Grows module after) (sound : candidate.Sound module)
    (name : String) (arity : Nat) (copy : Option RoutineId) :
    loadDecl? markers after name arity candidate copy =
      loadDecl? markers module name arity candidate copy := by
  simp only [loadDecl?, resetsOf_grow grows sound]

/-! ### Installed hooks -/

/-- A routine that stands in a module as it was declared for a type, if it was. -/
inductive Stands (module : Module) (owner : TypeId) :
    Option RoutineDecl → Option RoutineId → Prop where
  | nothing : Stands module owner none none
  | routine {declared : RoutineDecl} {id : RoutineId}
      (found : module.routine? id = some { declared with owner }) :
      Stands module owner (some declared) (some id)

theorem Stands.some_iff {routine? : Option RoutineDecl} {id : RoutineId}
    (stands : Stands module owner routine? (some id)) :
    ∃ routine, routine? = some routine ∧ module.routine? id = some { routine with owner } := by
  cases stands with
  | routine found => exact ⟨_, rfl, found⟩

/-- The initializer of a hooked type: what it was but for its body, or a new one. -/
inductive Wrapper (module : Module) (owner : TypeId) (id : RoutineId) : RoutineDecl → Prop where
  | kept {routine : RoutineDecl} (isInitializer : module.initializer owner = .ok (some id))
      (found : module.routine? id = some routine) : Wrapper module owner id routine
  | made (absent : module.initializer owner = .ok none) :
      Wrapper module owner id { RoutineDecl.typeInitializer .returning with owner }

/-- What a module has for a candidate that was hooked. -/
structure Installed (markers : Markers) (dispatcher : Dispatcher) (module : Module)
    (candidate : Candidate) (type : TypeDecl) (woven : Module) (hook : Hook) : Prop where
  type_eq : hook.type = candidate.type
  declared : ∃ routines, woven.type? candidate.type = some { type with routines }
  copy : Stands woven candidate.type (copyDecl? markers module candidate.type type.name)
    hook.initializerCopy
  unload : Stands woven candidate.type (unloadDecl? markers type.name type.arity candidate)
    hook.unload
  load : Stands woven candidate.type
    (loadDecl? markers module type.name type.arity candidate hook.initializerCopy) hook.load
  initializer_eq : woven.initializer candidate.type = .ok (some hook.initializer)
  wrapper : ∃ routine, Wrapper module candidate.type hook.initializer routine ∧
    woven.routine? hook.initializer =
      some { routine with body := some (wrapperBody type.arity dispatcher hook) }

theorem Appended.stands {routine? : Option RoutineDecl} {id? : Option RoutineId}
    (appended : Appended module owner middle routine? id?)
    (kept : ∀ id routine, id? = some id → middle.routine? id = some routine →
      after.routine? id = some routine) : Stands after owner routine? id? := by
  cases appended with
  | nothing => exact .nothing
  | @routine _ added id addition =>
      have found := addition.routine?_eq id
      rw [if_pos rfl] at found
      exact .routine (kept id _ rfl found)

theorem Hooked.installed (hooked : Hooked markers dispatcher module candidate type after hook)
    (owned : MembersOwned module) (declared : module.type? candidate.type = some type) :
    Installed markers dispatcher module candidate type after hook := by
  have initializer_eq := hooked.initializer_self declared
  have typeKept := hooked.type?_self declared
  cases hooked with
  | @intro copied unloaded loaded ensured _ _ made initializer type_eq copy unload load ensure
      isInitializer found rewire =>
      -- a routine that was appended earlier is not the initializer, which is older or newer
      have apart {id : RoutineId} (newer : module.routines.size ≤ id.position)
          (older : id.position < loaded.routines.size) : id ≠ hook.initializer := by
        rintro rfl
        rcases isInitializer with ⟨present, _⟩ | ⟨_, made_eq⟩
        · rcases exists_of_initializer owned present with ⟨other, otherFound, _, _⟩
          have inside := position_lt_of_routine? otherFound
          omega
        · have last := ensure.position_eq made_eq
          omega
      have keep {id : RoutineId} {routine : RoutineDecl}
          (newer : module.routines.size ≤ id.position)
          (present : loaded.routine? id = some routine) : after.routine? id = some routine := by
        rw [rewire.routine?_eq, if_neg (apart newer (position_lt_of_routine? present))]
        exact ensure.routine?_of_declared present
      have copiedCount := copy.routineCount
      have unloadedCount := unload.routineCount
      refine ⟨type_eq, typeKept, ?_, ?_, ?_, initializer_eq, ?_⟩
      · apply copy.stands
        intro id routine isCopy present
        apply keep (Nat.le_of_eq (copy.position_eq isCopy).symm)
        exact load.routine?_of_declared (unload.routine?_of_declared present)
      · apply unload.stands
        intro id routine isUnload present
        have place := unload.position_eq isUnload
        exact keep (by omega) (load.routine?_of_declared present)
      · apply load.stands
        intro id routine isLoad present
        have place := load.position_eq isLoad
        exact keep (by omega) present
      · refine ⟨initializer, ?_, ?_⟩
        · rcases isInitializer with ⟨present, _⟩ | ⟨absent, made_eq⟩
          · rcases exists_of_initializer owned present with ⟨other, otherFound, _, _⟩
            have kept := ensure.routine?_of_declared (load.routine?_of_declared
              (unload.routine?_of_declared (copy.routine?_of_declared otherFound)))
            rw [found] at kept
            cases kept
            exact .kept present otherFound
          · have some_eq : madeDecl? module candidate.type =
                some (.typeInitializer .returning) := by
              simp [madeDecl?, absent]
            have lookup := ensure.routine?_eq hook.initializer
            rw [made_eq, if_pos rfl, some_eq, found] at lookup
            cases lookup
            exact .made absent
        · rw [rewire.routine?_eq, if_pos rfl]

theorem Stands.spared {routine? : Option RoutineDecl} {id? : Option RoutineId}
    (stands : Stands middle owner routine? id?) (spared : Spared owner middle after) :
    Stands after owner routine? id? := by
  cases stands with
  | nothing => exact .nothing
  | routine found => exact .routine (spared.routines _ _ found rfl)

/-- What was installed stays when other types are hooked. -/
theorem Installed.spared (installed : Installed markers dispatcher module candidate type middle hook)
    (owned : MembersOwned module) (spared : Spared candidate.type middle after) :
    Installed markers dispatcher module candidate type after hook := by
  refine ⟨installed.type_eq, ?_, installed.copy.spared spared, installed.unload.spared spared,
    installed.load.spared spared, ?_, ?_⟩
  · rcases installed.declared with ⟨routines, declared⟩
    exact ⟨routines, spared.type?_eq.trans declared⟩
  · exact spared.initializer_eq.trans installed.initializer_eq
  · rcases installed.wrapper with ⟨routine, wrapper, found⟩
    refine ⟨routine, wrapper, spared.routines _ _ found ?_⟩
    cases wrapper with
    | kept isInitializer old => exact (owned_of_initializer owned isInitializer old).2
    | made => rfl

/-- What was installed is the same seen from before other types were hooked. -/
theorem Installed.since (installed : Installed markers dispatcher middle candidate type after hook)
    (owned : MembersOwned module) (sound : candidate.Sound module)
    (spared : Spared candidate.type module middle) :
    Installed markers dispatcher module candidate type after hook := by
  refine ⟨installed.type_eq, installed.declared, ?_, installed.unload, ?_,
    installed.initializer_eq, ?_⟩
  · rw [← spared.copyDecl?_eq owned]
    exact installed.copy
  · rw [← loadDecl?_grow spared.grows sound]
    exact installed.load
  · rcases installed.wrapper with ⟨routine, wrapper, found⟩
    refine ⟨routine, ?_, found⟩
    cases wrapper with
    | kept isInitializer kept =>
        rw [spared.initializer_eq] at isInitializer
        rcases exists_of_initializer owned isInitializer with ⟨other, otherFound, _, isOwner⟩
        have same := spared.routines _ _ otherFound isOwner
        rw [kept] at same
        cases same
        exact .kept isInitializer otherFound
    | made absent => exact .made (spared.initializer_eq.symm.trans absent)

/-- What a module has for each of the candidates that were hooked. -/
def AllInstalled (markers : Markers) (dispatcher : Dispatcher) (module woven : Module) :
    List Candidate → List Hook → Prop :=
  List.Forall₂ fun candidate hook => ∃ type, module.type? candidate.type = some type ∧
    Installed markers dispatcher module candidate type woven hook

theorem AllInstalled.since {candidates : List Candidate} {hooks : List Hook}
    (installed : AllInstalled markers dispatcher middle after candidates hooks)
    (owned : MembersOwned module) (sound : ∀ candidate ∈ candidates, candidate.Sound module)
    (spared : ∀ candidate ∈ candidates, Spared candidate.type module middle) :
    AllInstalled markers dispatcher module after candidates hooks := by
  unfold AllInstalled at installed ⊢
  induction installed with
  | nil => exact .nil
  | cons first others ih =>
      refine .cons ?_ (ih ?_ ?_)
      · rcases first with ⟨type, declared, first⟩
        have sparedFirst := spared _ List.mem_cons_self
        rw [sparedFirst.type?_eq] at declared
        exact ⟨type, declared, first.since owned (sound _ List.mem_cons_self) sparedFirst⟩
      · intro other listed
        exact sound other (List.mem_cons_of_mem _ listed)
      · intro other listed
        exact spared other (List.mem_cons_of_mem _ listed)

theorem HookedEach.installed {candidates : List Candidate} {hooks : List Hook}
    (hooked : HookedEach markers dispatcher module candidates after hooks)
    (owned : MembersOwned module) (sound : ∀ candidate ∈ candidates, candidate.Sound module)
    (distinct : (candidates.map (·.type)).Nodup) :
    AllInstalled markers dispatcher module after candidates hooks := by
  induction hooked with
  | nil => exact .nil
  | @cons module middle after candidate candidates type hook hooks declared first others ih =>
      rcases List.nodup_cons.mp distinct with ⟨fresh, distinctOthers⟩
      have apart : ∀ other ∈ candidates, other.type ≠ candidate.type := by
        intro other listed same
        exact fresh (List.mem_map.mpr ⟨other, listed, same⟩)
      have middleOwned := first.membersOwned owned
      have soundOthers : ∀ other ∈ candidates, other.Sound module :=
        fun other listed => sound other (List.mem_cons_of_mem _ listed)
      refine .cons ⟨type, declared, ?_⟩ ?_
      · apply (first.installed owned declared).spared owned
        apply others.spared middleOwned
        intro other listed same
        exact apart other listed same.symm
      · have installed := ih middleOwned
          (fun other listed => (soundOthers other listed).grow first.grows) distinctOthers
        apply AllInstalled.since installed owned soundOthers
        intro other listed
        exact first.spared owned (apart other listed)

theorem AllInstalled.of_hook {candidates : List Candidate} {hooks : List Hook}
    (installed : AllInstalled markers dispatcher module after candidates hooks)
    (listed : hook ∈ hooks) :
    ∃ candidate ∈ candidates, ∃ type, module.type? candidate.type = some type ∧
      Installed markers dispatcher module candidate type after hook := by
  unfold AllInstalled at installed
  induction installed with
  | nil => cases listed
  | cons first others ih =>
      rcases List.mem_cons.mp listed with rfl | later
      · exact ⟨_, List.mem_cons_self, first⟩
      · rcases ih later with ⟨candidate, isCandidate, found⟩
        exact ⟨candidate, List.mem_cons_of_mem _ isCandidate, found⟩

/-! ### The module as a whole -/

/-- A module that was made reloadable, with what was done to it. -/
structure Made (markers : Markers) (module : Module) (candidates : List Candidate)
    (instrumented : Instrumented) : Prop where
  valid : Valid module
  sound : ∀ candidate ∈ candidates, candidate.Sound module
  distinct : (candidates.map (·.type)).Nodup
  dispatched : ∃ dispatched, Dispatcher.Added markers module dispatched instrumented.dispatcher ∧
    HookedEach markers instrumented.dispatcher dispatched candidates instrumented.module
      instrumented.hooks

theorem instrument_made {settings : Settings} {symbols : Option Symbols} {survey : Survey}
    {instrumented : Instrumented}
    (makes : instrument settings module symbols = .ok (some instrumented))
    (surveyed : Survey.ofModule settings.markers module symbols = .ok survey)
    (room : Room module 1 2 (4 + 4 * survey.candidates.length)) :
    Made settings.markers module survey.candidates instrumented := by
  rcases instrument_passed makes with ⟨other, dispatched, passed⟩
  cases surveyed.symm.trans passed.surveyed
  have valid := checkModule_eq_ok_iff.mp passed.accepted
  have sound := Survey.candidates_sound valid surveyed
  rcases passed.dispatcher_added room with ⟨added, remaining⟩
  refine ⟨valid, sound, Survey.candidates_nodup surveyed, dispatched, added, ?_⟩
  apply ofCandidates_hooked passed.hooked (added.membersOwned valid.members)
  · intro candidate listed
    exact (sound candidate listed).grow added.grows
  · exact added.registrars
  · exact remaining

theorem Made.grows {candidates : List Candidate} {instrumented : Instrumented}
    (made : Made markers module candidates instrumented) : Grows module instrumented.module := by
  rcases made.dispatched with ⟨dispatched, added, hooked⟩
  exact added.grows.trans hooked.grows

/-- Every candidate of a module that was made reloadable is hooked as it asks for. -/
theorem Made.installed {candidates : List Candidate} {instrumented : Instrumented}
    (made : Made markers module candidates instrumented) :
    AllInstalled markers instrumented.dispatcher module instrumented.module candidates
      instrumented.hooks := by
  rcases made.dispatched with ⟨dispatched, added, hooked⟩
  have owned := made.valid.members
  have installed := hooked.installed (added.membersOwned owned)
    (fun candidate listed => (made.sound candidate listed).grow added.grows) made.distinct
  apply AllInstalled.since installed owned made.sound
  intro candidate listed
  rcases (made.sound candidate listed).declared with ⟨type, declared⟩
  exact added.spared owned declared

end Rekindle.Reload
