import Rekindle.Proofs.Reload.Dispatching
import Rekindle.Proofs.Reload.Passes
import Rekindle.Proofs.Reload.Rewiring

/-!
# Making a valid module reloadable

Hooking one candidate leaves every other type alone, so all candidates are hooked one after the
other. A valid module whose candidates have what it takes is therefore made reloadable, and what
comes out is valid whether or not it is checked.
-/

namespace Rekindle.Reload

open Fallible Validity Rekindle.Module

variable {markers : Markers} {module after : Module} {type : TypeDecl} {candidate : Candidate}
  {dispatcher : Dispatcher} {hook : Hook}

/-! ### What hooking a candidate leaves alone -/

theorem Hooked.type?_of_ne (hooked : Hooked markers dispatcher module candidate type after hook)
    {id : TypeId} (apart : id ≠ candidate.type) : after.type? id = module.type? id := by
  cases hooked with
  | intro type_eq copy unload load ensure isInitializer found rewire =>
      rw [type?, rewire.types_eq, ← type?, ensure.type?_eq, if_neg apart, load.type?_eq,
        if_neg apart, unload.type?_eq, if_neg apart, copy.type?_eq, if_neg apart]

theorem Hooked.routineCount_le
    (hooked : Hooked markers dispatcher module candidate type after hook) :
    after.routines.size ≤ module.routines.size + 4 := by
  cases hooked with
  | intro type_eq copy unload load ensure isInitializer found rewire =>
      have first := copy.routineCount_le
      have second := unload.routineCount_le
      have third := load.routineCount_le
      have fourth := ensure.routineCount_le
      have last := rewire.routineCount
      omega

theorem Hooked.initializer_of_ne
    (hooked : Hooked markers dispatcher module candidate type after hook) (valid : Valid module)
    {owner : TypeId} (apart : owner ≠ candidate.type) :
    after.initializer owner = module.initializer owner := by
  rcases initializer_of_valid valid owner with ⟨found?, found, _⟩
  rcases declared : module.type? owner with _ | other
  · have kept := hooked.type?_of_ne apart
    simp only [initializer, kept, declared]
  · rw [found]
    apply initializer_grow hooked.grows declared _ found
    rw [hooked.type?_of_ne apart]
    exact declared

/-- The initializer of another type was its initializer before, with the same signature. -/
theorem Hooked.initializer_before {owner : TypeId} {initializer : RoutineId} {routine : RoutineDecl}
    (hooked : Hooked markers dispatcher module candidate type after hook) (valid : Valid module)
    (apart : owner ≠ candidate.type) (found : after.initializer owner = .ok (some initializer))
    (routineFound : after.routine? initializer = some routine) :
    module.initializer owner = .ok (some initializer) ∧
      ∃ old body, module.routine? initializer = some old ∧ routine = { old with body } ∧
        (old.body.isSome → body.isSome) := by
  rw [hooked.initializer_of_ne valid apart] at found
  rcases exists_of_initializer valid.members found with ⟨old, oldFound, _, _⟩
  rcases hooked.grows.routines initializer old oldFound with ⟨body, kept, stays⟩
  rw [routineFound] at kept
  exact ⟨found, old, body, oldFound, Option.some.inj kept, stays⟩

theorem Ready.hooked {other : Candidate} {otherType : TypeDecl}
    (ready : Ready dispatcher other otherType module)
    (hooked : Hooked markers dispatcher module candidate type after hook)
    (apart : other.type ≠ candidate.type) (valid : Valid after) :
    Ready dispatcher other otherType after := by
  have grows := hooked.grows
  refine ⟨valid, ?_, ready.sound.grow grows, ⟨?_, ?_⟩, ready.registrars.grow grows⟩
  · rw [hooked.type?_of_ne apart]
    exact ready.declared
  · rw [hooked.type?_of_ne apart]
    exact ready.hookable.arity_le
  · intro initializer routine found routineFound
    rcases hooked.initializer_before ready.valid apart found routineFound with
      ⟨before, old, _, oldFound, rfl, _⟩
    exact ready.hookable.initializer initializer old before oldFound

theorem InitializerRuns.hooked {other : Candidate} (runs : InitializerRuns module other.type)
    (hooked : Hooked markers dispatcher module candidate type after hook)
    (apart : other.type ≠ candidate.type) (valid : Valid module) :
    InitializerRuns after other.type := by
  intro initializer routine found routineFound
  rcases hooked.initializer_before valid apart found routineFound with
    ⟨before, old, _, oldFound, rfl, stays⟩
  exact stays (runs initializer old before oldFound)

/-! ### All candidates -/

/-- A module in which candidates were hooked one after the other. -/
inductive HookedAll (markers : Markers) (dispatcher : Dispatcher) :
    (module : Module) → List Candidate → (after : Module) → List Hook → Prop where
  | nil {module : Module} : HookedAll markers dispatcher module [] module []
  | cons {module middle after : Module} {candidate : Candidate} {candidates : List Candidate}
      {type : TypeDecl} {hook : Hook} {hooks : List Hook}
      (declared : module.type? candidate.type = some type)
      (first : Hooked markers dispatcher module candidate type middle hook)
      (stillValid : Valid middle)
      (others : HookedAll markers dispatcher middle candidates after hooks) :
      HookedAll markers dispatcher module (candidate :: candidates) after (hook :: hooks)

/-- Candidates of different types that all have what it takes. -/
structure AllReady (dispatcher : Dispatcher) (module : Module) (candidates : List Candidate) :
    Prop where
  valid : Valid module
  distinct : (candidates.map (·.type)).Nodup
  ready : ∀ candidate ∈ candidates, ∃ type, module.type? candidate.type = some type ∧
    Ready dispatcher candidate type module

section AllReady

variable {candidates : List Candidate}

theorem AllReady.first (allReady : AllReady dispatcher module (candidate :: candidates)) :
    ∃ type, module.type? candidate.type = some type ∧ Ready dispatcher candidate type module :=
  allReady.ready candidate List.mem_cons_self

theorem AllReady.apart (allReady : AllReady dispatcher module (candidate :: candidates)) :
    ∀ other ∈ candidates, other.type ≠ candidate.type := by
  rcases List.nodup_cons.mp allReady.distinct with ⟨fresh, _⟩
  intro other listed same
  apply fresh
  exact List.mem_map.mpr ⟨other, listed, same⟩

/-- Hooking the first candidate takes nothing from the others. -/
theorem AllReady.hooked (allReady : AllReady dispatcher module (candidate :: candidates))
    (hooked : Hooked markers dispatcher module candidate type after hook) (valid : Valid after) :
    AllReady dispatcher after candidates := by
  rcases List.nodup_cons.mp allReady.distinct with ⟨_, distinct⟩
  refine ⟨valid, distinct, ?_⟩
  intro other listed
  have apart := allReady.apart other listed
  rcases allReady.ready other (List.mem_cons_of_mem _ listed) with ⟨otherType, found, ready⟩
  refine ⟨otherType, ?_, ready.hooked hooked apart valid⟩
  rw [hooked.type?_of_ne apart]
  exact found

end AllReady

theorem ofCandidates_succeeds (markers : Markers) {candidates : List Candidate} {work : Workpiece}
    (allReady : AllReady dispatcher work.module candidates)
    (runs : ∀ candidate ∈ candidates, InitializerRuns work.module candidate.type)
    (room : work.module.routines.size + 4 * candidates.length ≤ tableLimit) :
    ∃ finished hooks,
      Hook.ofCandidates markers dispatcher work candidates = .ok (finished, hooks) ∧
      HookedAll markers dispatcher work.module candidates finished.module hooks ∧
      Valid finished.module := by
  induction candidates generalizing work with
  | nil => exact ⟨work, [], rfl, .nil, allReady.valid⟩
  | cons candidate candidates ih =>
      rw [List.length_cons] at room
      rcases allReady.first with ⟨type, declared, readyFirst⟩
      have runsFirst := runs candidate List.mem_cons_self
      rcases ofCandidate_succeeds markers readyFirst runsFirst (by omega) with
        ⟨middle, hook, first_eq, hooked, middleValid⟩
      have count := hooked.routineCount_le
      have runsOthers : ∀ other ∈ candidates, InitializerRuns middle.module other.type := by
        intro other listed
        have apart := allReady.apart other listed
        exact (runs other (List.mem_cons_of_mem _ listed)).hooked hooked apart allReady.valid
      rcases ih (allReady.hooked hooked middleValid) runsOthers (by omega) with
        ⟨finished, hooks, others_eq, hookedOthers, finishedValid⟩
      refine ⟨finished, hook :: hooks, ?_, .cons declared hooked middleValid hookedOthers,
        finishedValid⟩
      simp only [Hook.ofCandidates, first_eq, others_eq, ok_bind, pure_eq_ok]

/-! ### The module as a whole -/

theorem Dispatcher.Added.registrars (added : Dispatcher.Added markers module after dispatcher) :
    Registrars after dispatcher := by
  refine ⟨?_⟩
  rintro id (rfl | rfl)
  · exact ⟨_, _, ⟨added.routine?_registerLoad, rfl, rfl, rfl, rfl⟩, added.type?_type, rfl⟩
  · exact ⟨_, _, ⟨added.routine?_registerUnload, rfl, rfl, rfl, rfl⟩, added.type?_type, rfl⟩

/-- The initializer of a type of the module was its initializer before. -/
theorem Dispatcher.Added.initializer_before {initializer : RoutineId} {routine : RoutineDecl}
    (added : Dispatcher.Added markers module after dispatcher) (valid : Valid module)
    (sound : candidate.Sound module)
    (found : after.initializer candidate.type = .ok (some initializer))
    (routineFound : after.routine? initializer = some routine) :
    module.initializer candidate.type = .ok (some initializer) ∧
      module.routine? initializer = some routine := by
  rcases sound.declared with ⟨type, declared⟩
  rcases initializer_of_valid valid candidate.type with ⟨found?, before, owned⟩
  have kept := added.type?_of_declared declared
  rw [initializer_grow added.grows declared kept before] at found
  cases found
  rcases owned initializer rfl with ⟨old, oldFound, _, _⟩
  rw [added.routine?_of_declared oldFound] at routineFound
  cases routineFound
  exact ⟨before, oldFound⟩

theorem Dispatcher.Added.ready (added : Dispatcher.Added markers module after dispatcher)
    (valid : Valid module) (sound : candidate.Sound module)
    (hookable : Hookable module candidate.type) :
    ∃ type, after.type? candidate.type = some type ∧
      Ready dispatcher candidate type after := by
  rcases sound.declared with ⟨type, declared⟩
  have kept := added.type?_of_declared declared
  refine ⟨type, kept, added.valid valid, ⟨type.routines, kept⟩, sound.grow added.grows, ⟨?_, ?_⟩,
    added.registrars⟩
  · rw [kept, ← declared]
    exact hookable.arity_le
  · intro initializer routine found routineFound
    rcases added.initializer_before valid sound found routineFound with ⟨before, oldFound⟩
    exact hookable.initializer initializer routine before oldFound

theorem Dispatcher.Added.runs (added : Dispatcher.Added markers module after dispatcher)
    (valid : Valid module) (sound : candidate.Sound module)
    (runs : InitializerRuns module candidate.type) : InitializerRuns after candidate.type := by
  intro initializer routine found routineFound
  rcases added.initializer_before valid sound found routineFound with ⟨before, oldFound⟩
  exact runs initializer routine before oldFound

theorem Dispatcher.Added.allReady {survey : Survey} {symbols : Option Symbols}
    (added : Dispatcher.Added markers module after dispatcher) (valid : Valid module)
    (surveyed : Survey.ofModule markers module symbols = .ok survey)
    (hookable : ∀ candidate ∈ survey.candidates, Hookable module candidate.type) :
    AllReady dispatcher after survey.candidates := by
  refine ⟨added.valid valid, Survey.candidates_nodup surveyed, ?_⟩
  intro candidate listed
  have sound := Survey.candidates_sound valid surveyed candidate listed
  exact added.ready valid sound (hookable candidate listed)

/-- With the dispatcher in place, there is still room for what the candidates are given. -/
theorem Passed.dispatcher_added {settings : Settings} {symbols : Option Symbols} {survey : Survey}
    {dispatched : Module} {instrumented : Instrumented}
    (passed : Passed settings module symbols survey dispatched instrumented)
    (room : Room module 1 2 (4 + 4 * survey.candidates.length)) :
    Dispatcher.Added settings.markers module dispatched instrumented.dispatcher ∧
      dispatched.routines.size + 4 * survey.candidates.length ≤ tableLimit := by
  have routineRoom := room.routines_le
  rcases Dispatcher.addTo_added passed.added ⟨room.types_le, room.fields_le, by omega⟩ with
    ⟨_, added⟩
  have count := added.routineCount
  exact ⟨added, by omega⟩

/-- Every pass succeeds on a valid module whose candidates have what it takes, and the module stays
valid. -/
theorem exists_passed {settings : Settings} {symbols : Option Symbols} {survey : Survey}
    (usable : settings.fault? = none) (valid : Valid module)
    (surveyed : Survey.ofModule settings.markers module symbols = .ok survey)
    (candid : survey.candidates ≠ [])
    (absent : module.findType Names.dispatcher = none)
    (hookable : ∀ candidate ∈ survey.candidates, Hookable module candidate.type)
    (runs : ∀ candidate ∈ survey.candidates, InitializerRuns module candidate.type)
    (room : Room module 1 2 (4 + 4 * survey.candidates.length)) :
    ∃ instrumented dispatched, Passed settings module symbols survey dispatched instrumented ∧
      Valid instrumented.module := by
  have sound := Survey.candidates_sound valid surveyed
  have routineRoom := room.routines_le
  have dispatcherRoom : Room module 1 2 4 := ⟨room.types_le, room.fields_le, by omega⟩
  rcases Dispatcher.addTo_succeeds settings.markers absent dispatcherRoom with
    ⟨dispatched, dispatcher, added_eq, added⟩
  have count := added.routineCount
  have dispatchedRuns : ∀ candidate ∈ survey.candidates,
      InitializerRuns dispatched candidate.type := by
    intro candidate listed
    exact added.runs valid (sound candidate listed) (runs candidate listed)
  have allReady : AllReady dispatcher (Workpiece.mk dispatched symbols).module survey.candidates :=
    added.allReady valid surveyed hookable
  rcases ofCandidates_succeeds settings.markers allReady dispatchedRuns
    (by show dispatched.routines.size + _ ≤ _; omega) with
    ⟨finished, hooks, hooks_eq, _, finishedValid⟩
  refine ⟨⟨finished.module, finished.symbols, dispatcher, hooks, survey.diagnostics⟩, dispatched,
    ?_, finishedValid⟩
  exact {
    usable, surveyed, candid
    nested := checkNesting_eq_ok_iff.mpr valid.nesting
    accepted := checkModule_eq_ok_iff.mpr valid
    added := added_eq
    hooked := hooks_eq
    checked := fun _ => checkModule_eq_ok_iff.mpr finishedValid
    diagnostics := rfl }

/-- A valid module whose candidates have what it takes is made reloadable and stays valid. -/
theorem instrument_succeeds {settings : Settings} {symbols : Option Symbols} {survey : Survey}
    (usable : settings.fault? = none) (accepted : checkModule module = .ok ())
    (surveyed : Survey.ofModule settings.markers module symbols = .ok survey)
    (some_candidate : survey.candidates ≠ [])
    (absent : module.findType Names.dispatcher = none)
    (hookable : ∀ candidate ∈ survey.candidates, Hookable module candidate.type)
    (runs : ∀ candidate ∈ survey.candidates, InitializerRuns module candidate.type)
    (room : Room module 1 2 (4 + 4 * survey.candidates.length)) :
    ∃ instrumented, instrument settings module symbols = .ok (some instrumented) ∧
      checkModule instrumented.module = .ok () := by
  have valid := checkModule_eq_ok_iff.mp accepted
  rcases exists_passed usable valid surveyed some_candidate absent hookable runs room with
    ⟨instrumented, dispatched, passed, stillValid⟩
  exact ⟨instrumented, passed.makes, checkModule_eq_ok_iff.mpr stillValid⟩

end Rekindle.Reload

/-! ### A generic type with an initializer and a teardown routine -/

namespace Rekindle.Reload.Cache

open Validity

def type : TypeDecl :=
  { TypeDecl.named "Cache" with
    parameters := ["T"]
    attributes := [.bare Settings.standard.markers.reloadOnEnter]
    routines := [⟨0⟩, ⟨1⟩] }

def clear : RoutineDecl :=
  { RoutineDecl.static "clear" .void .returning with
    attributes := [.bare Settings.standard.markers.runBeforeReload] }

/-- A module with one generic type that has an initializer and a teardown routine. -/
def module : Module where
  name := "app"
  identity := Vector.replicate 16 0
  references := []
  types := #[type]
  fields := #[]
  routines := #[RoutineDecl.typeInitializer .returning, clear]
  topLevel := [⟨0⟩]

def candidate : Candidate where
  type := ⟨0⟩
  fullName := "Cache"
  fields := []
  teardowns := [{ routine := ⟨1⟩, name := "clear", order := 0 }]

theorem surveyed : Survey.ofModule Settings.standard.markers module none =
    .ok { candidates := [candidate], diagnostics := [], visited := 1 } := by cbv

theorem hookable : Hookable module candidate.type := by
  have found : module.initializer candidate.type = .ok (some ⟨0⟩) := by decide
  exact .of_initializer rfl (by decide) found rfl rfl rfl

theorem runs : InitializerRuns module candidate.type := by
  intro initializer routine found routineFound
  have first : module.initializer candidate.type = .ok (some ⟨0⟩) := by decide
  rw [first] at found
  cases found
  cases routineFound
  rfl

theorem instrument_succeeds_generic :
    ∃ instrumented, instrument Settings.standard module none = .ok (some instrumented) ∧
      checkModule instrumented.module = .ok () :=
  instrument_succeeds (by decide) (by cbv) surveyed (by simp) (by cbv) (by simpa using hookable)
    (by simpa using runs) (by constructor <;> decide)

end Rekindle.Reload.Cache
