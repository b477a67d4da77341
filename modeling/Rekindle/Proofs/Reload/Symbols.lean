import Rekindle.Proofs.Reload.Touching
import Rekindle.Proofs.Symbols.Points

/-!
# Symbols through the passes

Hooking a type moves the sequence points of its initializer to the copy and leaves the initializer
with none. The handles of different hooks are different, so what one hook does to the symbols no
other undoes.
-/

namespace Rekindle.Reload

open Fallible Validity Rekindle.Module

variable {markers : Markers} {module middle after : Module} {dispatcher : Dispatcher}
  {candidate : Candidate} {type : TypeDecl} {hook : Hook} {candidates : List Candidate}
  {hooks : List Hook}

namespace Hook

/-- What hooking a type does to debug symbols. -/
def follow (symbols : Symbols) (hook : Hook) : Symbols :=
  match hook.initializerCopy with
  | some copy => (symbols.copyRoutine hook.initializer copy).clearRoutine hook.initializer
  | none => symbols.clearRoutine hook.initializer

/-- The routines of a hook. -/
def routines (hook : Hook) : List RoutineId := hook.initializer :: hook.added.filterMap id

theorem mem_routines {id : RoutineId} :
    id ∈ hook.routines ↔ id = hook.initializer ∨ some id ∈ hook.added := by
  simp [routines]

theorem apart_of_foreign {id : RoutineId} (foreign : id ∉ hook.routines) :
    id ≠ hook.initializer ∧ hook.initializerCopy ≠ some id := by
  rw [mem_routines, not_or, mem_added, not_or] at foreign
  exact ⟨foreign.1, foreign.2.1⟩

theorem follow_fields (symbols : Symbols) (hook : Hook) :
    (follow symbols hook).fields = symbols.fields := by
  unfold follow
  split <;> simp [Symbols.clearRoutine]

theorem follow_apart {symbols : Symbols} {id : RoutineId} (notInitializer : id ≠ hook.initializer)
    (notCopy : hook.initializerCopy ≠ some id) :
    (follow symbols hook).points id = symbols.points id := by
  unfold follow
  split
  · next copy isCopy =>
      have apart : id ≠ copy := fun same => notCopy (same ▸ isCopy)
      simp [notInitializer, apart]
  · simp [notInitializer]

theorem follow_initializer (symbols : Symbols) (hook : Hook) :
    (follow symbols hook).points hook.initializer = [] := by
  unfold follow
  split <;> simp

theorem follow_copy {symbols : Symbols} {copy : RoutineId}
    (isCopy : hook.initializerCopy = some copy) (apart : copy ≠ hook.initializer) :
    (follow symbols hook).points copy = symbols.points hook.initializer := by
  simp [follow, isCopy, apart]

/-! ### Any number of hooks -/

theorem foldl_fields (hooks : List Hook) (symbols : Symbols) :
    (hooks.foldl follow symbols).fields = symbols.fields := by
  induction hooks generalizing symbols with
  | nil => rfl
  | cons hook hooks ih => rw [List.foldl_cons, ih, follow_fields]

/-- A routine that is neither an initializer nor a copy keeps its points. -/
theorem foldl_apart {symbols : Symbols} {id : RoutineId}
    (apart : ∀ hook ∈ hooks, id ≠ hook.initializer ∧ hook.initializerCopy ≠ some id) :
    (hooks.foldl follow symbols).points id = symbols.points id := by
  induction hooks generalizing symbols with
  | nil => rfl
  | cons hook hooks ih =>
      rcases List.forall_mem_cons.mp apart with ⟨⟨notInitializer, notCopy⟩, others⟩
      rw [List.foldl_cons, ih others, follow_apart notInitializer notCopy]

/-- Hooks no routine of which is a routine of another or has two parts in one. -/
def Separate (hooks : List Hook) : Prop := (hooks.flatMap routines).Nodup

theorem Separate.split {before later : List Hook} (separate : Separate (before ++ hook :: later)) :
    hook.routines.Nodup ∧ ∀ id ∈ hook.routines, ∀ other ∈ before ++ later, id ∉ other.routines := by
  rw [Separate, List.flatMap_append, List.flatMap_cons] at separate
  rcases List.nodup_append.mp separate with ⟨_, rest, beforeApart⟩
  rcases List.nodup_append.mp rest with ⟨own, _, laterApart⟩
  refine ⟨own, ?_⟩
  intro id listed other isOther shared
  rcases List.mem_append.mp isOther with isBefore | isLater
  · exact beforeApart id (List.mem_flatMap_of_mem isBefore shared) id
      (List.mem_append_left _ listed) rfl
  · exact laterApart id listed id (List.mem_flatMap_of_mem isLater shared) rfl

theorem Separate.own (separate : Separate hooks) (isHook : hook ∈ hooks) : hook.routines.Nodup :=
  (List.nodup_flatMap.mp separate).1 hook isHook

theorem ne_initializer (nodup : hook.routines.Nodup) {id : RoutineId}
    (isAdded : some id ∈ hook.added) : id ≠ hook.initializer := by
  rintro rfl
  exact (List.nodup_cons.mp nodup).1 (by simpa using isAdded)

theorem copy_apart (nodup : hook.routines.Nodup) {id : RoutineId}
    (isHooked : hook.load = some id ∨ hook.unload = some id) : hook.initializerCopy ≠ some id := by
  intro isCopy
  have others := (List.nodup_cons.mp nodup).2
  rcases isHooked with isLoad | isUnload
  · simp [added, isCopy, isLoad] at others
  · simp only [added, isCopy, isUnload] at others
    rcases hook.load with _ | load <;> simp at others

/-- What a hook does to a routine of its own is what all hooks together do to it. -/
theorem Separate.foldl_own (separate : Separate hooks) (isHook : hook ∈ hooks)
    (symbols : Symbols) :
    ∃ earlier : Symbols, (∀ id ∈ hook.routines, earlier.points id = symbols.points id) ∧
      ∀ id ∈ hook.routines,
        (hooks.foldl follow symbols).points id = (follow earlier hook).points id := by
  rcases List.append_of_mem isHook with ⟨before, later, rfl⟩
  rcases separate.split with ⟨_, apart⟩
  have spare : ∀ id ∈ hook.routines, ∀ other ∈ before ++ later,
      id ≠ other.initializer ∧ other.initializerCopy ≠ some id := by
    exact fun id listed other isOther => apart_of_foreign (apart id listed other isOther)
  refine ⟨before.foldl follow symbols, ?_, ?_⟩
  · intro id listed
    apply foldl_apart
    intro other isBefore
    exact spare id listed other (List.mem_append_left _ isBefore)
  · intro id listed
    rw [List.foldl_append, List.foldl_cons]
    apply foldl_apart
    intro other isLater
    exact spare id listed other (List.mem_append_right _ isLater)

end Hook

/-! ### The routines of hooks are different ones -/

theorem Hooked.fresh (hooked : Hooked markers dispatcher module candidate type after hook) :
    ∀ id, some id ∈ hook.added → module.routine? id = none := by
  intro id listed
  cases hooked with
  | @intro copied unloaded _ _ _ _ _ _ _ copy unload load _ _ _ _ =>
      have copiedCount := copy.routineCount
      have unloadedCount := unload.routineCount
      have last : module.routines.size ≤ id.position := by
        rcases Hook.mem_added.mp listed with isCopy | isLoad | isUnload
        · exact Nat.le_of_eq (copy.position_eq isCopy).symm
        · have place := load.position_eq isLoad
          omega
        · have place := unload.position_eq isUnload
          omega
      rw [routine?, Array.getElem?_eq_none_iff]
      exact last

theorem Hooked.added_nodup (hooked : Hooked markers dispatcher module candidate type after hook) :
    (hook.added.filterMap id).Nodup := by
  cases hooked with
  | @intro copied unloaded _ _ _ _ _ _ _ copy unload load _ _ _ _ =>
      have copiedCount := copy.routineCount
      have unloadedCount := unload.routineCount
      have copyUnload : ∀ id other, hook.initializerCopy = some id → hook.unload = some other →
          id ≠ other := by
        rintro id _ isCopy isUnload rfl
        have first := copy.position_eq isCopy
        have second := unload.position_eq isUnload
        simp only [isCopy, Option.toList_some, List.length_singleton] at copiedCount
        omega
      have copyLoad : ∀ id other, hook.initializerCopy = some id → hook.load = some other →
          id ≠ other := by
        rintro id _ isCopy isLoad rfl
        have first := copy.position_eq isCopy
        have second := load.position_eq isLoad
        simp only [isCopy, Option.toList_some, List.length_singleton] at copiedCount
        omega
      have loadUnload : ∀ id other, hook.load = some id → hook.unload = some other →
          id ≠ other := by
        rintro id _ isLoad isUnload rfl
        have first := unload.position_eq isUnload
        have second := load.position_eq isLoad
        simp only [isUnload, Option.toList_some, List.length_singleton] at unloadedCount
        omega
      rcases isCopy : hook.initializerCopy with _ | copyId <;>
        rcases isLoad : hook.load with _ | loadId <;>
        rcases isUnload : hook.unload with _ | unloadId <;>
        simp_all [Hook.added]

section Hooks

variable (hooked : HookedEach markers dispatcher module candidates after hooks)
include hooked

theorem HookedEach.membersOwned (owned : MembersOwned module) : MembersOwned after := by
  induction hooked with
  | nil => exact owned
  | cons declared first others ih => exact ih (first.membersOwned owned)

theorem HookedEach.fresh :
    ∀ hook ∈ hooks, ∀ id, some id ∈ hook.added → module.routine? id = none := by
  induction hooked with
  | nil => exact List.forall_mem_nil _
  | cons declared first others ih =>
      refine List.forall_mem_cons.mpr ⟨first.fresh, ?_⟩
      intro hook isHook id listed
      rcases found : Module.routine? _ id with _ | routine
      · rfl
      · rcases first.grows.routines id routine found with ⟨body, kept, _⟩
        rw [ih hook isHook id listed] at kept
        cases kept

theorem HookedEach.added_nodup : ∀ hook ∈ hooks, (hook.added.filterMap id).Nodup := by
  induction hooked with
  | nil => exact List.forall_mem_nil _
  | cons declared first others ih => exact List.forall_mem_cons.mpr ⟨first.added_nodup, ih⟩

end Hooks

/-- In the finished module, a routine of a hook belongs to the hooked type, and only one of them is
an initializer. -/
theorem Installed.owns (installed : Installed markers dispatcher module candidate type after hook)
    (owned : MembersOwned after) {id : RoutineId} (listed : id ∈ hook.routines) :
    ∃ routine, after.routine? id = some routine ∧ routine.owner = hook.type ∧
      (id = hook.initializer ↔ routine.isInitializer = true) := by
  rw [installed.type_eq]
  rcases exists_of_initializer owned installed.initializer_eq with
    ⟨initializer, initializerFound, isInitializer, itsOwner⟩
  rcases Hook.mem_routines.mp listed with rfl | isAdded
  · exact ⟨initializer, initializerFound, itsOwner, by simp [isInitializer]⟩
  · rcases installed.added id isAdded with ⟨routine, calls, owner_eq, plain⟩
    refine ⟨routine, calls.declared, owner_eq, ?_⟩
    rw [plain]
    refine ⟨?_, nofun⟩
    rintro rfl
    rw [calls.declared] at initializerFound
    cases initializerFound
    rw [plain] at isInitializer
    cases isInitializer

theorem Made.owns {instrumented : Instrumented} (made : Made markers module candidates instrumented)
    (isHook : hook ∈ instrumented.hooks) {id : RoutineId} (listed : id ∈ hook.routines) :
    ∃ routine, instrumented.module.routine? id = some routine ∧ routine.owner = hook.type ∧
      (id = hook.initializer ↔ routine.isInitializer = true) := by
  rcases made.dispatched with ⟨dispatched, added, hooked⟩
  rcases made.installed.of_hook isHook with ⟨candidate, _, type, _, installed⟩
  exact installed.owns (hooked.membersOwned (added.membersOwned made.valid.members)) listed

theorem Made.separate {instrumented : Instrumented}
    (made : Made markers module candidates instrumented) : Hook.Separate instrumented.hooks := by
  rcases made.dispatched with ⟨dispatched, added, hooked⟩
  refine List.nodup_flatMap.mpr ⟨?_, ?_⟩
  · intro hook isHook
    refine List.nodup_cons.mpr ⟨?_, hooked.added_nodup hook isHook⟩
    intro isAdded
    have added : some hook.initializer ∈ hook.added := by simpa using isAdded
    rcases made.installed.of_hook isHook with ⟨candidate, _, type, _, installed⟩
    rcases installed.added _ added with ⟨plain, calls, _, notInitializer⟩
    rcases made.owns isHook (Hook.mem_routines.mpr (.inl rfl)) with ⟨routine, found, _, fits⟩
    rw [calls.declared] at found
    cases found
    rw [fits.mp rfl] at notInitializer
    cases notInitializer
  · have distinct : (instrumented.hooks.map (·.type)).Nodup := hooked.types_eq ▸ made.distinct
    refine (List.pairwise_map.mp distinct).imp_of_mem ?_
    intro hook other isHook isOther apart id listed shared
    rcases made.owns isHook listed with ⟨routine, found, owner_eq, _⟩
    rcases made.owns isOther shared with ⟨same, sameFound, sameOwner, _⟩
    rw [found] at sameFound
    cases sameFound
    exact apart (owner_eq.symm.trans sameOwner)

/-! ### What the passes do to symbols -/

theorem copyInitializer_symbols {work copied : Workpiece} {copy : Option RoutineId}
    {owner : TypeId} (copies : Hook.copyInitializer markers work owner = .ok (copied, copy)) :
    (copy = none ∧ copied.symbols = work.symbols) ∨
    ∃ source target, work.module.initializer owner = .ok (some source) ∧ copy = some target ∧
      copied.symbols = work.symbols.map fun symbols => symbols.copyRoutine source target := by
  rcases copyInitializer_ok copies with
    ⟨_, rfl, rfl⟩ | ⟨source, _, _, _, target, found, _, _, _, rfl, rfl⟩
  · exact .inl ⟨rfl, rfl⟩
  · exact .inr ⟨source, target, found, rfl, rfl⟩

theorem rewireInitializer_symbols {work rewired : Workpiece} {owner : TypeId}
    {copy load unload : Option RoutineId} {initializer : RoutineId}
    (rewires : Hook.rewireInitializer work owner dispatcher copy load unload =
      (rewired, .ok initializer)) :
    rewired.symbols = work.symbols.map fun symbols => symbols.clearRoutine initializer := by
  rcases rewireInitializer_ok rewires with ⟨_, _, _, _, _, _, rfl⟩
  rfl

theorem ofCandidate_symbols {work finished : Workpiece}
    (hooks : Hook.ofCandidate markers dispatcher work candidate = .ok (finished, hook))
    (hooked : Hooked markers dispatcher work.module candidate type finished.module hook) :
    finished.symbols = work.symbols.map (Hook.follow · hook) := by
  rcases ofCandidate_ok hooks with
    ⟨_, _, _, _, _, _, initializer, copies, _, _, rewires, rfl⟩
  rw [rewireInitializer_symbols rewires]
  rcases copyInitializer_symbols copies with ⟨rfl, same⟩ | ⟨source, target, had, rfl, same⟩
  · simp only [same]
    rfl
  · -- The initializer that was copied is the one that was rewired.
    have isSource : source = initializer := by
      rcases hooked.isInitializer with present | ⟨absent, _⟩
      · rw [present] at had
        cases had
        rfl
      · rw [absent] at had
        cases had
    simp only [same, Option.map_map, isSource]
    rfl

theorem ofCandidates_symbols {work finished : Workpiece}
    (succeeds : Hook.ofCandidates markers dispatcher work candidates = .ok (finished, hooks))
    (owned : MembersOwned work.module)
    (sound : ∀ candidate ∈ candidates, candidate.Sound work.module)
    (registrars : Registrars work.module dispatcher)
    (room : work.module.routines.size + 4 * candidates.length ≤ tableLimit) :
    finished.symbols = work.symbols.map fun symbols => hooks.foldl Hook.follow symbols := by
  induction candidates generalizing work finished hooks with
  | nil =>
      cases succeeds
      simp
  | cons candidate candidates ih =>
      rw [List.length_cons] at room
      rcases ofCandidates_cons_ok succeeds with ⟨middle, _, _, first_eq, others_eq, rfl⟩
      have soundFirst := sound candidate List.mem_cons_self
      rcases soundFirst.declared with ⟨type, declared⟩
      have hooked := ofCandidate_hooked first_eq owned declared soundFirst registrars (by omega)
      have count : middle.module.routines.size ≤ work.module.routines.size + 4 :=
        hooked.routineCount_le
      have soundOthers : ∀ other ∈ candidates, other.Sound middle.module :=
        fun other listed => (sound other (List.mem_cons_of_mem _ listed)).grow hooked.grows
      have roomLeft : middle.module.routines.size + 4 * candidates.length ≤ tableLimit := by omega
      rw [ih others_eq (hooked.membersOwned owned) soundOthers (registrars.grow hooked.grows)
        roomLeft, ofCandidate_symbols first_eq hooked, Option.map_map]
      rfl

theorem instrument_symbols {settings : Settings} {symbols : Option Symbols} {survey : Survey}
    {instrumented : Instrumented}
    (makes : instrument settings module symbols = .ok (some instrumented))
    (surveyed : Survey.ofModule settings.markers module symbols = .ok survey)
    (room : Room module 1 2 (4 + 4 * survey.candidates.length)) :
    instrumented.symbols =
      symbols.map fun symbols => instrumented.hooks.foldl Hook.follow symbols := by
  rcases instrument_passed makes with ⟨other, dispatched, passed⟩
  cases surveyed.symm.trans passed.surveyed
  have valid := checkModule_eq_ok_iff.mp passed.accepted
  rcases passed.dispatcher_added room with ⟨added, remaining⟩
  apply ofCandidates_symbols passed.hooked (added.membersOwned valid.members)
  · intro candidate listed
    exact (Survey.candidates_sound valid surveyed candidate listed).grow added.grows
  · exact added.registrars
  · exact remaining

end Rekindle.Reload
