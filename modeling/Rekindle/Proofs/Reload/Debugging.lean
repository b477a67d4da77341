import Rekindle.Proofs.Image.RoundTrip
import Rekindle.Proofs.Reload.Symbols

/-!
# Debug symbols of a reloadable module

The points of an initializer are found at its copy, and every other routine of the module keeps its
points. What the passes made besides the copies has the points that the symbols had for its handle
before it was made, so it has none if they had none.
-/

namespace Rekindle.Reload

open Fallible Rekindle.Module

variable {markers : Markers} {module : Module} {candidates : List Candidate} {hook : Hook}

/-- The routines of a dispatcher. -/
def Dispatcher.routines (dispatcher : Dispatcher) : List RoutineId :=
  [dispatcher.registerUnload, dispatcher.registerLoad, dispatcher.unload, dispatcher.load]

/-- What a debugger finds in the symbols of a module that was made reloadable, compared with what
it found before. -/
structure PointsMove (module : Module) (instrumented : Instrumented) (symbols after : Symbols) :
    Prop where
  identity_eq : after.identity = instrumented.module.identity
  fields : ∀ id, after.fieldLocation id = symbols.fieldLocation id
  /-- A copy has the points that the initializer of its type had. -/
  copies : ∀ hook ∈ instrumented.hooks, ∀ copy, hook.initializerCopy = some copy →
    ∃ initializer, module.initializer hook.type = .ok (some initializer) ∧
      after.points copy = symbols.points initializer
  initializers : ∀ hook ∈ instrumented.hooks, after.points hook.initializer = []
  /-- A routine that was there and is not the initializer of a hooked type keeps its points. -/
  others : ∀ id routine, module.routine? id = some routine →
    (∀ hook ∈ instrumented.hooks, module.initializer hook.type ≠ .ok (some id)) →
      after.points id = symbols.points id
  /-- What is run around a load has the points that the symbols had for its handle. -/
  around : ∀ hook ∈ instrumented.hooks, ∀ id, hook.load = some id ∨ hook.unload = some id →
    after.points id = symbols.points id
  /-- So has a routine of the dispatcher. -/
  dispatching : ∀ id ∈ instrumented.dispatcher.routines, after.points id = symbols.points id

/-- Symbols that have points for nothing that was made, other than for the copies. -/
structure PointsFollow (module : Module) (instrumented : Instrumented) (symbols after : Symbols) :
    Prop extends PointsMove module instrumented symbols after where
  hooks : ∀ hook ∈ instrumented.hooks, ∀ id, hook.load = some id ∨ hook.unload = some id →
    after.points id = []
  dispatcher : ∀ id ∈ instrumented.dispatcher.routines, after.points id = []

section Made

variable {instrumented : Instrumented} (made : Made markers module candidates instrumented)
include made

/-- What hooking a type added was not there before. -/
theorem Made.fresh (isHook : hook ∈ instrumented.hooks) {id : RoutineId}
    (isAdded : some id ∈ hook.added) : module.routine? id = none := by
  rcases made.dispatched with ⟨dispatched, added, hooked⟩
  rcases found : module.routine? id with _ | routine
  · rfl
  · have kept := added.routine?_of_declared found
    rw [hooked.fresh hook isHook id isAdded] at kept
    cases kept

/-- The routines of the dispatcher are new, and none of them is a routine of a hook. -/
theorem Made.dispatcher_apart {id : RoutineId} (listed : id ∈ instrumented.dispatcher.routines) :
    module.routine? id = none ∧ ∀ hook ∈ instrumented.hooks, id ∉ hook.routines := by
  rcases made.dispatched with ⟨dispatched, added, hooked⟩
  have declared : ∃ routine, dispatched.routine? id = some routine ∧
      routine.owner = instrumented.dispatcher.type ∧ module.routines.size ≤ id.position := by
    simp only [Dispatcher.routines, List.mem_cons, List.not_mem_nil, or_false] at listed
    rcases listed with rfl | rfl | rfl | rfl
    · exact ⟨_, added.routine?_registerUnload, rfl, Nat.le_of_eq added.registerUnload_position.symm⟩
    · refine ⟨_, added.routine?_registerLoad, rfl, ?_⟩
      rw [added.registerLoad_position]
      omega
    · refine ⟨_, added.routine?_unload, rfl, ?_⟩
      rw [added.unload_position]
      omega
    · refine ⟨_, added.routine?_load, rfl, ?_⟩
      rw [added.load_position]
      omega
  rcases declared with ⟨routine, found, owner_eq, last⟩
  refine ⟨Array.getElem?_eq_none_iff.mpr last, ?_⟩
  intro hook isHook shared
  rcases hooked.grows.routines id routine found with ⟨body, kept, _⟩
  rcases made.owns isHook shared with ⟨same, sameFound, hookType, _⟩
  rw [kept] at sameFound
  cases sameFound
  rcases made.installed.of_hook isHook with ⟨candidate, isCandidate, _, _, installed⟩
  apply added.type_apart (made.sound candidate isCandidate)
  rw [← installed.type_eq, ← hookType]
  exact owner_eq

/-- The initializer that was copied is the one that its type had. -/
theorem Made.copied (isHook : hook ∈ instrumented.hooks) {copy : RoutineId}
    (isCopy : hook.initializerCopy = some copy) :
    module.initializer hook.type = .ok (some hook.initializer) := by
  rcases made.installed.of_hook isHook with ⟨candidate, _, type, _, installed⟩
  have stands := installed.copy
  rw [isCopy] at stands
  rcases stands.some_iff with ⟨routine, isDecl, _⟩
  rcases installed.wrapper with ⟨_, wrapper, _⟩
  rw [installed.type_eq]
  cases wrapper with
  | kept isInitializer _ => exact isInitializer
  | made absent => simp [copyDecl?_of_absent _ _ absent] at isDecl

theorem Made.pointsMove {symbols : Symbols}
    (identity_eq : (instrumented.hooks.foldl Hook.follow symbols).identity =
      instrumented.module.identity) :
    PointsMove module instrumented symbols (instrumented.hooks.foldl Hook.follow symbols) := by
  have separate := made.separate
  constructor
  case identity_eq => exact identity_eq
  case fields =>
    intro id
    rw [Symbols.fieldLocation, Hook.foldl_fields, Symbols.fieldLocation]
  case copies =>
    intro hook isHook copy isCopy
    refine ⟨hook.initializer, made.copied isHook isCopy, ?_⟩
    have isAdded := Hook.mem_added.mpr (.inl isCopy)
    have copyListed : copy ∈ hook.routines := Hook.mem_routines.mpr (.inr isAdded)
    have initializerListed : hook.initializer ∈ hook.routines := Hook.mem_routines.mpr (.inl rfl)
    rcases separate.foldl_own isHook symbols with ⟨earlier, before, atEnd⟩
    have apart := Hook.ne_initializer (separate.own isHook) isAdded
    rw [atEnd copy copyListed, Hook.follow_copy isCopy apart, before _ initializerListed]
  case initializers =>
    intro hook isHook
    rcases separate.foldl_own isHook symbols with ⟨earlier, _, atEnd⟩
    rw [atEnd _ (Hook.mem_routines.mpr (.inl rfl)), Hook.follow_initializer]
  case others =>
    intro id routine found apart
    apply Hook.foldl_apart
    intro hook isHook
    refine ⟨made.ne_initializer found apart hook isHook, ?_⟩
    intro isCopy
    have new := made.fresh isHook (Hook.mem_added.mpr (.inl isCopy))
    rw [found] at new
    cases new
  case around =>
    intro hook isHook id isAround
    have isAdded := Hook.mem_added.mpr (.inr isAround)
    have listed : id ∈ hook.routines := Hook.mem_routines.mpr (.inr isAdded)
    have apart := Hook.ne_initializer (separate.own isHook) isAdded
    have notCopy := Hook.copy_apart (separate.own isHook) isAround
    rcases separate.foldl_own isHook symbols with ⟨earlier, before, atEnd⟩
    rw [atEnd id listed, Hook.follow_apart apart notCopy, before id listed]
  case dispatching =>
    intro id listed
    rcases made.dispatcher_apart listed with ⟨_, apart⟩
    exact Hook.foldl_apart fun hook isHook => Hook.apart_of_foreign (apart hook isHook)

/-- Symbols without points for routines that are yet to be made have none for them afterwards. -/
theorem Made.pointsFollow {symbols after : Symbols}
    (moves : PointsMove module instrumented symbols after)
    (known : ∀ id, module.routine? id = none → symbols.points id = []) :
    PointsFollow module instrumented symbols after where
  toPointsMove := moves
  hooks hook isHook id isAround := by
    rw [moves.around hook isHook id isAround]
    exact known id (made.fresh isHook (Hook.mem_added.mpr (.inr isAround)))
  dispatcher id listed := by
    rw [moves.dispatching id listed]
    exact known id (made.dispatcher_apart listed).1

end Made

/-- The points of initializers move to the copies, whatever else the symbols have points for. If they
have none for routines that the module does not have, debug symbols follow the instructions. -/
theorem instrument_points_follow {settings : Settings} {symbols : Symbols}
    {instrumented : Instrumented}
    (makes : instrument settings module (some symbols) = .ok (some instrumented))
    (accepted : symbols.identity = module.identity)
    (room : Room module 1 2 (4 + 4 * instrumented.hooks.length)) :
    ∃ after, instrumented.symbols = some after ∧ PointsMove module instrumented symbols after ∧
      ((∀ id, module.routine? id = none → symbols.points id = []) →
        PointsFollow module instrumented symbols after) := by
  rcases instrument_passed makes with ⟨survey, _, passed⟩
  have count := congrArg List.length (ofCandidates_types passed.hooked)
  rw [List.length_map, List.length_map] at count
  rw [count] at room
  have made := instrument_made makes passed.surveyed room
  have follows := instrument_symbols makes passed.surveyed room
  rcases instrument_keeps makes with ⟨keeps, _, identity_eq, _⟩
  rw [follows, Option.map_some, Option.map_some, Option.map_some, Option.some.injEq] at identity_eq
  have moves := made.pointsMove (by rw [identity_eq, accepted, keeps.identity])
  exact ⟨_, follows, moves, made.pointsFollow moves⟩

end Rekindle.Reload

/-! ### A type with an initializer -/

namespace Rekindle.Reload.Level

open Validity

def level : TypeDecl :=
  { TypeDecl.named "Level" with
    attributes := [.bare Settings.standard.markers.reloadOnEnter]
    fields := [⟨0⟩]
    routines := [⟨0⟩] }

def initializer : RoutineDecl :=
  .typeInitializer { Body.returning with
    instructions := #[.loadInt32 1, .storeField { field := ⟨0⟩, binding := .direct }, .ret] }

def module : Module where
  name := "app"
  identity := Vector.replicate 16 0
  references := []
  types := #[level]
  fields := #[.static "score" .int32]
  routines := #[initializer]
  topLevel := [⟨0⟩]

def candidate : Candidate where
  type := ⟨0⟩
  fullName := "Level"
  fields := [{ field := ⟨0⟩, name := "score", isReadOnly := false, isForced := false }]
  teardowns := []

def point (line : UInt32) : SequencePoint where
  offset := 0
  location := { file := "Level.src", line, column := 1 }

/-- Symbols with a point for the initializer. -/
def symbols : Symbols :=
  { Symbols.empty module.identity with routines := Table.empty.insert 0 [point 3] }

/-- The same symbols with points for two routines that the module does not have. -/
def stale : Symbols :=
  { symbols with routines := (symbols.routines.insert 1 [point 8]).insert 6 [point 9] }

def instrumented (symbols : Symbols) : Instrumented :=
  .ofCandidates module (some symbols) [candidate]

theorem makes (symbols : Symbols) :
    instrument Settings.unchecked module (some symbols) = .ok (some (instrumented symbols)) := by
  have nested : checkNesting module = .ok () := by cbv
  have accepted : checkModule module = .ok () := checkModule_ok nested rfl rfl (by cbv)
  have surveyed : Survey.ofModule Settings.unchecked.markers module (some symbols) =
    .ok { candidates := [candidate], diagnostics := [], visited := 1 } := by cbv
  exact instrument_ofCandidates nested accepted surveyed (by simp) rfl

theorem points_symbols (id : RoutineId) :
    symbols.points id = if id = ⟨0⟩ then [point 3] else [] := by
  rcases id with ⟨index⟩
  by_cases first : index = 0
  · subst first
    rfl
  · simp [symbols, Symbols.points, Symbols.empty, first, Ne.symm first]

/-- The copy has the point of the initializer, which has none any more. -/
theorem instrument_points_follow_level :
    ∃ after, (instrumented symbols).symbols = some after ∧ after.points ⟨5⟩ = [point 3] ∧
      after.points ⟨0⟩ = [] ∧ after.points ⟨6⟩ = [] ∧ after.identity = module.identity := by
  have known : ∀ id, module.routine? id = none → symbols.points id = [] := by
    intro id absent
    rw [points_symbols, if_neg]
    rintro rfl
    cases absent
  have room : Room module 1 2 (4 + 4 * (instrumented symbols).hooks.length) := by
    constructor <;> decide
  rcases instrument_points_follow (makes symbols) rfl room with ⟨after, follows, _, bare⟩
  have points := bare known
  refine ⟨after, follows, ?_, points.initializers _ List.mem_cons_self,
    points.hooks _ List.mem_cons_self _ (.inl rfl), points.identity_eq⟩
  rcases points.copies _ List.mem_cons_self ⟨5⟩ rfl with ⟨initializer, had, same⟩
  have isFirst : initializer = ⟨0⟩ := by
    cases had
    rfl
  rw [same, isFirst, points_symbols, if_pos rfl]

/-- Symbols that are accepted for a module may have points for a routine that is yet to be made. The
routine that is run before a load keeps them, although nothing of it comes from a source file. -/
theorem stale_points_stay :
    Image.toSymbols module.identity (Image.ofSymbols stale) = .ok stale ∧
    instrument Settings.unchecked module (some stale) = .ok (some (instrumented stale)) ∧
    ∃ after, (instrumented stale).symbols = some after ∧
      ¬ PointsFollow module (instrumented stale) stale after ∧
      (instrumented stale).hooks.map (·.load) = [some ⟨6⟩] ∧ after.points ⟨6⟩ = [point 9] := by
  refine ⟨Image.toSymbolsWith_written (by decide), makes stale, _, rfl, ?_, rfl, by decide⟩
  intro follows
  have none := follows.hooks _ List.mem_cons_self _ (.inl rfl)
  revert none
  decide

end Rekindle.Reload.Level
