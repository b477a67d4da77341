import Rekindle.Proofs.Cycles.Histories
import Rekindle.Proofs.Loading.Load

/-!
# Reloading

A reloader works on the modules that were made reloadable, as far as they were loaded when it found
them, and in the order in which they were loaded. Whatever was done with the machine before, a cycle
calls what their dispatchers list when the turn comes to them, which is what was registered with
them until then, in the order in which that was done.
-/

namespace Rekindle.Reload

open Machine Validity

/-- Where a loaded module comes from. -/
inductive Origin where
  /-- It was made reloadable. -/
  | instrumented (made : Instrumented)
  /-- It is as it was written. -/
  | plain (module : Module)

namespace Origin

def module : Origin → Module
  | .instrumented made => made.module
  | .plain module => module

/-- The dispatcher of a module that was made reloadable, where it is loaded. -/
def placed? (handle : ModuleHandle) : Origin → Option Placed
  | .instrumented made => some ⟨handle, made.module, made.dispatcher⟩
  | .plain _ => none

/-- A module that was really made reloadable, or that has no type with the name of a dispatcher. -/
inductive Genuine : Origin → Prop where
  | instrumented {settings : Settings} {module : Module} {symbols : Option Symbols}
      {survey : Survey} {made : Instrumented}
      (makes : instrument settings module symbols = .ok (some made))
      (surveyed : Survey.ofModule settings.markers module symbols = .ok survey)
      (room : Room module 1 2 (4 + 4 * survey.candidates.length)) : Genuine (.instrumented made)
  | plain {module : Module} (absent : module.findType Names.dispatcher = none) :
      Genuine (.plain module)

end Origin

/-- The dispatchers of modules that are loaded one after the other. -/
def dispatchers (origins : List Origin) : List Placed :=
  origins.zipIdx.filterMap fun entry => entry.1.placed? ⟨entry.2⟩

variable {origin : Origin} {origins : List Origin} {store : Store} {placed : Placed}

/-! ### What a reloader finds -/

theorem Origin.Genuine.reloadable?_eq (genuine : origin.Genuine) (handle : ModuleHandle) :
    reloadable? handle origin.module = (origin.placed? handle).map (·.reloadable) := by
  cases genuine with
  | instrumented makes surveyed room =>
      have made := instrument_made makes surveyed room
      have small : Room _ 1 2 4 := ⟨room.types_le, room.fields_le, by have := room.routines_le; omega⟩
      exact made.reloadable?_eq (made.touches (instrument_keeps makes).1)
        (instrument_absent makes small) handle
  | plain absent => exact reloadable?_eq_none absent handle

/-- A reloader finds the modules that were made reloadable, in the order of their loading. -/
theorem discover_eq (loaded : store.modules.toList = origins.map (·.module))
    (genuine : ∀ origin ∈ origins, origin.Genuine) :
    discover store = (dispatchers origins).map (·.reloadable) := by
  rw [discover, dispatchers, loaded]
  clear loaded
  generalize 0 = start
  induction origins generalizing start with
  | nil => rfl
  | cons origin others ih =>
      rcases List.forall_mem_cons.mp genuine with ⟨first, rest⟩
      have here := first.reloadable?_eq ⟨start⟩
      simp only [List.map_cons, List.zipIdx_cons, List.filterMap_cons, here, ih rest]
      cases origin.placed? ⟨start⟩ <;> rfl

theorem mem_dispatchers (listed : placed ∈ dispatchers origins) :
    ∃ made, .instrumented made ∈ origins ∧ placed.module = made.module ∧
      placed.dispatcher = made.dispatcher ∧
        (origins.map (·.module))[placed.handle.position]? = some placed.module := by
  rcases List.mem_filterMap.mp listed with ⟨⟨origin, position⟩, there, isPlaced⟩
  have found := List.mem_zipIdx_iff_getElem?.mp there
  cases origin with
  | plain => cases isPlaced
  | instrumented made =>
      cases isPlaced
      refine ⟨made, List.mem_of_getElem? found, rfl, rfl, ?_⟩
      simp only [List.getElem?_map] at found ⊢
      rw [found]
      rfl

/-- The dispatcher of a loaded module that was made reloadable is tended. -/
theorem exists_desk (loaded : store.modules.toList = origins.map (·.module))
    (genuine : ∀ origin ∈ origins, origin.Genuine) (occurs : store.Occurs)
    (listed : placed ∈ dispatchers origins) : ∃ desk : Desk, desk.toPlaced = placed ∧
      store.modules[desk.handle.position]? = some desk.module := by
  rcases mem_dispatchers listed with ⟨made, isOrigin, module_eq, dispatcher_eq, there⟩
  rw [← loaded, Array.getElem?_toList] at there
  have valid := checkModule_eq_ok_iff.mp (occurs.allPassed _ _ there)
  cases genuine _ isOrigin with
  | instrumented makes surveyed room =>
      rw [module_eq] at valid
      have tended := (instrument_made makes surveyed room).tended valid
      rw [← module_eq, ← dispatcher_eq] at tended
      exact ⟨⟨placed, tended⟩, rfl, there⟩

theorem mem_dispatchers_of_take {count : Nat} (listed : placed ∈ dispatchers (origins.take count)) :
    placed ∈ dispatchers origins := by
  rcases List.mem_filterMap.mp listed with ⟨⟨origin, position⟩, there, isPlaced⟩
  refine List.mem_filterMap.mpr ⟨⟨origin, position⟩, ?_, isPlaced⟩
  rw [List.mem_zipIdx_iff_getElem?] at there ⊢
  rw [List.getElem?_take] at there
  split at there
  · exact there
  · cases there

theorem exists_desks {known : List Placed} {holds : Desk → Prop}
    (each : ∀ placed ∈ known, ∃ desk : Desk, desk.toPlaced = placed ∧ holds desk) :
    ∃ desks : List Desk, desks.map (·.toPlaced) = known ∧ ∀ desk ∈ desks, holds desk := by
  induction known with
  | nil => exact ⟨[], rfl, List.forall_mem_nil _⟩
  | cons placed others ih =>
      rcases List.forall_mem_cons.mp each with ⟨⟨desk, rfl, first⟩, rest⟩
      rcases ih rest with ⟨desks, rfl, all⟩
      exact ⟨desk :: desks, rfl, List.forall_mem_cons.mpr ⟨first, all⟩⟩

/-! ### What a cycle does -/

/-- A dispatcher that lists what was registered with it in some turns, in this order. A host that
has it invoke what it lists calls just that, one target after the other, until one fails. -/
structure Invokes (limits : Limits) (turns : List Turn) (store : Store) (placed : Placed)
    (occasion : Occasion) : Prop where
  lists : placed.listed store occasion = onOccasion occasion (registered limits placed turns)
  calls : ∃ opened, EndsAbove limits.callDepth hostThread 0 store [.access placed.dispatching]
      opened none ∧
    ∀ after trap?, (∃ steps result, store.invoke limits steps placed.handle
        (placed.dispatcher.invoker occasion) [] [] = some (after, result) ∧
          failure result = trap?) ↔
      InTurn limits.callDepth hostThread 1 opened (placed.listed store occasion) after trap?

/-- What the next cycle of a reloader does that knows some modules, after what was done before. -/
structure Reloads (limits : Limits) (origins : List Origin) (turns : List Turn) (rig : Rig)
    (known : List Placed) : Prop where
  /-- The reloader works on the modules it knows. -/
  knows : rig.reloader.modules rig.store = known.map (·.reloadable)
  /-- It comes to an end as a cycle over the modules does, with the same result. -/
  cycles : ∀ after result,
    (∃ steps, rig.reloader.reload limits steps rig.store = some (after, result)) ↔
      Cycles limits rig.store known after result
  /-- It asks for one garbage pass, or for none if what is to be called before it fails. -/
  collects : ∀ after result, Cycles limits rig.store known after result →
    after.garbagePasses = rig.store.garbagePasses + passes result
  /-- Before the cycle, dispatchers invoke what was registered. -/
  invokes : ∀ placed ∈ dispatchers origins, ∀ occasion,
    Invokes limits turns rig.store placed occasion
  /-- At each call of the cycle, they invoke what was registered, by the calls before it too. -/
  invokesMeanwhile : ∀ steps after result,
    rig.reloader.reload limits steps rig.store = some (after, result) →
      ∀ early turn late, cycleTurns limits steps rig.store (rig.reloader.modules rig.store) =
        early ++ turn :: late → ∀ placed ∈ dispatchers origins, ∀ occasion,
          Invokes limits (turns ++ early) turn.store placed occasion

theorem invokes_of_keeps {limits : Limits} (usable : limits.fault? = none) {turns : List Turn}
    {desk : Desk} (keeps : desk.Keeps (registered limits desk.toPlaced turns) store)
    (occasion : Occasion) : Invokes limits turns store desk.toPlaced occasion :=
  ⟨keeps.listed_eq occasion, keeps.invoke_iff usable occasion⟩

/-- Whatever was done with a machine whose modules were made reloadable or have no dispatcher, and
with a reloader, as long as the host left the dispatchers alone: the next cycle works on the modules
that were made reloadable and were loaded when the reloader was last told to look for modules, or
when it was first used, if it was never told to, in the order of their loading. For each of them it
calls what is listed to be called before a reload when the turn comes to the module, in the order in
which it was registered; it asks for one garbage pass; and for each of them it calls what is then
listed to be called after a reload. What is registered while a list is called is not called with
it, but what is registered before the turn comes to another list is. The first call that fails ends
the cycle and is told with the name of the module, and no garbage pass was asked for if it was
to be called before the reload. -/
theorem reload_cycles {limits : Limits} (usable : limits.fault? = none) {origins : List Origin}
    {turns : List Turn} {rig : Rig} (works : Works limits .new turns rig)
    (loaded : rig.store.modules.toList = origins.map (·.module))
    (genuine : ∀ origin ∈ origins, origin.Genuine)
    (spares : ∀ placed ∈ dispatchers origins, ∀ turn ∈ turns, turn.Spares placed) :
    Reloads limits origins turns rig
      (dispatchers (origins.take (foundIn turns rig.store).modules.size)) := by
  have linked := works.linked
  have occurs : rig.store.Occurs := linked.occurs .fresh
  have foundFirst : (foundIn turns rig.store).modules.toList =
      (origins.take (foundIn turns rig.store).modules.size).map (·.module) := by
    have first := List.prefix_iff_eq_take.mp linked.foundIn_prefix
    rwa [loaded, ← List.map_take, Array.length_toList] at first
  have knows : rig.reloader.modules rig.store =
      (dispatchers (origins.take (foundIn turns rig.store).modules.size)).map (·.reloadable) := by
    rw [linked.modules_eq]
    exact discover_eq foundFirst fun origin listed => genuine origin (List.mem_of_mem_take listed)
  have desks (placed : Placed) (listed : placed ∈ dispatchers origins) : ∃ desk : Desk,
      desk.toPlaced = placed ∧ rig.store.modules[desk.handle.position]? = some desk.module ∧
        desk.Keeps (registered limits desk.toPlaced turns) rig.store := by
    rcases exists_desk loaded genuine occurs listed with ⟨desk, rfl, there⟩
    exact ⟨desk, rfl, there, linked.keeps (spares _ listed) there⟩
  rcases exists_desks fun placed listed => desks placed (mem_dispatchers_of_take listed) with
    ⟨known, known_eq, all⟩
  refine ⟨knows, ?_, fun _ _ cycles => cycles.garbagePasses_eq, ?_, ?_⟩
  · intro after result
    have kept : AllKept known rig.store := fun desk listed => ⟨_, (all desk listed).2⟩
    simp only [Reloader.reload, knows]
    rw [← known_eq, List.map_map]
    exact cycle_iff usable kept
  · intro placed listed occasion
    rcases desks placed listed with ⟨desk, rfl, _, keeps⟩
    exact invokes_of_keeps usable keeps occasion
  · intro steps after result reloads early turn late split placed listed occasion
    rcases desks placed listed with ⟨desk, rfl, there, _⟩
    have cycle := cycleTurns_linked (rig.reloader.settled rig.store) reloads
    have idle : ∀ turn ∈ cycleTurns limits steps rig.store (rig.reloader.modules rig.store),
        turn.Spares desk.toPlaced := cycleTurns_spares _ _
    rw [split] at cycle idle
    rcases cycle.split with ⟨middle, first, rest⟩
    have spared : ∀ turn ∈ turns ++ ⟨.reload, rig.store, steps⟩ :: early,
        turn.Spares desk.toPlaced :=
      List.forall_mem_append.mpr ⟨spares _ listed,
        List.forall_mem_cons.mpr ⟨trivial, (List.forall_mem_append.mp idle).1⟩⟩
    have keeps := (linked.append (.begins steps first)).keeps spared (first.getElem?_modules there)
    have same : registered limits desk.toPlaced (turns ++ ⟨.reload, rig.store, steps⟩ :: early) =
        registered limits desk.toPlaced (turns ++ early) := by
      simp only [registered, List.flatMap_append, List.flatMap_cons]
      rfl
    rw [same] at keeps
    rw [rest.store_eq]
    exact invokes_of_keeps usable keeps occasion

end Rekindle.Reload

/-! ### A counter and what it was made from -/

namespace Rekindle.Reload.Counter

open Machine

/-- The counter that was made reloadable and what it was made from. -/
def origins : List Origin := [.instrumented instrumented, .plain module]

/-- The counter of strings is bumped and the reloader used before what the counter was made from is
loaded, too. -/
def turns : List Turn := [
  ⟨.ask (.load instrumented.module), .empty, 0⟩,
  ⟨.ask (.invoke firstModule ⟨1⟩ [.string] []), Weave.loadedWith instrumented.module, 60⟩,
  ⟨.list, bumped, 0⟩,
  ⟨.ask (.load module), bumped, 0⟩]

def rig : Rig where
  store := { bumped with modules := bumped.modules.push module }
  reloader := Reloader.new.settled bumped

def dispatching : Placed := ⟨firstModule, instrumented.module, instrumented.dispatcher⟩

theorem works : Works {} .new turns rig := by
  have reloadable := instrument_reloadable makes surveyed (by simpa using hookable)
    (by constructor <;> decide)
  have loads : Request.perform (.load instrumented.module) {} 0 .empty =
      some (Weave.loadedWith instrumented.module) := by
    simp only [Request.perform, Weave.load_valid reloadable.stillValid]
  have loadsToo : Request.perform (.load module) {} 0 bumped = some rig.store := by
    simp only [Request.perform, Store.load, accepted, rig]
  exact .next (.ask 0 loads) (.next (.ask 60 rfl) (.next (.list _) (.next (.ask 0 loadsToo) .idle)))

/-- The next cycle is over the counter that was made reloadable, and calls the one routine that was
registered. -/
theorem reload_cycles_counter : ∃ after, Reloads {} origins turns rig [dispatching] ∧
    Cycles {} rig.store [dispatching] after (.ok { modules := 1, garbagePasses := 1 }) ∧
    dispatching.listed rig.store .load = [⟨firstModule, ⟨7⟩, [.string]⟩] := by
  have genuine : ∀ origin ∈ origins, origin.Genuine :=
    List.forall_mem_cons.mpr ⟨.instrumented makes surveyed (by constructor <;> decide),
      List.forall_mem_singleton.mpr (.plain (by decide))⟩
  have spares : ∀ placed ∈ dispatchers origins, ∀ turn ∈ turns, turn.Spares placed := by
    intro placed _ turn listed
    simp only [turns, List.mem_cons, List.not_mem_nil, or_false] at listed
    rcases listed with rfl | rfl | rfl | rfl
    · trivial
    · exact List.forall_mem_nil _
    · trivial
    · trivial
  have reloads : Reloads {} origins turns rig [dispatching] :=
    reload_cycles rfl works rfl genuine spares
  have ends : ∃ after, rig.reloader.reload {} 60 rig.store =
      some (after, .ok { modules := 1, garbagePasses := 1 }) := ⟨_, rfl⟩
  rcases ends with ⟨after, ends⟩
  exact ⟨after, reloads, (reloads.cycles after _).mp ⟨60, ends⟩, by decide +kernel⟩

end Rekindle.Reload.Counter
