import Rekindle.Proofs.Transparency.Sessions

/-!
# Before a reload

Until something is reloaded, a module that was made reloadable does what it did before. A host that
loads it cannot tell it from the module it was made of, whatever it calls, reads and writes.
-/

namespace Rekindle.Machine

open Reload Validity

namespace Weave

variable (weave : Weave)

/-- A store with one module in it. -/
def loadedWith (module : Module) : Store := { Store.empty with modules := #[module] }

theorem eq_of_load {module : Module} {store : Store} {handle : ModuleHandle}
    (loads : Store.empty.load module = .ok (store, handle)) : store = loadedWith module := by
  rcases Store.load_ok loads with ⟨_, rfl, _⟩
  rfl

theorem load_valid {module : Module} (valid : Valid module) :
    Store.empty.load module = .ok (loadedWith module, firstModule) := by
  simp only [Store.load, checkModule_eq_ok_iff.mpr valid]
  rfl

/-- Fresh machines that loaded the two forms are alike. -/
theorem stores_loaded :
    weave.Stores hostThread [] (loadedWith weave.module) (loadedWith weave.woven) := by
  refine ⟨rfl, ⟨rfl, ?_⟩, rfl, List.nodup_nil, ?_, ?_⟩
  · intro site _ storage present
    cases present
  · intro name listed
    cases listed
  · intro instantiation _
    exact .none

end Weave

end Rekindle.Machine

namespace Rekindle.Reload

open Machine

variable {module : Module}

/-- Whatever a host calls, reads and writes of a module before a reload, it is told the same and
leaves the same in the module's static slots when the module was made reloadable, unless a call of
the reloadable form goes too deep. -/
theorem instrument_transparent {settings : Settings} {symbols : Option Symbols} {survey : Survey}
    {instrumented : Instrumented}
    (makes : instrument settings module symbols = .ok (some instrumented))
    (surveyed : Survey.ofModule settings.markers module symbols = .ok survey)
    (hookable : ∀ candidate ∈ survey.candidates, Hookable module candidate.type)
    (room : Room module 1 2 (4 + 4 * survey.candidates.length)) :
    ∃ plain woven, Store.empty.load module = .ok (plain, firstModule) ∧
      Store.empty.load instrumented.module = .ok (woven, firstModule) ∧
      ∀ limits calls, (∀ call ∈ calls, call.IsAbout module) →
        ¬MeetsLimit limits woven [] calls →
        ((∃ after replies, Session limits plain [] calls after replies) ↔
          ∃ other others, Session limits woven [] calls other others) ∧
        ∀ after replies other others, Session limits plain [] calls after replies →
          Session limits woven [] calls other others →
          Indistinct module replies others after other := by
  have reloadable := instrument_reloadable makes surveyed hookable room
  let weave : Weave := ⟨module, instrumented.module, _, _, reloadable⟩
  have stores := weave.stores_loaded
  refine ⟨_, _, Weave.load_valid reloadable.valid, Weave.load_valid reloadable.stillValid, ?_⟩
  intro limits calls about avoids
  refine ⟨⟨?_, ?_⟩, ?_⟩
  · rintro ⟨after, replies, session⟩
    rcases Weave.session_follows stores .nil about avoids session with ⟨other, others, woven, _⟩
    exact ⟨other, others, woven⟩
  · rintro ⟨other, others, session⟩
    exact Weave.session_precedes stores .nil about avoids session
  · intro after replies other others session otherSession
    rcases Weave.session_follows stores .nil about avoids session with
      ⟨counterpart, answers, woven, indistinct⟩
    rcases woven.unique otherSession with ⟨rfl, rfl⟩
    exact indistinct

end Rekindle.Reload

/-! ### A counter of each type -/

namespace Rekindle.Reload.Counter

open Machine Validity

def count : FieldRef where
  field := ⟨0⟩
  binding := .instantiated [.parameter 0]

def line (instructions : Array Instruction) : Body :=
  { Body.returning with instructions }

def type : TypeDecl :=
  { TypeDecl.named "Counter" with
    parameters := ["T"]
    attributes := [.bare Settings.standard.markers.reloadOnEnter]
    fields := [⟨0⟩]
    routines := [⟨0⟩, ⟨1⟩] }

def start : RoutineDecl :=
  .typeInitializer (line #[.loadInt32 5, .storeField count, .ret])

def bump : RoutineDecl :=
  .static "bump" .int32
    (line #[.loadField count, .loadInt32 1, .add, .dup, .storeField count, .ret])

/-- A module with one generic type that counts from five. -/
def module : Module where
  name := "app"
  identity := Vector.replicate 16 0
  references := []
  types := #[type]
  fields := #[.static "count" .int32]
  routines := #[start, bump]
  topLevel := [⟨0⟩]

def candidate : Candidate where
  type := ⟨0⟩
  fullName := "Counter"
  fields := [{ field := ⟨0⟩, name := "count", isReadOnly := false, isForced := false }]
  teardowns := []

def instrumented : Instrumented := .ofCandidates module none [candidate]

theorem nested : checkNesting module = .ok () := by cbv

theorem accepted : checkModule module = .ok () := checkModule_ok nested rfl rfl (by cbv)

theorem surveyed : Survey.ofModule Settings.unchecked.markers module none =
    .ok { candidates := [candidate], diagnostics := [], visited := 1 } := by cbv

theorem makes : instrument Settings.unchecked module none = .ok (some instrumented) :=
  instrument_ofCandidates nested accepted surveyed (by simp) rfl

theorem hookable : Hookable module candidate.type := by
  have found : module.initializer candidate.type = .ok (some ⟨0⟩) := by decide
  exact .of_initializer rfl (by decide) found rfl rfl rfl

/-- The host has the counter of one type bumped. -/
def call : HostCall := .invoke ⟨1⟩ [.string] []

/-- Both forms count to six in the same way. -/
theorem instrument_transparent_counter :
    ∃ plain woven after other others, Store.empty.load module = .ok (plain, firstModule) ∧
      Store.empty.load instrumented.module = .ok (woven, firstModule) ∧
      Session {} plain [] [call] after [.ok (some (.int32 6))] ∧
      Session {} woven [] [call] other others ∧
      Indistinct module [.ok (some (.int32 6))] others after other := by
  have transparent := instrument_transparent makes surveyed (by simpa using hookable)
    (by constructor <;> decide)
  rcases transparent with ⟨plain, woven, loads, otherLoads, sessions⟩
  rcases Weave.eq_of_load loads with rfl
  rcases Weave.eq_of_load otherLoads with rfl
  have about : ∀ asked ∈ [call], HostCall.IsAbout module asked := by
    intro asked listed
    rw [List.mem_singleton.mp listed]
    exact ⟨⟨bump, rfl⟩, by simp⟩
  have shallow : Shallow 256 hostThread (Weave.loadedWith instrumented.module)
      [.call ⟨firstModule, ⟨1⟩, [.string]⟩ []] :=
    shallow_of_endsShallow (show endsShallow 256 hostThread 60 _ _ = true by decide +kernel)
  have avoids : ¬MeetsLimit {} (Weave.loadedWith instrumented.module) [] [call] := by
    intro meets
    cases meets with
    | now begins deep =>
        cases begins
        exact deep shallow
    | later _ meets => cases meets
  have performs : ∃ after, call.perform {} 30 [] (Weave.loadedWith module) =
      some (after, .ok (some (.int32 6))) := ⟨_, rfl⟩
  rcases performs with ⟨after, performs⟩
  have session : Session {} (Weave.loadedWith module) [] [call] after [.ok (some (.int32 6))] :=
    .next performs .done
  rcases sessions {} [call] about avoids with ⟨ends, indistinct⟩
  rcases ends.mp ⟨after, _, session⟩ with ⟨other, others, otherSession⟩
  exact ⟨_, _, after, other, others, loads, otherLoads, session, otherSession,
    indistinct after _ other others session otherSession⟩

end Rekindle.Reload.Counter
