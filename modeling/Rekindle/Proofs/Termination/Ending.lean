import Rekindle.Proofs.Hosting.Discipline
import Rekindle.Proofs.Termination.Plays

/-!
# Calls that end

Without backward jumps every call of a host comes to its end, whatever it calls and with whatever
arguments: alone after a number of steps, and next to the calls of other threads in every play.
However deep calls, callbacks and initializers are nested, the limit is never exceeded.
-/

namespace Rekindle.Machine

open Validity

variable {offers : Array Module → Value → Prop} {limits : Limits} {store : Store}
  {activations : List Activation} {earlier : List Moment} {now : Moment}

/-! ### One thread -/

/-- A machine with one thread is a machine with any number of threads whose others are idle. -/
theorem History.served (history : History limits (now :: earlier)) :
    Served (fun _ _ => True) limits now.store
      (Function.update (fun _ => []) hostThread now.activations) := by
  suffices all : ∀ moments, History limits moments → ∀ now earlier, moments = now :: earlier →
      Served (fun _ _ => True) limits now.store
        (Function.update (fun _ => []) hostThread now.activations) from
    all _ history now earlier rfl
  intro moments history
  induction history with
  | fresh =>
      rintro now earlier ⟨⟩
      rw [Function.update_eq_self_iff.mpr rfl]
      exact .fresh
  | @next before later older _ happens ih =>
      rintro now earlier ⟨⟩
      have goesOn : Happens (fun _ _ => True) limits hostThread before.store
          (Function.update (fun _ => []) hostThread before.activations hostThread) later.store
            later.activations := by
        rw [Function.update_self]
        exact happens
      have reached := (ih before older rfl).next goesOn
      rwa [Function.update_idem] at reached

/-- Without backward jumps the thread comes to its end. -/
theorem History.ends (history : History limits (⟨store, activations⟩ :: earlier))
    (onward : store.Onward) :
    ∃ steps final, run limits.callDepth hostThread steps store activations = some final := by
  suffices all : ∀ heavy store activations earlier,
      History limits (⟨store, activations⟩ :: earlier) → store.Onward →
        weights limits.callDepth store activations = heavy →
          ∃ steps final, run limits.callDepth hostThread steps store activations = some final from
    all _ store activations earlier history onward rfl
  intro heavy
  induction heavy using wellFounded_lighter.induction with
  | _ heavy ih =>
      rintro store activations earlier history onward rfl
      have forward : store.Forward := ⟨history.served.passed, onward⟩
      have stacked := Kept.served (fun thread => kept_stacked _ thread) (fun _ => .nil)
        history.served hostThread
      have bodies := Kept.served (fun thread => kept_onward _ thread)
        (fun _ _ _ listed => absurd listed List.not_mem_nil) history.served hostThread forward
      simp only [Function.update_self] at stacked bodies
      rcases progress : step limits.callDepth hostThread store activations with
        ⟨after, next⟩ | ⟨after, next⟩ | ⟨after, result⟩
      · have lightens : (step limits.callDepth hostThread store activations).Lightens _ _ :=
          step_lightens stacked forward bodies
        have changes := step_changes limits.callDepth hostThread store activations
        rw [progress] at lightens changes
        have modules : after.modules = store.modules := changes.modules_eq
        rcases ih _ lightens after next _ (history.next (.steps progress))
          (forward.of_modules modules.symm).onward rfl with ⟨steps, final, runs⟩
        exact ⟨steps + 1, final, by simp only [run, progress, runs]⟩
      -- A thread alone never has to wait.
      · have orderly := step_orderly history.orderly
          (fun instantiation starts => ⟨_, List.mem_cons_self, rfl, starts⟩) limits.callDepth
        simp only [progress] at orderly
        cases orderly
      · exact ⟨1, (after, result), by simp only [run, progress]⟩

/-- A field is used when what makes its type ready comes to its end. -/
theorem Store.useField_ends {α : Type} {handle : ModuleHandle} {field : FieldId}
    {arguments : List ValueType} (use : Store → Address → Except Trap (Store × α))
    (ends : ∀ place, store.hostAddress handle field arguments = .ok place → ∃ steps final,
      run limits.callDepth hostThread steps store [.access place.instantiation] = some final) :
    ∃ steps answer, store.useField limits steps handle field arguments use = some answer := by
  rcases allowed : store.hostAddress handle field arguments with trap | place
  · exact ⟨0, (store, .error trap), by simp only [Store.useField, allowed]⟩
  · rcases ends place allowed with ⟨steps, ⟨after, result⟩, runs⟩
    refine ⟨steps, Option.isSome_iff_exists.mp ?_⟩
    simp only [Store.useField, allowed, runs]
    cases result with
    | error => rfl
    | ok value =>
        simp only
        split <;> rfl

/-- Without backward jumps every request of the host is performed. -/
theorem Request.ends (history : History limits (⟨store, []⟩ :: earlier)) (onward : store.Onward)
    (request : Request) : ∃ steps after, request.perform limits steps store = some after := by
  have accesses {handle : ModuleHandle} {field : FieldId} {arguments : List ValueType}
      (place : Address) (allowed : store.hostAddress handle field arguments = .ok place) :
      ∃ steps final, run limits.callDepth hostThread steps store [.access place.instantiation] =
        some final :=
    (history.next (.accesses allowed)).ends onward
  cases request with
  | load module =>
      simp only [Request.perform]
      split <;> exact ⟨0, _, rfl⟩
  | collectGarbage => exact ⟨0, _, rfl⟩
  | invoke handle routine arguments parameters =>
      rcases allowed : store.hostTarget handle routine arguments with trap | target
      · exact ⟨0, store, by simp only [Request.perform, Store.invoke, allowed, Option.map_some]⟩
      · have happens : Happens (fun _ _ => True) limits hostThread store [] store
            [.call target parameters] := .calls allowed fun _ _ => trivial
        rcases (history.next happens).ends onward with ⟨steps, final, runs⟩
        exact ⟨steps, final.1, by
          simp only [Request.perform, Store.invoke, allowed, runs, Option.map_some]⟩
  | read handle field arguments =>
      simp only [Request.perform, Store.readField, Option.map_eq_some_iff]
      rcases Store.useField_ends _ accesses with ⟨steps, answer, reads⟩
      exact ⟨steps, answer.1, answer, reads, rfl⟩
  | write handle field arguments value =>
      simp only [Request.perform, Store.writeField, Option.map_eq_some_iff]
      rcases Store.useField_ends _ accesses with ⟨steps, answer, writes⟩
      exact ⟨steps, answer.1, answer, writes, rfl⟩

/-! ### Any number of threads -/

/-- Without backward jumps the calls that are under way end under every schedule that comes back to
their threads. -/
theorem scheduled_ends {state : Store × (ThreadId → List Activation)}
    (served : Served offers limits state.1 state.2) (onward : state.1.Onward)
    {schedule : ℕ → ThreadId} {crew : Finset ThreadId} (listed : ∀ time, schedule time ∈ crew)
    (again : ∀ thread ∈ crew, ∀ time, ∃ later ≥ time, schedule later = thread)
    (idle : ∀ thread, thread ∉ crew → state.2 thread = []) (thread : ThreadId) :
    ∃ time, (takeTurns limits schedule state time).2 thread = [] := by
  rcases (Play.scheduled served schedule crew listed again idle).idle_again
    (takeTurns_onward onward limits schedule) 0 thread with ⟨time, _, ended⟩
  exact ⟨time, ended⟩

/-- A thread never has more bodies in execution than the limits allow. While no loaded module has
backward jumps, every request of a host with one thread is performed, and in every play each thread
becomes idle again and again, so that every call ends, whatever it is given. -/
theorem calls_end (limits : Limits) :
    (∀ (offers : Array Module → Value → Prop) (store : Store)
      (threads : ThreadId → List Activation), Served offers limits store threads →
        ∀ thread, depth (threads thread) ≤ limits.callDepth) ∧
    (∀ (store : Store) (earlier : List Moment), History limits (⟨store, []⟩ :: earlier) →
      store.Onward → ∀ request : Request,
        ∃ steps after, request.perform limits steps store = some after) ∧
    ∀ (offers : Array Module → Value → Prop) (play : Play offers limits),
      (∀ time, (play.store time).Onward) → ∀ time thread,
        ∃ later ≥ time, play.threads later thread = [] := by
  refine ⟨?_, ?_, ?_⟩
  · intro offers store threads served
    exact Kept.served (fun thread => kept_depth limits.callDepth thread) (fun _ => Nat.zero_le _)
      served
  · intro store earlier history onward request
    exact request.ends history onward
  · intro offers play onward
    exact play.idle_again onward

/-! ### A routine that never stops calling itself -/

namespace Growing

/-- Calls the routine of the box of boxes. -/
def grow : Body where
  zeroesLocals := false
  locals := []
  instructions := #[.call ⟨⟨0⟩, .instantiated [.defined ⟨0⟩ [.parameter 0]]⟩, .ret]
  handlers := []

def growing : RoutineDecl :=
  RoutineDecl.static "grow" .void grow

def module : Module where
  name := "app"
  identity := Vector.replicate 16 0
  references := []
  types := #[{ TypeDecl.named "Box" with parameters := ["T"], routines := [⟨0⟩] }]
  fields := #[]
  routines := #[growing]
  topLevel := [⟨0⟩]

def loaded : Store := { Store.empty with modules := #[module] }

theorem loads : Store.empty.load module = .ok (loaded, ⟨0⟩) := by
  have heights : ∀ context, stackHeights module context growing grow = .ok #[some 0, some 0] := by
    intro context
    cbv
  have checked : checkBody module (module.routineName ⟨0⟩) 1 growing grow = .ok () := by
    simp only [checkBody, heights]
    rfl
  have routines : module.routineIds.forM (checkRoutine module) = .ok () := by
    show (checkBody module (module.routineName ⟨0⟩) 1 growing grow >>= fun _ => .ok ()) = .ok ()
    rw [checked]
    rfl
  have accepted : checkModule module = .ok () := checkModule_ok (by cbv) rfl rfl routines
  simp only [Store.load, accepted]
  rfl

theorem onward : loaded.Onward := by decide

/-- The call of the routine of the box of texts. -/
def call : List Activation := [.call ⟨⟨0⟩, ⟨0⟩, [.string]⟩ []]

/-- Two threads that call the routine at the same time. -/
def called : Store × (ThreadId → List Activation) :=
  (loaded, Function.update (Function.update (fun _ => []) ⟨0⟩ call) ⟨1⟩ call)

theorem served : Served (fun _ _ => True) {} called.1 called.2 := by
  have first : Served (fun _ _ => True) {} loaded fun _ => [] := by
    have comes : ComesTo (fun _ _ => True) {} hostThread ⟨.empty, []⟩ ⟨loaded, []⟩ :=
      .single (.loads loads)
    have idle := Served.fresh.comesTo comes
    rwa [Function.update_eq_self] at idle
  have allowed : loaded.hostTarget ⟨0⟩ ⟨0⟩ [.string] = .ok ⟨⟨0⟩, ⟨0⟩, [.string]⟩ := rfl
  have calls (thread : ThreadId) : Happens (fun _ _ => True) {} thread loaded [] loaded call :=
    .calls allowed (List.forall_mem_nil _)
  exact (first.next (calls ⟨0⟩)).next (calls ⟨1⟩)

/-- The two threads take turns. -/
def playing : Play (fun _ _ => True) {} :=
  Play.scheduled served (fun time => ⟨time % 2⟩) {⟨0⟩, ⟨1⟩}
    (by
      intro time
      rcases Nat.mod_two_eq_zero_or_one time with even | odd
      · simp [even]
      · simp [odd])
    (by
      intro thread member time
      simp only [Finset.mem_insert, Finset.mem_singleton] at member
      rcases member with rfl | rfl
      · exact ⟨2 * time, by omega, by simp⟩
      · exact ⟨2 * time + 1, by omega, by simp [Nat.add_mod]⟩)
    (by
      intro thread apart
      simp only [Finset.mem_insert, Finset.mem_singleton, not_or] at apart
      simp only [called, Function.update_of_ne apart.1, Function.update_of_ne apart.2])

/-- However deep it calls itself, both calls end. -/
theorem calls_end_growing :
    (∀ thread, depth (called.2 thread) ≤ 256) ∧
      (∃ steps after,
        (Request.invoke ⟨0⟩ ⟨0⟩ [.string] []).perform {} steps loaded = some after) ∧
      ∀ thread, ∃ later ≥ 0, playing.threads later thread = [] := by
  have history : History {} [⟨loaded, []⟩, ⟨.empty, []⟩] := .next .fresh (.loads loads)
  rcases calls_end {} with ⟨bounded, alone, together⟩
  exact ⟨bounded _ called.1 called.2 served, alone loaded _ history onward _,
    together _ playing (takeTurns_onward onward {} _) 0⟩

example : (loaded.invoke { callDepth := 2 } 16 ⟨0⟩ ⟨0⟩ [.string] []).map (·.2) =
    some (.error (.callDepthExceeded 2)) := rfl

end Growing

end Rekindle.Machine
