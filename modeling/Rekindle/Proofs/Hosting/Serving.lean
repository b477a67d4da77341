import Mathlib.Logic.Function.Basic
import Rekindle.Proofs.Machine.Requests

/-!
# Serving a host

What happens on the threads of a machine, one thing after the other. An idle thread takes what the
host asks for; a thread that works for the host takes steps until it is idle again. Performing a
request is a chain of such happenings.
-/

namespace Rekindle.Machine

/-- Something that happens on a thread. The host hands over values that it may offer while some
modules are loaded. -/
inductive Happens (offers : Array Module → Value → Prop) (limits : Limits) (thread : ThreadId) :
    Store → List Activation → Store → List Activation → Prop where
  | loads {store after : Store} {module : Module} {handle : ModuleHandle}
      (loads : store.load module = .ok (after, handle)) :
      Happens offers limits thread store [] after []
  | calls {store : Store} {handle : ModuleHandle} {routine : RoutineId}
      {arguments : List ValueType} {target : BoundRoutine} {parameters : List Value}
      (allowed : store.hostTarget handle routine arguments = .ok target)
      (offered : ∀ value ∈ parameters, offers store.modules value) :
      Happens offers limits thread store [] store [.call target parameters]
  | accesses {store : Store} {handle : ModuleHandle} {field : FieldId}
      {arguments : List ValueType} {place : Address}
      (allowed : store.hostAddress handle field arguments = .ok place) :
      Happens offers limits thread store [] store [.access place.instantiation]
  | writes {store : Store} {handle : ModuleHandle} {field : FieldId} {arguments : List ValueType}
      {place : Address} {value : Value}
      (allowed : store.hostAddress handle field arguments = .ok place)
      (offered : offers store.modules value) :
      Happens offers limits thread store [] (store.setSlot place value) []
  | issues (store : Store) (targets : List BoundRoutine) :
      Happens offers limits thread store [] (store.newCallback targets).1 []
  | collects (store : Store) : Happens offers limits thread store [] store.collectGarbage []
  | steps {store after : Store} {activations next : List Activation}
      (running : step limits.callDepth thread store activations = .running after next) :
      Happens offers limits thread store activations after next
  | waits {store after : Store} {activations next : List Activation}
      (blocked : step limits.callDepth thread store activations = .blocked after next) :
      Happens offers limits thread store activations after next
  | finishes {store after : Store} {activations : List Activation}
      {result : Except Trap (Option Value)}
      (finished : step limits.callDepth thread store activations = .finished after result) :
      Happens offers limits thread store activations after []

/-- A store and what a thread is doing with it. -/
structure Moment where
  store : Store
  activations : List Activation

/-- The moments that a thread comes to from a moment while no other thread does anything. -/
abbrev ComesTo (offers : Array Module → Value → Prop) (limits : Limits) (thread : ThreadId) :
    Moment → Moment → Prop :=
  Relation.ReflTransGen fun now later =>
    Happens offers limits thread now.store now.activations later.store later.activations

/-- The states of a machine with any number of threads that serve a host. -/
inductive Served (offers : Array Module → Value → Prop) (limits : Limits) :
    Store → (ThreadId → List Activation) → Prop where
  | fresh : Served offers limits .empty fun _ => []
  | next {store after : Store} {threads : ThreadId → List Activation} {thread : ThreadId}
      {activations : List Activation} (before : Served offers limits store threads)
      (happens : Happens offers limits thread store (threads thread) after activations) :
      Served offers limits after (Function.update threads thread activations)

/-- The moments of a machine whose only thread serves a host that may hand over everything, the
latest first. -/
inductive History (limits : Limits) : List Moment → Prop where
  | fresh : History limits [⟨.empty, []⟩]
  | next {now later : Moment} {earlier : List Moment} (before : History limits (now :: earlier))
      (happens : Happens (fun _ _ => True) limits hostThread now.store now.activations later.store
        later.activations) : History limits (later :: now :: earlier)

/-- A request that hands over only what the host may offer. -/
def Request.Offered (offers : Array Module → Value → Prop) (modules : Array Module) :
    Request → Prop
  | .load _ | .collectGarbage | .read _ _ _ => True
  | .invoke _ _ _ parameters => ∀ value ∈ parameters, offers modules value
  | .write _ _ _ value => offers modules value

variable {offers : Array Module → Value → Prop} {limits : Limits} {thread : ThreadId}
  {store after : Store} {activations next : List Activation} {steps : Nat}

/-! ### Runs and requests -/

/-- A thread that comes to its end is idle. -/
theorem comesTo_of_run {result : Except Trap (Option Value)}
    (runs : run limits.callDepth thread steps store activations = some (after, result)) :
    ComesTo offers limits thread ⟨store, activations⟩ ⟨after, []⟩ := by
  induction steps generalizing store activations with
  | zero => cases runs
  | succ steps ih =>
      simp only [run] at runs
      rcases progress : step limits.callDepth thread store activations with
        ⟨middle, next⟩ | ⟨middle, next⟩ | ⟨last, ended⟩
      · rw [progress] at runs
        exact .head (.steps progress) (ih runs)
      · rw [progress] at runs
        cases runs
      · rw [progress] at runs
        cases runs
        exact .single (.finishes progress)

theorem Store.hostAddress_congr (same : after.modules = store.modules) (handle : ModuleHandle)
    (field : FieldId) (arguments : List ValueType) :
    after.hostAddress handle field arguments = store.hostAddress handle field arguments := by
  simp only [Store.hostAddress, Store.module, same]

/-- A request that is performed is a chain of what happens on the host's thread. -/
theorem Request.Performed.comesTo {request : Request}
    (performed : request.Performed limits steps store after)
    (offered : request.Offered offers store.modules) :
    ComesTo offers limits hostThread ⟨store, []⟩ ⟨after, []⟩ := by
  cases performed with
  | refused => exact .refl
  | loaded loads => exact .single (.loads loads)
  | collected => exact .single (.collects store)
  | ran begins runs =>
      refine .head ?_ (comesTo_of_run runs)
      cases begins with
      | call allowed parameters => exact .calls allowed offered
      | reading allowed | writing allowed => exact .accesses allowed
  | @wrote handle field arguments place ready _ allowed value runs =>
      have modules : ready.modules = store.modules := (run_changes runs).modules_eq
      have stillAllowed : ready.hostAddress handle field arguments = .ok place := by
        rw [Store.hostAddress_congr modules, allowed]
      have stillOffered : offers ready.modules value := by
        rw [modules]
        exact offered
      exact .head (.accesses allowed)
        (.tail (comesTo_of_run runs) (.writes stillAllowed stillOffered))

/-- What holds of all that one thread has come to, and of all that the others do, holds of
everything. -/
theorem forall_update {threads : ThreadId → List Activation} {property : Activation → Prop}
    (moved : ∀ activation ∈ next, property activation)
    (others : ∀ other, ∀ activation ∈ threads other, property activation) :
    ∀ other, ∀ activation ∈ Function.update threads thread next other, property activation := by
  refine (Function.forall_update_iff threads
    (fun _ stack => ∀ activation ∈ stack, property activation)).mpr ⟨moved, ?_⟩
  exact fun other _ => others other

/-- A thread may come to a moment while the others do nothing. -/
theorem Served.comesTo {threads : ThreadId → List Activation}
    (served : Served offers limits store threads) {later : Moment}
    (comes : ComesTo offers limits thread ⟨store, threads thread⟩ later) :
    Served offers limits later.store (Function.update threads thread later.activations) := by
  induction comes with
  | refl =>
      rw [Function.update_eq_self]
      exact served
  | @tail middle last _ happens ih =>
      have goesOn : Happens offers limits thread middle.store
          (Function.update threads thread middle.activations thread) last.store
            last.activations := by
        rw [Function.update_self]
        exact happens
      have reached := ih.next goesOn
      rwa [Function.update_idem] at reached

/-- What a machine comes to goes on its history. -/
theorem History.comesTo {now later : Moment} {earlier : List Moment}
    (history : History limits (now :: earlier))
    (comes : ComesTo (fun _ _ => True) limits hostThread now later) :
    ∃ between, History limits (later :: between) ∧ now :: earlier <:+ later :: between := by
  induction comes with
  | refl => exact ⟨earlier, history, List.suffix_rfl⟩
  | @tail middle last _ happens ih =>
      rcases ih with ⟨between, before, suffix⟩
      exact ⟨middle :: between, .next before happens, suffix.trans (List.suffix_cons last _)⟩

/-- A host's request that is performed goes on a history. -/
theorem History.performs {request : Request} {earlier : List Moment}
    (history : History limits (⟨store, []⟩ :: earlier))
    (performs : request.perform limits steps store = some after) :
    ∃ between, History limits (⟨after, []⟩ :: between) ∧
      ⟨store, []⟩ :: earlier <:+ ⟨after, []⟩ :: between := by
  refine history.comesTo ((Request.performed performs).comesTo ?_)
  cases request <;> simp [Request.Offered]

end Rekindle.Machine
