import Rekindle.Machine.Step
import Rekindle.Proofs.Machine.Storage

/-!
# Instantiations in use

A thread goes on with an instantiation that is initialized, or that it initializes itself. Asking
for such an instantiation changes at most the table of waiting threads.
-/

namespace Rekindle.Machine

open Fallible

/-- Whether a thread that asks for a type of this status goes on with it as it is. -/
def Status.IsActive (thread : ThreadId) : Status Trap → Prop
  | .running owner => owner = thread
  | .done => True
  | .pending | .failed _ => False

/-- Whether a thread that asks for an instantiation goes on with it as it is. -/
def Store.IsActive (thread : ThreadId) (store : Store) (instantiation : Instantiation) : Prop :=
  ∃ storage, store.storage? instantiation = some storage ∧ storage.status.IsActive thread

/-- A store in which at most the table of waiting threads has changed. -/
structure Store.Rests (store after : Store) : Prop where
  modules_eq : after.modules = store.modules
  nextCallback_eq : after.nextCallback = store.nextCallback
  storages : ∀ instantiation, after.storage? instantiation = store.storage? instantiation

variable {thread : ThreadId} {store : Store} {instantiation : Instantiation}

theorem Waits.erase_erase {Key : Type} (waits : Waits Key) (thread : ThreadId) :
    (waits.erase thread).erase thread = waits.erase thread := by
  simp [Waits.erase]

/-- A thread that asks for a type it can use goes on, and waits for nobody then. -/
theorem Store.IsActive.ask_eq (active : store.IsActive thread instantiation) :
    store.ask thread instantiation =
      .ok ({ store with waits := store.waits.erase thread }, .ready) := by
  rcases active with ⟨storage, present, active⟩
  have told : storage.status.ask store.waits thread instantiation =
      (.ready, storage.status, store.waits.erase thread) := by
    rcases status : storage.status with _ | owner | _ | cause <;> rw [status] at active
    · cases active
    · cases active
      simp [Status.ask]
    · rfl
    · cases active
  have demanded : store.demand instantiation = .ok (store, storage) := by
    simp [Store.demand, present]
  have kept : store.updateStorage instantiation (fun other => { other with status := storage.status }) =
      store := updateStorage_self present rfl
  simp only [Store.ask, demanded, ok_bind, told, kept]
  rfl

/-- A thread that asks for a type it can use goes on. -/
theorem Store.IsActive.ask (active : store.IsActive thread instantiation) :
    ∃ after, store.ask thread instantiation = .ok (after, .ready) ∧ store.Rests after :=
  ⟨_, active.ask_eq, rfl, rfl, fun _ => rfl⟩

theorem Store.IsActive.acquire (active : store.IsActive thread instantiation)
    (limit : Nat) : ∃ after, store.Rests after ∧ ∀ activations proceed,
      acquire limit thread store instantiation activations proceed = proceed after := by
  rcases active.ask with ⟨after, asks, rests⟩
  refine ⟨after, rests, ?_⟩
  intro activations proceed
  simp only [Machine.acquire, asks]

end Rekindle.Machine
