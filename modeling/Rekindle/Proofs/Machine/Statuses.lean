import Rekindle.Proofs.Machine.Storage

/-!
# Statuses of instantiations

How far the initialization of each instantiation has come. What the operations of a store do to the
statuses does not depend on what is in the slots.
-/

namespace Rekindle.Machine

/-- How far the initialization of an instantiation has come, if it was asked for before. -/
def Store.status? (store : Store) (instantiation : Instantiation) : Option (Status Trap) :=
  (store.storage? instantiation).map (·.status)

/-- A store in which as many instantiations are initialized as before, and those that a thread was
initializing it still is. -/
structure Store.Persists (thread : ThreadId) (store after : Store) : Prop where
  done : ∀ instantiation, after.status? instantiation = some .done ↔
    store.status? instantiation = some .done
  running : ∀ instantiation, store.status? instantiation = some (.running thread) →
    after.status? instantiation = some (.running thread)

namespace Store

variable {thread : ThreadId} {store middle after : Store} {instantiation other : Instantiation}

theorem isInitialized_iff :
    store.isInitialized instantiation = true ↔ store.status? instantiation = some .done := by
  unfold isInitialized status?
  rcases store.storage? instantiation with _ | storage <;> simp

theorem status?_of_storage? {storage : Storage}
    (found : store.storage? instantiation = some storage) :
    store.status? instantiation = some storage.status := by
  rw [status?, found]
  rfl

@[simp]
theorem status?_setSlot (store : Store) (address : Address) (value : Value)
    (instantiation : Instantiation) :
    (store.setSlot address value).status? instantiation = store.status? instantiation := by
  simp only [status?, setSlot, storage?_updateStorage]
  split
  · rename_i same
    rw [same]
    cases store.storage? address.instantiation <;> rfl
  · rfl

@[simp]
theorem status?_publish (store : Store) (instantiation other : Instantiation)
    (outcome : Except Trap Unit) :
    (store.publish instantiation outcome).status? other =
      if other = instantiation then
        (store.status? instantiation).map fun _ => .ofOutcome outcome
      else store.status? other := by
  simp only [status?, storage?_publish]
  split
  · cases store.storage? instantiation <;> rfl
  · rfl

theorem Persists.refl (thread : ThreadId) (store : Store) : store.Persists thread store :=
  ⟨fun _ => .rfl, fun _ running => running⟩

theorem persists_setSlot (thread : ThreadId) (store : Store) (address : Address) (value : Value) :
    store.Persists thread (store.setSlot address value) := by
  refine ⟨?_, ?_⟩
  · intro instantiation
    rw [status?_setSlot]
  · intro instantiation running
    rw [status?_setSlot]
    exact running

/-! ### Asking -/

variable {ticket : Ticket Trap} {storage : Storage}

/-- The status that a thread finds is what it was, or that of fresh storage. -/
theorem Asked.status?_eq (asked : store.Asked thread instantiation after ticket storage) :
    store.status? instantiation = some storage.status ∨
      store.status? instantiation = none ∧ storage.status = .pending := by
  rcases asked.storage_eq with present | ⟨missing, _, _, _, _, fresh⟩
  · exact .inl (status?_of_storage? present)
  · right
    refine ⟨?_, ?_⟩
    · rw [status?, missing]
      rfl
    · rw [fresh]
      rfl

theorem Asked.status?_after (asked : store.Asked thread instantiation after ticket storage)
    (other : Instantiation) : after.status? other =
      if other = instantiation then
        some (storage.status.ask store.waits thread instantiation).2.1
      else store.status? other := by
  simp only [status?, asked.storage?_eq]
  split <;> rfl

/-- Asking initializes nothing, and a thread goes on initializing what it was initializing. -/
theorem Asked.persists (asked : store.Asked thread instantiation after ticket storage) :
    store.Persists thread after := by
  have found := asked.status?_eq
  refine ⟨?_, ?_⟩
  · intro other
    rw [asked.status?_after]
    split
    · rename_i same
      subst same
      rcases found with present | ⟨missing, pending⟩
      · rw [present]
        rcases storage.status with _ | owner | _ | cause
        · simp [Status.ask]
        · simp only [Status.ask]
          split <;> simp
        · simp [Status.ask]
        · simp [Status.ask]
      · rw [missing, pending]
        simp [Status.ask]
    · exact .rfl
  · intro other running
    rw [asked.status?_after]
    split
    · rename_i same
      subst same
      rcases found with present | ⟨missing, _⟩
      · rw [present] at running
        cases running_eq : storage.status with
        | running owner =>
            rw [running_eq] at running
            cases running
            simp [Status.ask]
        | _ =>
            rw [running_eq] at running
            cases running
      · rw [missing] at running
        cases running
    · exact running

/-- An initializer that somebody is told to run has not been started. -/
theorem Asked.pending (asked : store.Asked thread instantiation after .run storage) :
    storage.status = .pending := by
  have told := asked.ticket_eq
  cases status : storage.status with
  | pending => rfl
  | running owner =>
      simp only [status, Status.ask] at told
      split at told <;> cases told
  | done | failed =>
      rw [status] at told
      cases told

/-- A thread is told to run an initializer only if nobody has started it, and then runs it. -/
theorem Asked.status?_run (asked : store.Asked thread instantiation after .run storage) :
    store.status? instantiation ≠ some (.running thread) ∧
      store.status? instantiation ≠ some .done ∧
      after.status? instantiation = some (.running thread) := by
  have pending := asked.pending
  have later := asked.status?_after instantiation
  rw [if_pos rfl, pending] at later
  refine ⟨?_, ?_, later⟩
  · rcases asked.status?_eq with present | ⟨missing, _⟩
    · simp [present, pending]
    · simp [missing]
  · rcases asked.status?_eq with present | ⟨missing, _⟩
    · simp [present, pending]
    · simp [missing]

end Store

end Rekindle.Machine
