import Mathlib.Logic.Relation
import Rekindle.Proofs.Hosting.Fitting
import Rekindle.Proofs.Registry.Stacking

/-!
# Asking for instantiations

What the host's thread asks for before it goes on, and what asking does to the statuses of
instantiations. A status advances: storage arises pending, its initializer is started, and it ends
once and for all.
-/

namespace Rekindle.Machine

/-! ### What a thread asks for -/

/-- A frame whose current instruction uses the field at a place. -/
inductive Frame.Uses (store : Store) (frame : Frame) : Address → Prop where
  | load {reference : FieldRef} {place : Address}
      (current : frame.instruction? = some (.loadField reference))
      (placed : frame.address store reference = .ok place) : Uses store frame place
  | loadAddress {reference : FieldRef} {place : Address}
      (current : frame.instruction? = some (.loadFieldAddress reference))
      (placed : frame.address store reference = .ok place) : Uses store frame place
  | store {reference : FieldRef} {place : Address} {popped : Value × Frame}
      (current : frame.instruction? = some (.storeField reference))
      (pops : frame.pop = .ok popped)
      (placed : frame.address store reference = .ok place) : Uses store frame place

/-- The instantiation that a thread asks for before it does what is next. -/
inductive Asks (store : Store) : List Activation → Instantiation → Prop where
  | call {target : BoundRoutine} {parameters : List Value} {below : List Activation}
      {instantiation : Instantiation} (owned : ownerOf store target = .ok instantiation) :
      Asks store (.call target parameters :: below) instantiation
  | access (instantiation : Instantiation) (below : List Activation) :
      Asks store (.access instantiation :: below) instantiation
  | field {frame : Frame} {place : Address} (uses : frame.Uses store place)
      (below : List Activation) : Asks store (.body frame :: below) place.instantiation

/-- The thread asks for an instantiation and is told to run its initializer. -/
def Starts (thread : ThreadId) (store : Store) (activations : List Activation)
    (instantiation : Instantiation) : Prop :=
  Asks store activations instantiation ∧
    ∃ after, store.ask thread instantiation = .ok (after, .run)

/-- An instruction of a frame uses the field at a place, and the thread is told to go on. -/
def Resolves (thread : ThreadId) (store : Store) (frame : Frame) (place : Address) : Prop :=
  frame.Uses store place ∧ ∃ after, store.ask thread place.instantiation = .ok (after, .ready)

variable {store middle after : Store} {activations below : List Activation} {limit : Nat}
  {thread : ThreadId} {instantiation : Instantiation}

/-- A thread that asks for an instantiation attempts to acquire it. -/
theorem Asks.attempt_eq (asks : Asks store activations instantiation) (limit : Nat)
    (thread : ThreadId) : ∃ proceed, attempt limit thread store activations =
      acquire limit thread store instantiation activations proceed := by
  cases asks with
  | call owned => exact ⟨_, call_eq owned⟩
  | access => exact ⟨_, rfl⟩
  | field uses below =>
      cases uses with
      | load current placed | loadAddress current placed =>
          simp only [attempt, current, stepBody, accessField, placed]
          exact ⟨_, rfl⟩
      | store current pops placed =>
          simp only [attempt, current, stepBody, pops, accessField, placed]
          exact ⟨_, rfl⟩

/-- What a thread asks for depends on the loaded modules only. -/
theorem Asks.of_modules (asks : Asks store activations instantiation)
    (modules : after.modules = store.modules) : Asks after activations instantiation := by
  have address (frame : Frame) (reference : FieldRef) :
      frame.address after reference = frame.address store reference := by
    simp only [Frame.address, Store.module, modules]
  cases asks with
  | call owned =>
      refine .call ?_
      rw [ownerOf_eq_ok_iff, modules]
      exact ownerOf_eq_ok_iff.mp owned
  | access => exact .access _ _
  | field uses below =>
      refine .field ?_ below
      cases uses with
      | load current placed => exact .load current ((address _ _).trans placed)
      | loadAddress current placed => exact .loadAddress current ((address _ _).trans placed)
      | store current pops placed => exact .store current pops ((address _ _).trans placed)

/-! ### Statuses -/

/-- One change of the status of an instantiation. -/
inductive Advance : Option (Status Trap) → Option (Status Trap) → Prop where
  | arises : Advance none (some .pending)
  | starts : Advance (some .pending) (some (.running hostThread))
  | ends (outcome : Except Trap Unit) :
      Advance (some (.running hostThread)) (some (.ofOutcome outcome))

/-- What becomes of a status: it stays as it is or advances. -/
abbrev Advances : Option (Status Trap) → Option (Status Trap) → Prop :=
  Relation.ReflTransGen Advance

/-- A status that does not advance. -/
def Status.IsFinal : Status Trap → Prop
  | .done | .failed _ => True
  | .pending | .running _ => False

namespace Advances

variable {earlier later : Option (Status Trap)} {status : Status Trap}

/-- An initialization that has ended stays as it is. -/
theorem eq_of_final (advances : Advances (some status) later) (final : status.IsFinal) :
    later = some status := by
  rcases Relation.ReflTransGen.cases_head advances with rfl | ⟨next, advance, _⟩
  · rfl
  · cases advance <;> cases final

/-- Storage that has arisen stays. -/
theorem isSome (advances : Advances earlier later) (some : earlier.isSome = true) :
    later.isSome = true := by
  induction advances with
  | refl => exact some
  | tail _ advance _ =>
      cases advance <;> rfl

end Advances

/-! ### Stores in which nothing fails -/

/-- A later store with the same modules in which statuses have advanced and no initializer has
failed meanwhile. -/
structure Store.Goes (store after : Store) : Prop where
  modules_eq : after.modules = store.modules
  advances : ∀ instantiation,
    Advances (store.status? instantiation) (after.status? instantiation)
  failed : ∀ instantiation cause, after.status? instantiation = some (.failed cause) →
    store.status? instantiation = some (.failed cause)

namespace Store.Goes

theorem of_same (modules : after.modules = store.modules)
    (same : ∀ instantiation, after.status? instantiation = store.status? instantiation) :
    store.Goes after := by
  refine ⟨modules, ?_, ?_⟩
  · intro instantiation
    rw [same]
  · intro instantiation cause failed
    rw [← same, failed]

theorem refl (store : Store) : store.Goes store := of_same rfl fun _ => rfl

theorem trans (first : store.Goes middle) (second : middle.Goes after) : store.Goes after :=
  ⟨second.modules_eq.trans first.modules_eq,
    fun instantiation => (first.advances instantiation).trans (second.advances instantiation),
    fun instantiation cause failed =>
      first.failed instantiation cause (second.failed instantiation cause failed)⟩

end Store.Goes

theorem Store.Touched.modules_eq {scope : Scope} (touched : store.Touched scope after) :
    after.modules = store.modules := by
  cases touched <;> rfl

/-- What a frame does at once leaves the statuses. -/
theorem Store.Touched.status?_eq {scope : Scope} (touched : store.Touched scope after)
    (instantiation : Instantiation) :
    after.status? instantiation = store.status? instantiation := by
  cases touched with
  | same | issued => rfl
  | wrote => exact status?_setSlot ..

/-- The statuses are those of instantiations whose initialization has ended, and of those that the
host's thread is initializing. -/
structure Settled (store : Store) (instantiations : List Instantiation) : Prop where
  started : Started store instantiations
  others : ∀ instantiation status, store.status? instantiation = some status →
    status.IsFinal ∨ instantiation ∈ instantiations

/-- What the host's thread is told about an instantiation while it is initializing some. -/
inductive Told (store after : Store) (instantiation : Instantiation)
    (instantiations : List Instantiation) : Ticket Trap → Prop where
  | ready (active : store.status? instantiation = some .done ∨ instantiation ∈ instantiations)
      (same : ∀ other, after.status? other = store.status? other) :
      Told store after instantiation instantiations .ready
  | run (unseen : store.status? instantiation = none)
      (running : after.status? instantiation = some (.running hostThread))
      (same : ∀ other, other ≠ instantiation → after.status? other = store.status? other) :
      Told store after instantiation instantiations .run
  | failed (cause : Trap) (failed : store.status? instantiation = some (.failed cause))
      (same : ∀ other, after.status? other = store.status? other) :
      Told store after instantiation instantiations (.failed cause)

/-- What the host's thread is told depends on whether the initialization has ended, is going on or
has not begun; the thread never waits. -/
theorem Settled.told {instantiations : List Instantiation} {ticket : Ticket Trap}
    {storage : Storage} (settled : Settled store instantiations)
    (asked : store.Asked hostThread instantiation after ticket storage) :
    Told store after instantiation instantiations ticket := by
  have told := asked.ticket_eq
  have here := asked.status?_after instantiation
  rw [if_pos rfl] at here
  have others : ∀ other, other ≠ instantiation → after.status? other = store.status? other := by
    intro other apart
    rw [asked.status?_after, if_neg apart]
  have unchanged {status : Status Trap} (before : store.status? instantiation = some status)
      (kept : after.status? instantiation = some status) (other : Instantiation) :
      after.status? other = store.status? other := by
    by_cases same : other = instantiation
    · rw [same, kept, before]
    · exact others other same
  rcases asked.status?_eq with present | ⟨missing, pending⟩
  · rcases settled.others instantiation _ present with final | listed
    · cases status : storage.status with
      | done =>
          rw [status] at told here present
          rw [told]
          exact .ready (.inl present) (unchanged present here)
      | failed cause =>
          rw [status] at told here present
          rw [told]
          exact .failed cause present (unchanged present here)
      | pending | running =>
          rw [status] at final
          cases final
    · have running := settled.started.running instantiation listed
      have status : storage.status = .running hostThread :=
        Option.some.inj (present.symm.trans running)
      rw [status, Status.ask, if_pos (.inl rfl)] at told here
      rw [told]
      exact .ready (.inr listed) (unchanged running here)
  · rw [pending] at told here
    rw [told]
    exact .run missing here others

end Rekindle.Machine
