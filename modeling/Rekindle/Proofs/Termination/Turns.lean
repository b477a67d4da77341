import Rekindle.Proofs.Hosting.Orderly
import Rekindle.Proofs.Termination.Onward

/-!
# Turns

Everything that one attempt of a thread can lead to, whichever thread it is and whatever the others
are doing. All that is proved of single steps from here on is proved by cases on the turn.
-/

namespace Rekindle.Machine

open Fallible

/-- The initialization of an instantiation has begun, and may have ended. -/
def Store.HasStarted (store : Store) (instantiation : Instantiation) : Prop :=
  ∃ status, store.status? instantiation = some status ∧ status ≠ .pending

/-- A store with the same modules and the same statuses. -/
structure Store.SameStatuses (store after : Store) : Prop where
  modules_eq : after.modules = store.modules
  status?_eq : ∀ instantiation, after.status? instantiation = store.status? instantiation

/-- A thread begins with the initialization of what it asks for. -/
structure Begins (thread : ThreadId) (store : Store) (activations : List Activation)
    (instantiation : Instantiation) (after : Store) : Prop where
  asks : Asks store activations instantiation
  unstarted : ¬store.HasStarted instantiation
  modules_eq : after.modules = store.modules
  status?_eq : ∀ other, after.status? other =
    if other = instantiation then some (.running thread) else store.status? other

/-- A thread asks for what another one is initializing, and waits. -/
structure Blocks (thread : ThreadId) (store : Store) (activations : List Activation)
    (after : Store) (edge : WaitEdge Instantiation) : Prop where
  asks : Asks store activations edge.key
  same : store.SameStatuses after
  waiter_eq : edge.waiter = thread
  runs : store.status? edge.key = some (.running edge.owner)
  waits_eq : after.waits = store.waits.insert edge

/-- What an attempt leads to. -/
inductive Turn (limit : Nat) (thread : ThreadId) (store : Store) :
    List Activation → Attempt → Prop where
  | idle : Turn limit thread store [] (.returned store none)
  | ends (instantiation : Instantiation) (below : List Activation) :
      Turn limit thread store (.initializer instantiation :: below)
        (.running (store.publish instantiation (.ok ())) below)
  /-- What is on top is over. -/
  | completes {activation : Activation} {below : List Activation} {after : Store}
      (same : store.SameStatuses after)
      (notInitializer : ∀ instantiation, activation ≠ .initializer instantiation)
      (result : Option Value) :
      Turn limit thread store (activation :: below) (complete after result below)
  /-- A body goes on. -/
  | proceeds {frame next : Frame} {below : List Activation} {after : Store}
      (same : store.SameStatuses after) (current : frame.instruction?.isSome = true)
      (proceeds : frame.Proceeds next) :
      Turn limit thread store (.body frame :: below) (.running after (.body next :: below))
  /-- A body that asks for nothing calls something. -/
  | calls {frame rest : Frame} {below : List Activation} {above : Activation}
      (current : frame.instruction?.isSome = true) (asksNothing : ∀ place, ¬frame.Uses store place)
      (stands : frame.Stands rest) (called : above.isWaiting = true) :
      Turn limit thread store (.body frame :: below) (.running store (above :: .body rest :: below))
  /-- The first of several routines is called. -/
  | next (target : BoundRoutine) (others : List BoundRoutine) (below : List Activation) :
      Turn limit thread store (.targets (target :: others) :: below)
        (.running store (.call target [] :: .targets others :: below))
  | enters {target : BoundRoutine} {parameters : List Value} {below : List Activation}
      {after : Store} (same : store.SameStatuses after) :
      Turn limit thread store (.call target parameters :: below)
        (entering limit after target parameters below)
  /-- A type without an initializer is initialized. -/
  | begins {activations : List Activation} {instantiation : Instantiation} {after : Store}
      (begins : Begins thread store activations instantiation after) :
      Turn limit thread store activations
        (.running after (.initializer instantiation :: activations))
  /-- A type with an initializer is initialized. -/
  | runs {activations : List Activation} {instantiation : Instantiation} {after : Store}
      (begins : Begins thread store activations instantiation after) (target : BoundRoutine) :
      Turn limit thread store activations
        (entering limit after target [] (.initializer instantiation :: activations))
  | raises {activations : List Activation} {after : Store} (same : store.SameStatuses after)
      (trap : Trap) : Turn limit thread store activations (.raised after trap activations)
  /-- What is to be called is not there. -/
  | refuses {target : BoundRoutine} {parameters : List Value} {below : List Activation}
      (trap : Trap) :
      Turn limit thread store (.call target parameters :: below) (.raised store trap below)
  | waits {activations : List Activation} {after : Store} {edge : WaitEdge Instantiation}
      (blocks : Blocks thread store activations after edge) :
      Turn limit thread store activations (.blocked after activations)

variable {limit : Nat} {thread : ThreadId} {store middle after : Store} {frame : Frame}
  {activations below : List Activation} {instantiation : Instantiation}

namespace Store

theorem SameStatuses.refl (store : Store) : store.SameStatuses store := ⟨rfl, fun _ => rfl⟩

theorem SameStatuses.trans (first : store.SameStatuses middle)
    (second : middle.SameStatuses after) : store.SameStatuses after :=
  ⟨second.modules_eq.trans first.modules_eq,
    fun instantiation => (second.status?_eq instantiation).trans (first.status?_eq instantiation)⟩

theorem SameStatuses.of_write {place : Address} {value : Value}
    (wrote : store.write place value = .ok after) : store.SameStatuses after := by
  unfold Store.write at wrote
  split at wrote
  · cases wrote
    exact ⟨rfl, status?_setSlot store place value⟩
  · cases wrote

theorem SameStatuses.of_execute {instruction : Instruction} {next : Frame}
    (executed : frame.execute store instruction = .ok (after, next)) :
    store.SameStatuses after := by
  have remains : everything.Confines (frame.execute store instruction) _ :=
    Frame.execute_confined frame.within_everything store.within_everything fun _ _ => trivial
  rw [executed] at remains
  exact ⟨remains.1.modules_eq, remains.1.status?_eq⟩

variable {ticket : Ticket Trap} {storage : Storage}

/-! ### What a thread is told -/

/-- Who is told to run an initializer is the first to ask. -/
theorem Asked.starts (asked : store.Asked thread instantiation after .run storage) :
    ¬store.HasStarted instantiation ∧ ∀ other, after.status? other =
      if other = instantiation then some (.running thread) else store.status? other := by
  have pending := asked.pending
  refine ⟨?_, ?_⟩
  · rintro ⟨status, found, started⟩
    rcases asked.status?_eq with present | ⟨missing, _⟩
    · rw [present, pending] at found
      exact started (Option.some.inj found).symm
    · rw [missing] at found
      cases found
  · intro other
    rw [asked.status?_after, pending]
    rfl

/-- Who is told anything else changes no status. -/
theorem Asked.sameStatuses (asked : store.Asked thread instantiation after ticket storage)
    (told : ticket ≠ .run) : store.SameStatuses after := by
  rw [asked.ticket_eq] at told
  have kept : (storage.status.ask store.waits thread instantiation).2.1 = storage.status := by
    cases status : storage.status with
    | pending =>
        rw [status] at told
        exact absurd rfl told
    | running owner =>
        simp only [Status.ask]
        split <;> rfl
    | done | failed => rfl
  refine ⟨asked.modules_eq, ?_⟩
  intro other
  rw [asked.status?_after, kept]
  split
  · rename_i same
    subst same
    rcases asked.status?_eq with present | ⟨_, pending⟩
    · rw [present]
    · rw [pending] at told
      exact absurd rfl told
  · rfl

/-- Who has to wait is entered in the wait table. -/
theorem Asked.blocks (asked : store.Asked thread instantiation after .wait storage)
    (asks : Asks store activations instantiation) :
    ∃ edge, Blocks thread store activations after edge := by
  have same := asked.sameStatuses (by simp)
  have told := asked.ticket_eq
  have waits := asked.waits_eq
  cases status : storage.status with
  | running owner =>
      have runs : store.status? instantiation = some (.running owner) := by
        rcases asked.status?_eq with present | ⟨_, pending⟩
        · rw [present, status]
        · rw [pending] at status
          cases status
      simp only [status, Status.ask] at told waits
      split at told
      · cases told
      · rename_i held
        rw [if_neg held] at waits
        exact ⟨⟨thread, owner, instantiation⟩, asks, same, rfl, runs, waits⟩
  | pending | done | failed =>
      rw [status] at told
      cases told

end Store

/-! ### Bodies that call -/

theorem prepareCall_stands (store : Store) (frame : Frame) (reference : RoutineRef) :
    Gives (prepareCall store frame reference) fun prepared => frame.Stands prepared.2 := by
  refine .after fun module => ?_
  split
  · exact .error _ _
  · exact Frame.popMany_stands frame _

theorem prepareInvoke_stands (frame : Frame) :
    Gives (prepareInvoke frame) fun prepared => frame.Stands prepared.2 := by
  refine (Frame.pop_stands frame).bind fun ⟨value, rest⟩ stands => ?_
  cases value with
  | callback object => exact .ok stands
  | _ => exact .error _ _

/-- A frame whose instruction names no field uses none. -/
theorem Frame.not_uses {instruction : Instruction} (current : frame.instruction? = some instruction)
    (none : instruction.field? = none) (place : Address) : ¬frame.Uses store place := by
  intro uses
  cases uses with
  | load named | loadAddress named | store named =>
      rw [current] at named
      cases named
      cases none

/-! ### Attempts -/

/-- What needs an instantiation goes on with it, begins to initialize it, raises a trap or waits. -/
theorem acquire_turn (asks : Asks store activations instantiation) {proceed : Store → Attempt}
    (goesOn : ∀ after, store.SameStatuses after →
      Turn limit thread store activations (proceed after)) :
    Turn limit thread store activations
      (acquire limit thread store instantiation activations proceed) := by
  rcases answer : store.ask thread instantiation with trap | ⟨after, ticket⟩
  · simp only [acquire, answer]
    exact .raises (.refl store) trap
  · rcases Store.ask_ok answer with ⟨storage, asked⟩
    simp only [acquire, answer]
    cases ticket with
    | ready => exact goesOn after (asked.sameStatuses (by simp))
    | failed cause => exact .raises (asked.sameStatuses (by simp)) _
    | wait =>
        rcases asked.blocks asks with ⟨edge, blocks⟩
        exact .waits blocks
    | run =>
        have begins : Begins thread store activations instantiation after :=
          ⟨asks, asked.starts.1, asked.modules_eq, asked.starts.2⟩
        rcases found : initializerOf after instantiation with _ | target
        · simp only [startInitializer, found]
          exact .begins begins
        · simp only [startInitializer_eq found]
          exact .runs begins target

theorem call_turn (store : Store) (target : BoundRoutine) (parameters : List Value)
    (below : List Activation) :
    Turn limit thread store (.call target parameters :: below)
      (call limit thread store target parameters below) := by
  rcases owned : ownerOf store target with trap | instantiation
  · simp only [call, owned]
    exact .refuses trap
  · rw [call_eq owned]
    exact acquire_turn (.call owned) fun after same => .enters same

section Bodies

variable {instruction : Instruction} (current : frame.instruction? = some instruction)
include current

theorem proceedWith_turn {moved : Except Trap (Store × Frame)}
    (same : store.SameStatuses middle)
    (keeps : Gives moved fun result => middle.SameStatuses result.1 ∧ frame.Proceeds result.2) :
    Turn limit thread store (.body frame :: below) (proceedWith middle frame below moved) := by
  rcases moved with trap | ⟨after, next⟩
  · exact .raises same trap
  · rcases keeps _ rfl with ⟨sameAfter, proceeds⟩
    exact .proceeds (same.trans sameAfter) (by rw [current]; rfl) proceeds

theorem accessField_turn {reference : FieldRef}
    (reaches : ∀ place, frame.address store reference = .ok place → frame.Uses store place)
    {use : Store → Address → Except Trap (Store × Frame)}
    (keeps : ∀ ready place, Gives (use ready place) fun result =>
      ready.SameStatuses result.1 ∧ frame.Proceeds result.2) :
    Turn limit thread store (.body frame :: below)
      (accessField limit thread store frame below reference use) := by
  rcases placed : frame.address store reference with trap | place
  · simp only [accessField, placed]
    exact .raises (.refl store) trap
  · simp only [accessField, placed]
    refine acquire_turn (.field (reaches place placed) below) fun ready same => ?_
    exact proceedWith_turn current same (keeps ready place)

theorem stepBody_turn : Turn limit thread store (.body frame :: below)
    (stepBody limit thread store frame below instruction) := by
  have some : frame.instruction?.isSome = true := by rw [current]; rfl
  have here := Frame.Stands.refl frame
  have immediate : Turn limit thread store (.body frame :: below)
      (proceedWith store frame below (frame.execute store instruction)) := by
    refine proceedWith_turn current (.refl store) ?_
    rintro ⟨after, next⟩ executed
    exact ⟨Store.SameStatuses.of_execute executed, Frame.execute_proceeds current _ executed⟩
  cases instruction with
  | loadField reference =>
      refine accessField_turn current (fun _ placed => .load current placed) fun ready place => ?_
      exact .after fun value => (here.yield value).bind fun next proceeds =>
        .ok ⟨.refl ready, proceeds⟩
  | loadFieldAddress reference =>
      refine accessField_turn current (fun _ placed => .loadAddress current placed)
        fun ready place => ?_
      exact (here.yield _).bind fun next proceeds => .ok ⟨.refl ready, proceeds⟩
  | storeField reference =>
      simp only [stepBody]
      rcases popped : frame.pop with trap | ⟨value, rest⟩
      · exact .raises (.refl store) trap
      · have stands := Frame.pop_stands frame _ popped
        refine accessField_turn current (fun _ placed => .store current popped placed)
          fun ready place => ?_
        intro result written
        rcases bind_eq_ok_iff.mp written with ⟨after, wrote, made⟩
        cases made
        exact ⟨.of_write wrote, stands.advance⟩
  | call reference =>
      simp only [stepBody]
      rcases prepared : prepareCall store frame reference with trap | ⟨parameters, rest⟩
      · exact .raises (.refl store) trap
      · have stands : frame.Stands rest := prepareCall_stands store frame reference _ prepared
        exact .calls some (Frame.not_uses current rfl) stands rfl
  | invokeCallback =>
      simp only [stepBody]
      rcases prepared : prepareInvoke frame with trap | ⟨targets, rest⟩
      · exact .raises (.refl store) trap
      · have stands : frame.Stands rest := prepareInvoke_stands frame _ prepared
        exact .calls some (Frame.not_uses current rfl) stands rfl
  | ret =>
      simp only [stepBody]
      rcases resultOf frame with trap | result
      · exact .raises (.refl store) trap
      · exact .completes (.refl store) (by simp) result
  | _ => exact immediate

end Bodies

/-- Every attempt is a turn. -/
theorem attempt_turn (limit : Nat) (thread : ThreadId) (store : Store)
    (activations : List Activation) :
    Turn limit thread store activations (attempt limit thread store activations) := by
  cases activations with
  | nil => exact .idle
  | cons activation below =>
      cases activation with
      | initializer instantiation => exact .ends instantiation below
      | targets listed =>
          cases listed with
          | nil => exact .completes (.refl store) (by simp) none
          | cons target others => exact .next target others below
      | call target parameters => exact call_turn store target parameters below
      | access instantiation =>
          refine acquire_turn (.access instantiation below) fun after same => ?_
          exact .completes same (by simp) none
      | body frame =>
          rcases current : frame.instruction? with _ | instruction
          · simp only [attempt, current]
            exact .raises (.refl store) _
          · simp only [attempt, current]
            exact stepBody_turn current

end Rekindle.Machine
