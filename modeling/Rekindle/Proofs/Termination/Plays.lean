import Mathlib.Order.Filter.AtTopBot.Basic
import Mathlib.Order.Filter.Finite
import Rekindle.Proofs.Contention.WaitTable
import Rekindle.Proofs.Termination.Weighing

/-!
# Plays

What happens on the threads of a machine without end, while each thread that serves the host gets
its turn again and again. Without backward jumps a thread that never became idle would in the end do
nothing but wait, always for the same thread, which could never become idle either. There are only
finitely many threads, so some of them would wait for each other in a circle, and the wait table
lets no circle arise.
-/

namespace Rekindle.Machine

open Filter Relation

/-- What happens on finitely many threads of a machine, one thing after the other and without end.
Each thread that is not idle gets its turn sooner or later. -/
structure Play (offers : Array Module → Value → Prop) (limits : Limits) where
  store : ℕ → Store
  threads : ℕ → ThreadId → List Activation
  /-- The thread on which something happens. -/
  mover : ℕ → ThreadId
  crew : Finset ThreadId
  served : Served offers limits (store 0) (threads 0)
  happens : ∀ time, Happens offers limits (mover time) (store time) (threads time (mover time))
    (store (time + 1)) (threads (time + 1) (mover time))
  others : ∀ time thread, thread ≠ mover time → threads (time + 1) thread = threads time thread
  listed : ∀ time, mover time ∈ crew
  fair : ∀ time thread, threads time thread ≠ [] → ∃ later ≥ time, mover later = thread

variable {offers : Array Module → Value → Prop} {limits : Limits} {limit : ℕ}
  {thread other : ThreadId} {store middle after : Store} {activations next : List Activation}
  {edge : WaitEdge Instantiation}

/-! ### The wait table -/

theorem Store.Change.acyclic (change : Change thread store after) (acyclic : store.waits.Acyclic) :
    after.waits.Acyclic := by
  cases change with
  | @ask _ instantiation ticket asks =>
      rcases ask_ok asks with ⟨storage, asked⟩
      rw [asked.waits_eq]
      cases storage.status with
      | pending | done | failed => exact acyclic.erase thread
      | running owner =>
          simp only [Status.ask]
          split
          · exact acyclic.erase thread
          · rename_i held
            exact acyclic.insert (by simpa using (not_or.mp held).2)
  | publish => exact acyclic.release _
  | setSlot | issue => exact acyclic

theorem Store.Changes.acyclic (changes : Changes thread store after)
    (acyclic : store.waits.Acyclic) : after.waits.Acyclic := by
  induction changes with
  | refl => exact acyclic
  | tail _ last ih => exact last.acyclic ih

/-- A thread that waits for another one goes on to do so while that one runs the initializer. -/
theorem Store.Change.keeps (change : Change thread store after) (listed : edge ∈ store.waits.edges)
    (apart : edge.waiter ≠ thread) (runs : after.status? edge.key = some (.running edge.owner)) :
    edge ∈ after.waits.edges := by
  cases change with
  | @ask _ instantiation ticket asks =>
      rcases ask_ok asks with ⟨storage, asked⟩
      have erased : edge ∈ (store.waits.erase thread).edges := Waits.mem_erase.mpr ⟨listed, apart⟩
      rw [asked.waits_eq]
      cases storage.status with
      | pending | done | failed => exact erased
      | running owner =>
          simp only [Status.ask]
          split
          · exact erased
          · exact Waits.mem_insert.mpr (.inr ⟨listed, apart⟩)
  | publish instantiation outcome =>
      refine Waits.mem_release.mpr ⟨listed, ?_⟩
      intro same
      rw [status?_publish, if_pos same] at runs
      rcases Option.map_eq_some_iff.mp runs with ⟨_, _, ended⟩
      rcases outcome with _ | ⟨⟨⟩⟩ <;> cases ended
  | setSlot | issue => exact listed

theorem Store.Changes.keeps (changes : Changes thread store after)
    (listed : edge ∈ store.waits.edges) (apart : edge.waiter ≠ thread)
    (started : store.HasStarted edge.key)
    (runs : after.status? edge.key = some (.running edge.owner)) : edge ∈ after.waits.edges := by
  induction changes with
  | refl => exact listed
  | tail changes last ih =>
      refine last.keeps (ih ?_) apart runs
      rcases last.follows.running _ _ runs with before | ⟨_, unstarted⟩
      · exact before
      · exact absurd ((Store.Changes.follows changes).started _ started) unstarted

theorem Happens.changes (happens : Happens offers limits thread store activations after next) :
    Store.Changes thread store after ∨ after.waits = store.waits := by
  have stepped := step_changes limits.callDepth thread store activations
  cases happens with
  | loads loads =>
      rcases Store.load_ok loads with ⟨_, rfl, _⟩
      exact .inr rfl
  | calls | accesses | writes | issues | collects => exact .inr rfl
  | steps progress | waits progress | finishes progress =>
      rw [progress] at stepped
      exact .inl stepped

theorem Served.acyclic {threads : ThreadId → List Activation}
    (served : Served offers limits store threads) : store.waits.Acyclic := by
  induction served with
  | fresh => exact Waits.acyclic_empty
  | next _ happens ih =>
      rcases happens.changes with changes | same
      · exact changes.acyclic ih
      · rwa [same]

theorem Happens.passed (happens : Happens offers limits thread store activations after next)
    (passed : AllPassed store.modules) : AllPassed after.modules := by
  have stepped := step_changes limits.callDepth thread store activations
  cases happens with
  | loads loads => exact passed.load loads
  | calls | accesses | writes | issues | collects => exact passed
  | steps progress | waits progress | finishes progress =>
      rw [progress] at stepped
      exact stepped.modules_eq ▸ passed

theorem Served.passed {threads : ThreadId → List Activation}
    (served : Served offers limits store threads) : AllPassed store.modules := by
  induction served with
  | fresh =>
      intro position module loaded
      cases loaded
  | next _ happens ih => exact happens.passed ih

/-! ### Steps that wait -/

theorem unwind_ne_blocked (trap : Trap) (activations : List Activation) :
    unwind store trap activations ≠ .blocked after next := by
  induction activations generalizing trap with
  | nil => simp [unwind]
  | cons activation below ih =>
      cases activation with
      | initializer => simp [unwind]
      | targets | call | access => exact ih trap
      | body frame =>
          rcases received : frame.receive trap with passed | caught
          · simp only [unwind, received]
            exact ih passed
          · simp [unwind, received]

theorem complete_ne_blocked (result : Option Value) (activations : List Activation) :
    complete store result activations ≠ .blocked after next := by
  unfold complete
  split
  · simp
  · split <;> simp
  · simp

theorem entering_ne_blocked (target : BoundRoutine) (parameters : List Value)
    (activations : List Activation) :
    entering limit store target parameters activations ≠ .blocked after next := by
  unfold entering
  split <;> simp

theorem Turn.blocks {attempt : Attempt} (turn : Turn limit thread store activations attempt)
    (blocked : attempt = .blocked after next) :
    next = activations ∧ ∃ edge, Blocks thread store activations after edge := by
  cases turn with
  | completes => exact absurd blocked (complete_ne_blocked _ _)
  | enters | runs => exact absurd blocked (entering_ne_blocked _ _ _)
  | waits blocks =>
      cases blocked
      exact ⟨rfl, _, blocks⟩
  | _ => cases blocked

/-- A thread that waits does so with the stack it has, and is entered in the wait table. -/
theorem blocks_of_step (blocked : step limit thread store activations = .blocked after next) :
    next = activations ∧ ∃ edge, Blocks thread store activations after edge := by
  refine (attempt_turn limit thread store activations).blocks ?_
  rw [step] at blocked
  rcases attempted : attempt limit thread store activations with _ | _ | _ | ⟨raised, trap, unwound⟩
  · rw [attempted] at blocked
    cases blocked
  · rw [attempted] at blocked
    cases blocked
    rfl
  · rw [attempted] at blocked
    cases blocked
  · rw [attempted] at blocked
    exact absurd blocked (unwind_ne_blocked trap unwound)

/-- Whatever happens on a thread that is busy before and after makes it lighter, or it waits. -/
theorem Happens.lightens (happens : Happens offers limits thread store activations after next)
    (busy : activations ≠ []) (still : next ≠ []) (stacked : Stacked store activations)
    (forward : store.Forward) (onward : ∀ frame, .body frame ∈ activations → frame.Onward) :
    Lighter (weights limits.callDepth after next) (weights limits.callDepth store activations) ∨
      next = activations ∧ ∃ edge, Blocks thread store activations after edge := by
  cases happens with
  | loads | calls | accesses | writes | issues | collects => exact absurd rfl busy
  | finishes => exact absurd rfl still
  | waits blocked => exact .inr (blocks_of_step blocked)
  | steps running =>
      have lightens : (step limits.callDepth thread store activations).Lightens _ _ :=
        step_lightens stacked forward onward
      rw [running] at lightens
      exact .inl lightens

/-! ### Threads that never become idle -/

namespace Play

variable (play : Play offers limits)

theorem served_at (time : ℕ) : Served offers limits (play.store time) (play.threads time) := by
  induction time with
  | zero => exact play.served
  | succ time ih =>
      have moved : play.threads (time + 1) = Function.update (play.threads time) (play.mover time)
          (play.threads (time + 1) (play.mover time)) := by
        funext thread
        by_cases same : thread = play.mover time
        · rw [same, Function.update_self]
        · rw [Function.update_of_ne same, play.others time thread same]
      rw [moved]
      exact ih.next (play.happens time)

theorem loaded {time later : ℕ} (ordered : time ≤ later) (position : ℕ) (module : Module)
    (found : (play.store time).modules[position]? = some module) :
    (play.store later).modules[position]? = some module := by
  induction later, ordered using Nat.le_induction with
  | base => exact found
  | succ later _ ih => exact (play.happens later).follows.loaded position module ih

theorem started {time later : ℕ} (ordered : time ≤ later) {instantiation : Instantiation}
    (started : (play.store time).HasStarted instantiation) :
    (play.store later).HasStarted instantiation := by
  induction later, ordered using Nat.le_induction with
  | base => exact started
  | succ later _ ih => exact (play.happens later).follows.started instantiation ih

/-- What is being initialized by a thread has been so ever since it was started. -/
theorem running_before {time later : ℕ} (ordered : time ≤ later) {instantiation : Instantiation}
    {owner : ThreadId} (started : (play.store time).HasStarted instantiation)
    (running : (play.store later).status? instantiation = some (.running owner)) :
    (play.store time).status? instantiation = some (.running owner) := by
  induction later, ordered using Nat.le_induction with
  | base => exact running
  | succ later before ih =>
      refine ih ?_
      rcases (play.happens later).follows.running instantiation owner running with still | ⟨_, not⟩
      · exact still
      · exact absurd (play.started before started) not

/-- A thread that from some time on is never idle. -/
def Stuck (thread : ThreadId) : Prop :=
  ∀ᶠ time in atTop, play.threads time thread ≠ []

/-- A thread that from some time on does nothing but wait. -/
structure Waits (thread : ThreadId) (start : ℕ) (activations : List Activation) : Prop where
  same : ∀ time ≥ start, play.threads time thread = activations
  blocks : ∀ time ≥ start, play.mover time = thread →
    ∃ edge, Blocks thread (play.store time) activations (play.store (time + 1)) edge

/-- From the same stack a thread always waits for the same: what it asks for is still what it was,
and is initialized by the same thread. -/
theorem edge_eq {first time : ℕ} (later : first ≤ time) {edge other : WaitEdge Instantiation}
    (blocks : Blocks thread (play.store first) activations (play.store (first + 1)) edge)
    (again : Blocks thread (play.store time) activations (play.store (time + 1)) other) :
    other = edge := by
  have key : other.key = edge.key :=
    again.asks.eq (blocks.asks.of_loaded (play.loaded later))
  have owner : other.owner = edge.owner := by
    have running := play.running_before later (.of_running blocks.runs) (key ▸ again.runs)
    rw [blocks.runs] at running
    simpa using running.symm
  have waiter : other.waiter = edge.waiter := again.waiter_eq.trans blocks.waiter_eq.symm
  cases other
  cases edge
  simp_all

section Waiting

variable {play} {start first time : ℕ} (waits : play.Waits thread start activations)
include waits

theorem Waits.busy (stuck : play.Stuck thread) : activations ≠ [] := by
  rcases eventually_atTop.mp stuck with ⟨since, busy⟩
  have here := waits.same (max start since) (le_max_left _ _)
  rw [← here]
  exact busy _ (le_max_right _ _)

theorem Waits.turns (stuck : play.Stuck thread) (later : time ≥ start) :
    ∃ turn ≥ time, play.mover turn = thread := by
  refine play.fair time thread ?_
  rw [waits.same time later]
  exact waits.busy stuck

variable (stuck : play.Stuck thread) (fromStart : first ≥ start)
  (blocks : Blocks thread (play.store first) activations (play.store (first + 1)) edge)
include stuck fromStart blocks

/-- What a thread waits for that never becomes idle is never completed. -/
theorem Waits.runs (later : time ≥ first) :
    (play.store time).status? edge.key = some (.running edge.owner) := by
  rcases waits.turns stuck (later.trans' fromStart) with ⟨turn, after, moves⟩
  rcases waits.blocks turn (by omega) moves with ⟨other, again⟩
  have same := play.edge_eq (by omega) blocks again
  subst same
  exact play.running_before after (play.started later (.of_running blocks.runs)) again.runs

/-- A thread that never becomes idle stays in the wait table. -/
theorem Waits.stays (later : time ≥ first + 1) : edge ∈ (play.store time).waits.edges := by
  induction time, later using Nat.le_induction with
  | base =>
      rw [blocks.waits_eq]
      exact Machine.Waits.mem_insert.mpr (.inl rfl)
  | succ time later ih =>
      have ordered : first ≤ time := by omega
      by_cases moves : play.mover time = thread
      · rcases waits.blocks time (by omega) moves with ⟨other, again⟩
        have same := play.edge_eq ordered blocks again
        subst same
        rw [again.waits_eq]
        exact Machine.Waits.mem_insert.mpr (.inl rfl)
      · have apart : edge.waiter ≠ play.mover time := by
          rw [blocks.waiter_eq]
          exact Ne.symm moves
        rcases (play.happens time).changes with changes | same
        · exact changes.keeps ih apart (play.started ordered (.of_running blocks.runs))
            (waits.runs stuck fromStart blocks (by omega))
        · rw [same]
          exact ih

end Waiting

variable (onward : ∀ time, (play.store time).Onward)
include onward

theorem forward (time : ℕ) : (play.store time).Forward :=
  ⟨(play.served_at time).passed, onward time⟩

/-- Between two times at which a thread is busy it has become lighter, or it is as before. -/
theorem lightens {time : ℕ} (busy : play.threads time thread ≠ [])
    (still : play.threads (time + 1) thread ≠ []) :
    Lighter (weights limits.callDepth (play.store (time + 1)) (play.threads (time + 1) thread))
        (weights limits.callDepth (play.store time) (play.threads time thread)) ∨
      play.threads (time + 1) thread = play.threads time thread ∧
        (play.mover time = thread → ∃ edge, Blocks thread (play.store time)
          (play.threads time thread) (play.store (time + 1)) edge) := by
  have stacked : Stacked (play.store time) (play.threads time thread) :=
    Kept.served (fun thread => kept_stacked _ thread) (fun _ => .nil) (play.served_at time) thread
  have forward := play.forward onward time
  have bodies := Kept.served (fun thread => kept_onward _ thread)
    (fun _ _ _ listed => absurd listed List.not_mem_nil) (play.served_at time) thread forward
  by_cases moves : play.mover time = thread
  · subst moves
    exact ((play.happens time).lightens busy still stacked forward bodies).imp_right
      (And.imp_right fun blocks _ => blocks)
  · exact .inr ⟨play.others time thread (Ne.symm moves), fun same => absurd same moves⟩

/-- A thread that is never idle again comes to do nothing but wait. -/
theorem waits_of_stuck (stuck : play.Stuck thread) :
    ∃ start activations, play.Waits thread start activations := by
  rcases eventually_atTop.mp stuck with ⟨since, busy⟩
  -- Among the weights that the thread comes to there is one below which there is no other.
  rcases wellFounded_lighter.has_min
    { heavy : Multiset Weight | ∃ time ≥ since, heavy =
      weights limits.callDepth (play.store time) (play.threads time thread) }
    ⟨_, since, le_refl since, rfl⟩ with ⟨_, ⟨start, from_since, rfl⟩, least⟩
  have goesOn {time : ℕ} (later : time ≥ start)
      (noHeavier : NoHeavier (weights limits.callDepth (play.store time) (play.threads time thread))
        (weights limits.callDepth (play.store start) (play.threads start thread))) :
      play.threads (time + 1) thread = play.threads time thread ∧
        (play.mover time = thread → ∃ edge, Blocks thread (play.store time)
          (play.threads time thread) (play.store (time + 1)) edge) := by
    have here : time ≥ since := by omega
    rcases play.lightens onward (busy time here) (busy (time + 1) (by omega)) with lighter | waits
    · exact absurd (lighter.trans_noHeavier noHeavier) (least _ ⟨time + 1, by omega, rfl⟩)
    · exact waits
  have steady : ∀ time ≥ start,
      play.threads time thread = play.threads start thread ∧
        NoHeavier (weights limits.callDepth (play.store time) (play.threads time thread))
          (weights limits.callDepth (play.store start) (play.threads start thread)) := by
    intro time later
    induction time, later using Nat.le_induction with
    | base => exact ⟨rfl, .inl rfl⟩
    | succ time later ih =>
        have same := (goesOn later ih.2).1
        refine ⟨same.trans ih.1, ?_⟩
        rw [same]
        exact (weights_noHeavier _ (play.happens time).follows _).trans ih.2
  refine ⟨start, play.threads start thread, fun time later => (steady time later).1, ?_⟩
  intro time later moves
  rw [← (steady time later).1]
  exact (goesOn later (steady time later).2).2 moves

/-- A thread that is never idle again comes to wait for one that is never idle again either, and
stays in the wait table. -/
theorem awaits_of_stuck (stuck : play.Stuck thread) :
    ∃ owner, play.Stuck owner ∧ ∀ᶠ time in atTop, (play.store time).waits.Awaits thread owner := by
  rcases play.waits_of_stuck onward stuck with ⟨start, activations, waits⟩
  rcases waits.turns stuck le_rfl with ⟨first, fromStart, moves⟩
  rcases waits.blocks first fromStart moves with ⟨edge, blocks⟩
  refine ⟨edge.owner, eventually_atTop.mpr ⟨first, fun time later => ?_⟩,
    eventually_atTop.mpr ⟨first + 1, fun time later => ?_⟩⟩
  · have owned : Owned edge.owner (play.store time) (play.threads time edge.owner) :=
      Kept.served (fun thread => kept_owned _ thread) (fun _ _ running => nomatch running)
        (play.served_at time) edge.owner
    exact List.ne_nil_of_mem (owned edge.key (waits.runs stuck fromStart blocks later))
  · exact ⟨edge, waits.stays stuck fromStart blocks later, blocks.waiter_eq, rfl⟩

/-- Without backward jumps no thread is stuck. -/
theorem not_stuck (thread : ThreadId) : ¬play.Stuck thread := by
  intro stuck
  have together : ∀ᶠ time in atTop, ∀ thread ∈ play.crew, play.Stuck thread →
      ∃ owner, play.Stuck owner ∧ (play.store time).waits.Awaits thread owner := by
    refine (eventually_all_finset play.crew).mpr fun thread _ => ?_
    by_cases stuck : play.Stuck thread
    · rcases play.awaits_of_stuck onward stuck with ⟨owner, stuckToo, awaits⟩
      exact awaits.mono fun time awaits _ => ⟨owner, stuckToo, awaits⟩
    · exact .of_forall fun time isStuck => absurd isStuck stuck
  rcases together.exists with ⟨time, awaits⟩
  have acyclic := (play.served_at time).acyclic
  have listed {thread : ThreadId} (stuck : play.Stuck thread) : thread ∈ play.crew := by
    rcases stuck.exists with ⟨busy, isBusy⟩
    rcases play.fair busy thread isBusy with ⟨later, _, rfl⟩
    exact play.listed later
  -- Whoever a stuck thread waits for, directly or through others, is stuck, and so waits itself.
  have follow {last : ThreadId}
      (path : ReflTransGen (play.store time).waits.Awaits thread last) : play.Stuck last := by
    induction path with
    | refl => exact stuck
    | @tail middle last _ leads ih =>
        rcases awaits middle (listed ih) ih with ⟨owner, stuckToo, awaitsOwner⟩
        have same : owner = last := Option.some.inj
          ((acyclic.next?_eq_some awaitsOwner).symm.trans (acyclic.next?_eq_some leads))
        exact same ▸ stuckToo
  rcases acyclic.exists_last thread with ⟨last, path, stops⟩
  have stuckLast := follow path
  rcases awaits last (listed stuckLast) stuckLast with ⟨owner, _, awaitsOwner⟩
  rw [acyclic.next?_eq_some awaitsOwner] at stops
  cases stops

/-- Without backward jumps every thread becomes idle again and again. -/
theorem idle_again (time : ℕ) (thread : ThreadId) :
    ∃ later ≥ time, play.threads later thread = [] := by
  by_contra never
  refine play.not_stuck onward thread (eventually_atTop.mpr ⟨time, fun later after idle => ?_⟩)
  exact never ⟨later, after, idle⟩

end Play

/-! ### Schedules -/

/-- What comes of the turn of a thread. -/
def takeTurn (limits : Limits) (thread : ThreadId)
    (state : Store × (ThreadId → List Activation)) : Store × (ThreadId → List Activation) :=
  match step limits.callDepth thread state.1 (state.2 thread) with
  | .running after next | .blocked after next => (after, Function.update state.2 thread next)
  | .finished after _ => (after, Function.update state.2 thread [])

/-- What comes of a number of turns. -/
def takeTurns (limits : Limits) (schedule : ℕ → ThreadId)
    (state : Store × (ThreadId → List Activation)) : ℕ → Store × (ThreadId → List Activation)
  | 0 => state
  | time + 1 => takeTurn limits (schedule time) (takeTurns limits schedule state time)

variable {state : Store × (ThreadId → List Activation)} {schedule : ℕ → ThreadId}

theorem takeTurn_happens (offers : Array Module → Value → Prop) (limits : Limits)
    (thread : ThreadId) (state : Store × (ThreadId → List Activation)) :
    Happens offers limits thread state.1 (state.2 thread) (takeTurn limits thread state).1
      ((takeTurn limits thread state).2 thread) := by
  unfold takeTurn
  rcases progress : step limits.callDepth thread state.1 (state.2 thread) with _ | _ | _
  · simp only [Function.update_self]
    exact .steps progress
  · simp only [Function.update_self]
    exact .waits progress
  · simp only [Function.update_self]
    exact .finishes progress

theorem takeTurn_of_ne (limits : Limits) (apart : other ≠ thread)
    (state : Store × (ThreadId → List Activation)) :
    (takeTurn limits thread state).2 other = state.2 other := by
  unfold takeTurn
  split <;> exact Function.update_of_ne apart _ _

theorem takeTurns_modules (limits : Limits) (schedule : ℕ → ThreadId)
    (state : Store × (ThreadId → List Activation)) (time : ℕ) :
    (takeTurns limits schedule state time).1.modules = state.1.modules := by
  induction time with
  | zero => rfl
  | succ time ih =>
      have stepped := step_changes limits.callDepth (schedule time)
        (takeTurns limits schedule state time).1
        ((takeTurns limits schedule state time).2 (schedule time))
      rw [takeTurns, takeTurn]
      split <;> rename_i progress <;> rw [progress] at stepped <;>
        exact (stepped.modules_eq).trans ih

theorem takeTurns_onward (onward : state.1.Onward) (limits : Limits) (schedule : ℕ → ThreadId)
    (time : ℕ) : (takeTurns limits schedule state time).1.Onward := by
  rw [Store.Onward, takeTurns_modules]
  exact onward

/-- A thread that has no turn does what it did. -/
theorem takeTurns_of_unscheduled (never : ∀ time, schedule time ≠ thread) (time : ℕ) :
    (takeTurns limits schedule state time).2 thread = state.2 thread := by
  induction time with
  | zero => rfl
  | succ time ih => exact (takeTurn_of_ne limits (never time).symm _).trans ih

/-- The play in which the threads take turns by a schedule that comes back to each of them, while
the host asks for nothing more. -/
def Play.scheduled (served : Served offers limits state.1 state.2) (schedule : ℕ → ThreadId)
    (crew : Finset ThreadId) (listed : ∀ time, schedule time ∈ crew)
    (again : ∀ thread ∈ crew, ∀ time, ∃ later ≥ time, schedule later = thread)
    (idle : ∀ thread, thread ∉ crew → state.2 thread = []) : Play offers limits where
  store time := (takeTurns limits schedule state time).1
  threads time := (takeTurns limits schedule state time).2
  mover := schedule
  crew
  served
  happens time := takeTurn_happens offers limits (schedule time) _
  others time thread apart := takeTurn_of_ne limits apart _
  listed
  fair := by
    intro time thread busy
    by_cases member : thread ∈ crew
    · exact again thread member time
    · have never (turn : ℕ) : schedule turn ≠ thread := fun same => member (same ▸ listed turn)
      rw [takeTurns_of_unscheduled never] at busy
      exact absurd (idle thread member) busy

end Rekindle.Machine
