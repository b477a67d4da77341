import Rekindle.Proofs.Hosting.Serving
import Rekindle.Proofs.Machine.Above
import Rekindle.Proofs.Termination.Turns

/-!
# What threads keep

A thread keeps to the limit of its depth, and what lies on its stack can go on: below an initializer
is what asked for it, and nothing that is over finds something below that still has to ask. What one
thread does takes nothing of this away from the others.
-/

namespace Rekindle.Machine

open Fallible

/-! ### What follows -/

/-- A later store, after something that a thread did. Only this thread has begun to initialize
anything, and only what nobody had begun to initialize. -/
structure Store.Follows (thread : ThreadId) (store after : Store) : Prop where
  loaded : ∀ (position : Nat) (module : Module), store.modules[position]? = some module →
    after.modules[position]? = some module
  started : ∀ instantiation, store.HasStarted instantiation → after.HasStarted instantiation
  running : ∀ instantiation owner, after.status? instantiation = some (.running owner) →
    store.status? instantiation = some (.running owner) ∨
      owner = thread ∧ ¬store.HasStarted instantiation

variable {thread : ThreadId} {store middle after : Store} {instantiation : Instantiation}

namespace Store

theorem HasStarted.of_running {owner : ThreadId}
    (running : store.status? instantiation = some (.running owner)) :
    store.HasStarted instantiation :=
  ⟨_, running, by simp⟩

namespace Follows

theorem of_same (same : store.SameStatuses after) : store.Follows thread after where
  loaded _ _ loaded := same.modules_eq ▸ loaded
  started := by
    rintro instantiation ⟨status, found, started⟩
    exact ⟨status, (same.status?_eq _).trans found, started⟩
  running _ _ running := .inl ((same.status?_eq _).symm.trans running)

theorem trans (first : store.Follows thread middle) (second : middle.Follows thread after) :
    store.Follows thread after where
  loaded position module loaded :=
    second.loaded position module (first.loaded position module loaded)
  started instantiation started :=
    second.started instantiation (first.started instantiation started)
  running instantiation owner running := by
    rcases second.running instantiation owner running with before | ⟨own, unstarted⟩
    · exact first.running instantiation owner before
    · exact .inr ⟨own, fun started => unstarted (first.started instantiation started)⟩

theorem of_starts (modules : after.modules = store.modules)
    (unstarted : ¬store.HasStarted instantiation)
    (statuses : ∀ other, after.status? other =
      if other = instantiation then some (.running thread) else store.status? other) :
    store.Follows thread after where
  loaded _ _ loaded := modules ▸ loaded
  started := by
    rintro other ⟨status, found, started⟩
    rw [HasStarted, statuses]
    split
    · exact ⟨_, rfl, by simp⟩
    · exact ⟨status, found, started⟩
  running := by
    intro other owner running
    rw [statuses] at running
    split at running
    · rename_i same
      cases running
      exact .inr ⟨rfl, same ▸ unstarted⟩
    · exact .inl running

theorem publish (thread : ThreadId) (store : Store) (instantiation : Instantiation)
    (outcome : Except Trap Unit) :
    store.Follows thread (store.publish instantiation outcome) where
  loaded _ _ loaded := loaded
  started := by
    rintro other ⟨status, found, started⟩
    rw [HasStarted, status?_publish]
    split
    · rename_i same
      rw [← same, found]
      exact ⟨_, rfl, by rcases outcome with _ | ⟨⟨⟩⟩ <;> simp [Status.ofOutcome]⟩
    · exact ⟨status, found, started⟩
  running := by
    intro other owner running
    rw [status?_publish] at running
    split at running
    · rcases Option.map_eq_some_iff.mp running with ⟨_, _, ended⟩
      rcases outcome with _ | ⟨⟨⟩⟩ <;> cases ended
    · exact .inl running

end Follows

theorem Change.follows (change : Change thread store after) : store.Follows thread after := by
  cases change with
  | @ask _ instantiation ticket asks =>
      rcases ask_ok asks with ⟨storage, asked⟩
      by_cases told : ticket = .run
      · subst told
        exact .of_starts asked.modules_eq asked.starts.1 asked.starts.2
      · exact .of_same (asked.sameStatuses told)
  | publish => exact .publish thread store _ _
  | setSlot place value => exact .of_same ⟨rfl, status?_setSlot store place value⟩
  | issue => exact .of_same ⟨rfl, fun _ => rfl⟩

theorem Changes.follows (changes : Changes thread store after) : store.Follows thread after := by
  induction changes with
  | refl => exact .of_same (.refl store)
  | tail _ last ih => exact ih.trans last.follows

end Store

variable {offers : Array Module → Value → Prop} {limits : Limits}
  {activations next : List Activation}

/-- Whatever happens on a thread is something that the thread does. -/
theorem Happens.follows
    (happens : Happens offers limits thread store activations after next) :
    store.Follows thread after := by
  have stepped := step_changes limits.callDepth thread store activations
  cases happens with
  | loads loads =>
      rcases Store.load_ok loads with ⟨_, rfl, _⟩
      exact ⟨fun _ _ loaded => getElem?_push loaded _, fun _ started => started,
        fun _ _ running => .inl running⟩
  | calls | accesses => exact .of_same (.refl store)
  | writes => exact .of_same ⟨rfl, Store.status?_setSlot store _ _⟩
  | issues | collects => exact .of_same ⟨rfl, fun _ => rfl⟩
  | steps progress | waits progress | finishes progress =>
      rw [progress] at stepped
      exact stepped.follows

/-! ### Invariants of a thread -/

/-- What comes of an attempt has a property. -/
def Attempt.Satisfies (holds : Store → List Activation → Prop) : Attempt → Prop
  | .running store activations | .blocked store activations | .raised store _ activations =>
    holds store activations
  | .returned store _ => holds store []

/-- What a step leads to has a property. -/
def Progress.Satisfies (holds : Store → List Activation → Prop) : Progress → Prop
  | .running store activations | .blocked store activations => holds store activations
  | .finished store _ => holds store []

/-- A property of a store and the stack of a thread that everything keeps that the thread or another
one does, given by what is to be shown for each kind of turn. -/
structure Kept (limit : Nat) (thread : ThreadId) (holds : Store → List Activation → Prop) :
    Prop where
  same : ∀ {store after : Store} {activations : List Activation}, store.SameStatuses after →
    holds store activations → holds after activations
  drops : ∀ {store : Store} {activation : Activation} {below : List Activation},
    (∀ instantiation, activation ≠ .initializer instantiation) →
      holds store (activation :: below) → holds store below
  ends : ∀ {store : Store} {instantiation : Instantiation} {below : List Activation}
    (outcome : Except Trap Unit), holds store (.initializer instantiation :: below) →
      holds (store.publish instantiation outcome) below
  goesOn : ∀ {store : Store} {frame next : Frame} {below : List Activation},
    next.body = frame.body → holds store (.body frame :: below) →
      holds store (.body next :: below)
  calls : ∀ {store : Store} {frame rest : Frame} {below : List Activation} {above : Activation},
    frame.instruction?.isSome = true → frame.Stands rest → above.isWaiting = true →
      holds store (.body frame :: below) → holds store (above :: .body rest :: below)
  next : ∀ {store : Store} {target : BoundRoutine} {others : List BoundRoutine}
    {below : List Activation}, holds store (.targets (target :: others) :: below) →
      holds store (.call target [] :: .targets others :: below)
  enters : ∀ {store : Store} {target : BoundRoutine} {parameters : List Value}
    {below : List Activation} {frame : Frame},
    Frame.enter limit (depth below + 1) store target parameters = .ok frame →
      holds store (.call target parameters :: below) → holds store (.body frame :: below)
  begins : ∀ {store after : Store} {activations : List Activation}
    {instantiation : Instantiation}, Begins thread store activations instantiation after →
      holds store activations → holds after (.initializer instantiation :: activations)
  runs : ∀ {store : Store} {instantiation : Instantiation} {below : List Activation}
    {target : BoundRoutine} {frame : Frame},
    Frame.enter limit (depth below + 1) store target [] = .ok frame →
      holds store (.initializer instantiation :: below) →
        holds store (.body frame :: .initializer instantiation :: below)
  /-- An idle thread takes what the host asks for. -/
  starts : ∀ {store : Store} {activation : Activation}, activation.isWaiting = true →
    holds store [] → holds store [activation]
  /-- The host does something on an idle thread. -/
  idles : ∀ {store after : Store},
    (∀ instantiation, after.status? instantiation = store.status? instantiation) →
      holds store [] → holds after []
  follows : ∀ {store after : Store} {activations : List Activation} {other : ThreadId},
    thread ≠ other → store.Follows other after → holds store activations →
      holds after activations

variable {limit : Nat} {below : List Activation} {target : BoundRoutine}
  {parameters : List Value} {frame : Frame} {other : ThreadId}

namespace Kept

variable {holds : Store → List Activation → Prop} (kept : Kept limit thread holds)
include kept

theorem unwind (satisfied : holds store activations) (trap : Trap) :
    (Machine.unwind store trap activations).Satisfies holds := by
  induction activations generalizing trap with
  | nil => exact satisfied
  | cons activation below ih =>
      cases activation with
      | initializer instantiation => exact kept.ends (.error trap) satisfied
      | targets | call | access => exact ih (kept.drops (by simp) satisfied) trap
      | body frame =>
          have receives := Frame.receive_confined frame.within_everything trap.within_everything
          rcases received : frame.receive trap with passed | next
          · simp only [Machine.unwind, received]
            exact ih (kept.drops (by simp) satisfied) passed
          · rw [received] at receives
            simp only [Machine.unwind, received]
            exact kept.goesOn receives.body_eq satisfied

theorem settle {attempt : Attempt} (satisfied : attempt.Satisfies holds) :
    attempt.settle.Satisfies holds := by
  cases attempt with
  | running | blocked | returned => exact satisfied
  | raised store trap activations => exact kept.unwind satisfied trap

theorem complete (satisfied : holds store below) (result : Option Value) :
    (Machine.complete store result below).Satisfies holds := by
  unfold Machine.complete
  split
  · exact satisfied
  · rename_i frame lower
    rcases resumed : frame.resume store result with trap | next
    · exact satisfied
    · exact kept.goesOn (Frame.resume_proceeds _ _ _ _ resumed).body_eq satisfied
  · exact satisfied

theorem turn {attempt : Attempt} (turn : Turn limit thread store activations attempt)
    (satisfied : holds store activations) : attempt.Satisfies holds := by
  cases turn with
  | idle => exact satisfied
  | ends instantiation below => exact kept.ends (.ok ()) satisfied
  | completes same notInitializer result =>
      exact kept.complete (kept.same same (kept.drops notInitializer satisfied)) _
  | proceeds same _ proceeds => exact kept.same same (kept.goesOn proceeds.body_eq satisfied)
  | calls current _ stands called => exact kept.calls current stands called satisfied
  | next => exact kept.next satisfied
  | @enters target parameters below after same =>
      have stays := kept.same same satisfied
      rcases entered : Frame.enter limit (depth below + 1) after target parameters with trap | frame
      · simp only [entering, entered]
        exact kept.drops (by simp) stays
      · simp only [entering, entered]
        exact kept.enters entered stays
  | begins begins => exact kept.begins begins satisfied
  | @runs _ instantiation after begins target =>
      have begun := kept.begins begins satisfied
      rcases entered : Frame.enter limit (depth (.initializer instantiation :: activations) + 1)
        after target [] with trap | frame
      · simp only [entering, entered]
        exact begun
      · simp only [entering, entered]
        exact kept.runs entered begun
  | raises same trap => exact kept.same same satisfied
  | refuses trap => exact kept.drops (by simp) satisfied
  | waits blocks => exact kept.same blocks.same satisfied

/-- What every turn of a thread keeps, every step of it keeps. -/
theorem step (store : Store) (activations : List Activation) (satisfied : holds store activations) :
    (step limit thread store activations).Satisfies holds :=
  kept.settle (kept.turn (attempt_turn limit thread store activations) satisfied)

omit kept in
/-- What everything keeps holds of a thread after whatever happens on it. -/
theorem happens (happens : Happens offers limits thread store activations after next)
    (kept : Kept limits.callDepth thread holds) (satisfied : holds store activations) :
    holds after next := by
  have stepped := kept.step store activations satisfied
  cases happens with
  | loads loads =>
      rcases Store.load_ok loads with ⟨_, rfl, _⟩
      refine kept.idles ?_ satisfied
      exact fun _ => rfl
  | calls | accesses => exact kept.starts rfl satisfied
  | writes => exact kept.idles (Store.status?_setSlot store _ _) satisfied
  | issues | collects =>
      refine kept.idles ?_ satisfied
      exact fun _ => rfl
  | steps progress | waits progress | finishes progress =>
      rw [progress] at stepped
      exact stepped

omit kept in
/-- What everything keeps holds of all threads at all times. -/
theorem served {holds : ThreadId → Store → List Activation → Prop}
    (kept : ∀ thread, Kept limits.callDepth thread (holds thread))
    (fresh : ∀ thread, holds thread .empty []) {threads : ThreadId → List Activation}
    (served : Served offers limits store threads) (thread : ThreadId) :
    holds thread store (threads thread) := by
  induction served generalizing thread with
  | fresh => exact fresh thread
  | @next store after threads mover activations _ happens ih =>
      by_cases same : thread = mover
      · subst same
        rw [Function.update_self]
        exact Kept.happens happens (kept thread) (ih thread)
      · rw [Function.update_of_ne same]
        exact (kept thread).follows same happens.follows (ih thread)

end Kept

/-! ### The limit -/

theorem Activation.ne_body {activation : Activation} (waits : activation.isWaiting = true)
    (frame : Frame) : activation ≠ .body frame := by
  rintro rfl
  cases waits

theorem Activation.ne_initializer {activation : Activation} (waits : activation.isWaiting = true)
    (instantiation : Instantiation) : activation ≠ .initializer instantiation := by
  rintro rfl
  cases waits

theorem depth_waiting {activation : Activation} (waits : activation.isWaiting = true)
    (below : List Activation) : depth (activation :: below) = depth below := by
  cases activation with
  | body | initializer => cases waits
  | targets | call | access => rfl

theorem depth_le_of_enter {level : Nat}
    (entered : Frame.enter limit level store target parameters = .ok frame) : level ≤ limit := by
  unfold Frame.enter at entered
  split at entered
  · cases entered
  · omega

/-- A thread never has more bodies in execution than its limit allows. -/
theorem kept_depth (limit : Nat) (thread : ThreadId) :
    Kept limit thread fun _ activations => depth activations ≤ limit where
  same _ bounded := bounded
  drops := by
    intro _ activation below _ bounded
    simp only [depth, List.countP_cons] at bounded ⊢
    omega
  ends _ bounded := bounded
  goesOn _ bounded := bounded
  calls _ _ waits bounded := (depth_waiting waits _).trans_le bounded
  next bounded := bounded
  enters entered _ := (depth_body ..).trans_le (depth_le_of_enter entered)
  begins _ bounded := bounded
  runs entered _ := (depth_body ..).trans_le (depth_le_of_enter entered)
  starts waits bounded := (depth_waiting waits []).trans_le bounded
  idles _ bounded := bounded
  follows _ _ bounded := bounded

/-! ### Bodies -/

/-- A store whose modules passed the check and have no backward jumps. -/
structure Store.Forward (store : Store) : Prop where
  passed : AllPassed store.modules
  onward : store.Onward

/-- What is loaded has no backward jumps when what was loaded later has none. -/
theorem Store.Forward.of_loaded (forward : after.Forward)
    (loaded : ∀ (position : Nat) (module : Module), store.modules[position]? = some module →
      after.modules[position]? = some module) : store.Forward := by
  refine ⟨fun position module found => forward.passed position module (loaded _ _ found), ?_⟩
  intro module listed
  rcases Array.mem_iff_getElem?.mp listed with ⟨position, found⟩
  exact forward.onward module (Array.mem_of_getElem? (loaded position module found))

theorem Store.Forward.of_modules (forward : after.Forward) (same : after.modules = store.modules) :
    store.Forward :=
  forward.of_loaded fun _ _ loaded => same ▸ loaded

/-- While no module has backward jumps, no body in execution has any. -/
theorem kept_onward (limit : Nat) (thread : ThreadId) :
    Kept limit thread fun store activations =>
      store.Forward → ∀ frame, .body frame ∈ activations → frame.Onward where
  same same onward forward := onward (forward.of_modules same.modules_eq)
  drops _ onward forward frame listed := onward forward frame (List.mem_cons_of_mem _ listed)
  ends _ onward forward frame listed :=
    onward (forward.of_modules rfl) frame (List.mem_cons_of_mem _ listed)
  goesOn := by
    intro _ frame next below same onward forward
    have all := onward forward
    simp only [List.mem_cons, Activation.body.injEq, forall_eq_or_imp] at all ⊢
    exact ⟨all.1.of_body same, all.2⟩
  calls := by
    intro _ frame rest below above _ stands waits onward forward
    have all := onward forward
    simp only [List.mem_cons, (Activation.ne_body waits _).symm, Activation.body.injEq, false_or,
      forall_eq_or_imp] at all ⊢
    exact ⟨all.1.of_body stands.body_eq, all.2⟩
  next := by
    intro _ target others below onward forward
    simpa using onward forward
  enters := by
    intro store target parameters below frame entered onward forward
    have all := onward forward
    simp only [List.mem_cons, Activation.body.injEq, reduceCtorEq, false_or, forall_eq_or_imp]
      at all ⊢
    exact ⟨Frame.onward_of_enter forward.passed forward.onward entered, all⟩
  begins := by
    intro store after activations instantiation begins onward forward
    simpa using onward (forward.of_modules begins.modules_eq)
  runs := by
    intro store instantiation below target frame entered onward forward
    have all := onward forward
    simp only [List.mem_cons, Activation.body.injEq, reduceCtorEq, false_or, forall_eq_or_imp]
      at all ⊢
    exact ⟨Frame.onward_of_enter forward.passed forward.onward entered, all⟩
  starts waits _ _ frame listed :=
    absurd (List.mem_singleton.mp listed).symm (Activation.ne_body waits frame)
  idles _ _ _ _ listed := absurd listed List.not_mem_nil
  follows _ follows onward forward := onward (forward.of_loaded follows.loaded)

/-! ### What can go on -/

/-- Whether a stack can go on when what was on top of it is over. -/
def Ready : List Activation → Prop
  | [] | .targets _ :: _ | .initializer _ :: _ => True
  | .body frame :: _ => frame.instruction?.isSome = true
  | .call _ _ :: _ | .access _ :: _ => False

/-- A stack in which below each initializer is what asked for it, and below everything else is what
can go on. -/
inductive Stacked (store : Store) : List Activation → Prop where
  | nil : Stacked store []
  | initializer {instantiation : Instantiation} {below : List Activation}
      (asks : Asks store below instantiation) (started : store.HasStarted instantiation)
      (others : Stacked store below) : Stacked store (.initializer instantiation :: below)
  | ordinary {activation : Activation} {below : List Activation}
      (notInitializer : ∀ instantiation, activation ≠ .initializer instantiation)
      (ready : Ready below) (others : Stacked store below) : Stacked store (activation :: below)

/-- What a thread asks for is the same after modules were loaded. -/
theorem Asks.of_loaded (asks : Asks store activations instantiation)
    (loaded : ∀ (position : Nat) (module : Module), store.modules[position]? = some module →
      after.modules[position]? = some module) : Asks after activations instantiation := by
  have address (frame : Frame) (reference : FieldRef) (place : Address)
      (placed : frame.address store reference = .ok place) :
      frame.address after reference = .ok place := by
    rcases bind_eq_ok_iff.mp placed with ⟨module, found, placed⟩
    have still : after.module frame.module = .ok module := by
      simp only [Store.module, loaded _ _ (Store.module_ok found)]
    simp only [Frame.address, still]
    exact placed
  cases asks with
  | call owned =>
      refine .call (ownerOf_eq_ok_iff.mpr ?_)
      rcases ownerOf_eq_ok_iff.mp owned with ⟨module, routine, found, declared, same⟩
      exact ⟨module, routine, loaded _ _ found, declared, same⟩
  | access => exact .access _ _
  | field uses below =>
      refine .field ?_ below
      cases uses with
      | load current placed => exact .load current (address _ _ _ placed)
      | loadAddress current placed => exact .loadAddress current (address _ _ _ placed)
      | store current pops placed => exact .store current pops (address _ _ _ placed)

theorem Stacked.follows (stacked : Stacked store activations)
    (follows : store.Follows thread after) : Stacked after activations := by
  induction stacked with
  | nil => exact .nil
  | initializer asks started _ ih =>
      exact .initializer (asks.of_loaded follows.loaded) (follows.started _ started) ih
  | ordinary notInitializer ready _ ih => exact .ordinary notInitializer ready ih

theorem Stacked.drop {activation : Activation} (stacked : Stacked store (activation :: below))
    (notInitializer : ∀ instantiation, activation ≠ .initializer instantiation) :
    Stacked store below := by
  cases stacked with
  | initializer => exact absurd rfl (notInitializer _)
  | ordinary _ _ others => exact others

theorem kept_stacked (limit : Nat) (thread : ThreadId) : Kept limit thread Stacked where
  same := by
    intro store after activations same stacked
    have follows : store.Follows thread after := .of_same same
    exact stacked.follows follows
  drops notInitializer stacked := stacked.drop notInitializer
  ends := by
    intro store instantiation below outcome stacked
    cases stacked with
    | initializer _ _ others => exact others.follows (.publish thread store instantiation outcome)
    | ordinary notInitializer => exact absurd rfl (notInitializer instantiation)
  goesOn := by
    intro _ frame next below _ stacked
    cases stacked with
    | ordinary _ ready others => exact .ordinary (by simp) ready others
  calls := by
    intro _ frame rest below above current stands waits stacked
    cases stacked with
    | ordinary _ ready others =>
        have readyRest : Ready (.body rest :: below) := by
          rw [Ready, stands.instruction?_eq]
          exact current
        exact .ordinary (Activation.ne_initializer waits) readyRest
          (.ordinary (by simp) ready others)
  next := by
    intro _ target others below stacked
    cases stacked with
    | ordinary _ ready lower => exact .ordinary (by simp) trivial (.ordinary (by simp) ready lower)
  enters := by
    intro _ target parameters below frame _ stacked
    cases stacked with
    | ordinary _ ready others => exact .ordinary (by simp) ready others
  begins := by
    intro store after activations instantiation begins stacked
    have follows : store.Follows thread after :=
      .of_starts begins.modules_eq begins.unstarted begins.status?_eq
    refine .initializer (begins.asks.of_modules begins.modules_eq) ?_ (stacked.follows follows)
    exact .of_running ((begins.status?_eq instantiation).trans (if_pos rfl))
  runs _ stacked := .ordinary (by simp) trivial stacked
  starts waits _ := .ordinary (Activation.ne_initializer waits) trivial .nil
  idles _ _ := .nil
  follows _ follows stacked := stacked.follows follows

/-! ### Initializers that run -/

/-- What a thread is initializing has its initializer on the stack of the thread. -/
def Owned (thread : ThreadId) (store : Store) (activations : List Activation) : Prop :=
  ∀ instantiation, store.status? instantiation = some (.running thread) →
    .initializer instantiation ∈ activations

theorem kept_owned (limit : Nat) (thread : ThreadId) : Kept limit thread (Owned thread) where
  same same owned instantiation running :=
    owned instantiation ((same.status?_eq instantiation).symm.trans running)
  drops := by
    intro _ activation below notInitializer owned instantiation running
    rcases List.mem_cons.mp (owned instantiation running) with same | listed
    · exact absurd same.symm (notInitializer instantiation)
    · exact listed
  ends := by
    intro store instantiation below outcome owned other running
    rw [Store.status?_publish] at running
    split at running
    · rcases Option.map_eq_some_iff.mp running with ⟨_, _, ended⟩
      rcases outcome with _ | ⟨⟨⟩⟩ <;> cases ended
    · rename_i apart
      rcases List.mem_cons.mp (owned other running) with same | listed
      · cases same
        exact absurd rfl apart
      · exact listed
  goesOn _ owned instantiation running := by simpa using owned instantiation running
  calls := by
    intro _ frame rest below above _ _ _ owned instantiation running
    refine List.mem_cons_of_mem _ ?_
    simpa using owned instantiation running
  next owned instantiation running := by simpa using owned instantiation running
  enters _ owned instantiation running := by simpa using owned instantiation running
  begins := by
    intro store after activations instantiation begins owned other running
    rw [begins.status?_eq] at running
    split at running
    · rename_i same
      rw [same]
      exact List.mem_cons_self
    · exact List.mem_cons_of_mem _ (owned other running)
  runs _ owned instantiation running := List.mem_cons_of_mem _ (owned instantiation running)
  starts _ owned instantiation running := absurd (owned instantiation running) List.not_mem_nil
  idles same owned instantiation running :=
    owned instantiation ((same instantiation).symm.trans running)
  follows := by
    intro store after activations other apart follows owned instantiation running
    rcases follows.running instantiation thread running with before | ⟨same, _⟩
    · exact owned instantiation before
    · exact absurd same apart

end Rekindle.Machine
