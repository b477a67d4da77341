import Rekindle.Machine.Contention
import Rekindle.Proofs.Contention.WaitTable

/-!
# Interleavings

Any number of threads ask for types, are woken for whatever reason and ask again, and report the
end of the initializers they were told to run, in any order. Each initializer is handed out once,
threads wait only for threads that run an initializer, and never in a circle. A thread goes on with
a type that another thread initializes only where that thread waits for it.
-/

namespace Rekindle.Machine

open Relation

namespace Contention

variable {Key Cause : Type} {keys : List Key} {contention after : Contention Key Cause}
  {thread : ThreadId} {position : Nat} {ticket : Ticket Cause}

/-! ### What asking does -/

/-- A thread waits no longer. -/
def unblock (contention : Contention Key Cause) (thread : ThreadId) : Contention Key Cause :=
  { contention with
    waits := contention.waits.erase thread
    blocked := contention.blocked.filter fun entry => entry.1 ≠ thread }

/-- What a thread that asks for a type is told, and what becomes of the contention. -/
inductive Asked (contention : Contention Key Cause) (thread : ThreadId) (position : Nat) :
    Ticket Cause → Contention Key Cause → Prop where
  | starts (pending : contention.statuses[position]? = some .pending) :
      Asked contention thread position .run
        { contention.unblock thread with
          statuses := contention.statuses.setIfInBounds position (.running thread) }
  | goesOn
      (free : ∀ owner, contention.statuses[position]? = some (.running owner) →
        owner = thread ∨ contention.waits.reaches owner thread = true) :
      Asked contention thread position .ready (contention.unblock thread)
  | givesUp {cause : Cause} (failed : contention.statuses[position]? = some (.failed cause)) :
      Asked contention thread position (.failed cause) (contention.unblock thread)
  | waits {key : Key} {owner : ThreadId} (keyed : contention.keys[position]? = some key)
      (runs : contention.statuses[position]? = some (.running owner))
      (apart : contention.waits.reaches owner thread = false) :
      Asked contention thread position .wait
        { contention with
          waits := contention.waits.insert { waiter := thread, owner, key }
          blocked :=
            (thread, position) :: contention.blocked.filter fun entry => entry.1 ≠ thread }

theorem setIfInBounds_same {Item : Type} {items : Array Item} {item : Item}
    (found : items[position]? = some item) : items.setIfInBounds position item = items := by
  refine Array.ext_getElem? fun other => ?_
  rw [Array.getElem?_setIfInBounds]
  split
  · next here =>
      subst here
      rw [if_pos (Array.getElem?_eq_some_iff.mp found).1, found]
  · rfl

theorem asked_of_ask (asks : contention.ask thread position = some (ticket, after)) :
    contention.Asked thread position ticket after := by
  simp only [ask, Option.bind_eq_bind, Option.bind_eq_some_iff, Option.pure_def,
    Option.some.injEq, Prod.mk.injEq] at asks
  rcases asks with ⟨key, keyed, status, found, rfl, rfl⟩
  cases status with
  | pending => exact .starts found
  | done =>
      simp only [Status.ask, setIfInBounds_same found]
      exact .goesOn fun owner runs => by simp [found] at runs
  | failed cause =>
      simp only [Status.ask, setIfInBounds_same found]
      exact .givesUp found
  | running owner =>
      simp only [Status.ask]
      split
      · next free =>
          simp only [setIfInBounds_same found]
          refine .goesOn fun other runs => ?_
          rw [found] at runs
          cases runs
          exact free
      · next held =>
          simp only [setIfInBounds_same found]
          exact .waits keyed found (by simpa using (not_or.mp held).2)

/-- A thread that asks for a type that another one initializes, and that does not wait for it, has
to wait. -/
theorem ask_of_running {key : Key} {owner : ThreadId}
    (keyed : contention.keys[position]? = some key)
    (runs : contention.statuses[position]? = some (.running owner)) (other : owner ≠ thread)
    (apart : contention.waits.reaches owner thread = false) :
    ∃ after, contention.ask thread position = some (.wait, after) := by
  simp [ask, keyed, runs, Status.ask, other, apart]

/-! ### What happens -/

/-- What happens to threads that ask for types. -/
inductive Event (Cause : Type) where
  | told (thread : ThreadId) (position : Nat) (ticket : Ticket Cause)
  | ended (thread : ThreadId) (position : Nat)

/-- The threads that have been told to run the initializer of the type at a position. -/
def runners (position : Nat) (events : List (Event Cause)) : List ThreadId :=
  events.filterMap fun event =>
    match event with
    | .told thread other .run => if other = position then some thread else none
    | .told _ _ .ready | .told _ _ (.failed _) | .told _ _ .wait | .ended .. => none

/-- A thread has been told to run the initializer of the type at a position, and has not reported
its end. -/
def Runs (events : List (Event Cause)) (thread : ThreadId) (position : Nat) : Prop :=
  .told thread position .run ∈ events ∧ .ended thread position ∉ events

/-- The initializer of the type at a position ends, before any thread asks again. -/
def ended [DecidableEq Key] (contention : Contention Key Cause) (position : Nat)
    (outcome : Except Cause Unit) : Contention Key Cause :=
  match contention.keys[position]? with
  | none => contention
  | some key =>
    { contention with
      statuses := contention.statuses.setIfInBounds position (.ofOutcome outcome)
      waits := contention.waits.release key }

/-- What comes of types, none of which has been asked for, in any order of events. The latest event
comes first. -/
inductive Interleaving [DecidableEq Key] (keys : List Key) :
    List (Event Cause) → Contention Key Cause → Prop where
  | start : Interleaving keys [] (.start keys)
  /-- A thread that is not blocked asks for a type. -/
  | asks {events : List (Event Cause)} {contention after : Contention Key Cause}
      {thread : ThreadId} {position : Nat} {ticket : Ticket Cause}
      (earlier : Interleaving keys events contention)
      (idle : contention.isBlocked thread = false)
      (told : contention.ask thread position = some (ticket, after)) :
      Interleaving keys (.told thread position ticket :: events) after
  /-- A blocked thread wakes up and asks again. -/
  | asksAgain {events : List (Event Cause)} {contention after : Contention Key Cause}
      {thread : ThreadId} {position : Nat} {ticket : Ticket Cause}
      (earlier : Interleaving keys events contention)
      (blocked : (thread, position) ∈ contention.blocked)
      (told : contention.ask thread position = some (ticket, after)) :
      Interleaving keys (.told thread position ticket :: events) after
  /-- A thread reports the end of an initializer that it was told to run, for the first time. -/
  | ends {events : List (Event Cause)} {contention : Contention Key Cause} {thread : ThreadId}
      {position : Nat} (earlier : Interleaving keys events contention)
      (idle : contention.isBlocked thread = false) (runs : Runs events thread position)
      (outcome : Except Cause Unit) :
      Interleaving keys (.ended thread position :: events) (contention.ended position outcome)

/-- A thread is blocked, and would be blocked if it asked again. -/
def Stuck (contention : Contention Key Cause) (thread : ThreadId) : Prop :=
  ∃ position after, (thread, position) ∈ contention.blocked ∧
    contention.ask thread position = some (.wait, after)

section Events

variable {events : List (Event Cause)} {other : ThreadId} {place : Nat}

@[simp] theorem mem_runners :
    thread ∈ runners position events ↔ .told thread position .run ∈ events := by
  simp only [runners, List.mem_filterMap]
  constructor
  · rintro ⟨event, mem, told⟩
    split at told
    · split at told
      · next same =>
          cases told
          exact same ▸ mem
      · contradiction
    all_goals contradiction
  · intro mem
    exact ⟨_, mem, by simp⟩

@[simp] theorem runners_ended :
    runners position (.ended thread place :: events) = runners position events := rfl

theorem runners_told (quiet : ticket ≠ .run) :
    runners position (.told thread place ticket :: events) = runners position events := by
  cases ticket with
  | run => contradiction
  | ready | failed | wait => rfl

@[simp] theorem runners_run : runners position (.told thread place .run :: events) =
    if place = position then thread :: runners position events else runners position events := by
  by_cases same : place = position <;> simp [runners, same]

theorem runs_told {owner : ThreadId} (quiet : ticket ≠ .run) :
    Runs (.told thread place ticket :: events) owner position ↔ Runs events owner position := by
  simp [Runs, quiet.symm]

theorem runs_run {owner : ThreadId} :
    Runs (.told thread place .run :: events) owner position ↔
      (owner = thread ∧ position = place ∨ .told owner position .run ∈ events) ∧
        .ended owner position ∉ events := by
  simp [Runs]

theorem runs_ended {owner : ThreadId} :
    Runs (.ended thread place :: events) owner position ↔
      Runs events owner position ∧ ¬(owner = thread ∧ position = place) := by
  simp only [Runs, List.mem_cons, reduceCtorEq, false_or, Event.ended.injEq, not_or]
  tauto

end Events

/-! ### What every event preserves -/

/-- What holds of types, whatever threads have asked for them. -/
structure Regular (keys : List Key) (events : List (Event Cause))
    (contention : Contention Key Cause) : Prop where
  keyed : contention.keys = keys.toArray
  sized : contention.statuses.size = keys.length
  waits : contention.waits.Acyclic
  single : (contention.blocked.map (·.1)).Nodup
  fresh : ∀ position, contention.statuses[position]? = some .pending → runners position events = []
  once : ∀ position, (runners position events).length ≤ 1
  running : ∀ position thread,
    contention.statuses[position]? = some (.running thread) ↔ Runs events thread position
  reported : ∀ thread position, .ended thread position ∈ events →
    .told thread position .run ∈ events
  begun : ∀ thread position, (thread, position) ∈ contention.blocked →
    contention.statuses[position]? ≠ some .pending
  edge : ∀ edge ∈ contention.waits.edges, ∃ position, (edge.waiter, position) ∈ contention.blocked ∧
    keys[position]? = some edge.key ∧
      contention.statuses[position]? = some (.running edge.owner)
  recorded : keys.Nodup → ∀ thread position owner, (thread, position) ∈ contention.blocked →
    contention.statuses[position]? = some (.running owner) →
      ∃ key, keys[position]? = some key ∧
        { waiter := thread, owner, key } ∈ contention.waits.edges

variable {events : List (Event Cause)}

theorem regular_start (keys : List Key) : Regular keys [] (start keys : Contention Key Cause) where
  keyed := rfl
  sized := by simp [start]
  waits := Waits.acyclic_empty
  single := List.nodup_nil
  fresh := fun _ _ => rfl
  once := fun _ => Nat.zero_le _
  running := fun position thread => by
    simp [start, Runs, Array.getElem?_replicate]
  reported := fun _ _ mem => nomatch mem
  begun := fun _ _ mem => nomatch mem
  edge := fun _ mem => nomatch mem
  recorded := fun _ _ _ _ mem => nomatch mem

@[simp] theorem unblock_statuses :
    (contention.unblock thread).statuses = contention.statuses := rfl

theorem mem_unblock {entry : ThreadId × Nat} :
    entry ∈ (contention.unblock thread).blocked ↔
      entry ∈ contention.blocked ∧ entry.1 ≠ thread := by
  simp [unblock]

/-- A thread that gives up or goes on leaves everything to the others. -/
theorem Regular.unblock (regular : Regular keys events contention) (quiet : ticket ≠ .run) :
    Regular keys (.told thread position ticket :: events) (contention.unblock thread) where
  keyed := regular.keyed
  sized := regular.sized
  waits := regular.waits.erase thread
  single := regular.single.sublist (List.filter_sublist.map _)
  fresh := fun place pending => by
    rw [runners_told quiet]
    exact regular.fresh place pending
  once := fun place => by
    rw [runners_told quiet]
    exact regular.once place
  running := fun place owner => by
    rw [runs_told quiet]
    exact regular.running place owner
  reported := fun other place mem => by
    simp only [List.mem_cons, reduceCtorEq, false_or] at mem
    exact List.mem_cons_of_mem _ (regular.reported other place mem)
  begun := fun other place mem => regular.begun other place (mem_unblock.mp mem).1
  edge := fun edge mem => by
    rcases Waits.mem_erase.mp mem with ⟨mem, apart⟩
    rcases regular.edge edge mem with ⟨place, blocked, found, runs⟩
    exact ⟨place, mem_unblock.mpr ⟨blocked, apart⟩, found, runs⟩
  recorded := fun distinct other place owner mem runs => by
    rcases mem_unblock.mp mem with ⟨blocked, apart⟩
    rcases regular.recorded distinct other place owner blocked runs with ⟨key, found, mem⟩
    exact ⟨key, found, Waits.mem_erase.mpr ⟨mem, apart⟩⟩

/-- A thread that has to wait is blocked on the type, and the table has an edge for it. -/
theorem Regular.block (regular : Regular keys events contention) {key : Key} {owner : ThreadId}
    (keyed : keys[position]? = some key)
    (runs : contention.statuses[position]? = some (.running owner))
    (apart : contention.waits.reaches owner thread = false) :
    Regular keys (.told thread position .wait :: events)
      { contention with
        waits := contention.waits.insert { waiter := thread, owner, key }
        blocked := (thread, position) :: (contention.unblock thread).blocked } := by
  have idle : thread ∉ (contention.unblock thread).blocked.map (·.1) := by
    simp [Contention.unblock]
  have left : Regular keys (.told thread position .wait :: events) (contention.unblock thread) :=
    regular.unblock (by simp)
  refine ⟨left.keyed, left.sized, regular.waits.insert apart,
    List.nodup_cons.mpr ⟨idle, left.single⟩, left.fresh, left.once, left.running, left.reported,
    fun other place mem => ?_, fun edge mem => ?_, fun distinct other place holder mem held => ?_⟩
  · rcases List.mem_cons.mp mem with same | mem
    · cases same
      simp [runs]
    · exact left.begun other place mem
  · rcases Waits.mem_insert.mp mem with rfl | old
    · exact ⟨position, List.mem_cons_self .., keyed, runs⟩
    · rcases left.edge edge (Waits.mem_erase.mpr old) with ⟨place, blocked, rest⟩
      exact ⟨place, List.mem_cons_of_mem _ blocked, rest⟩
  · rcases List.mem_cons.mp mem with same | mem
    · cases same
      cases runs.symm.trans held
      exact ⟨key, keyed, Waits.mem_insert.mpr (.inl rfl)⟩
    · rcases left.recorded distinct other place holder mem held with ⟨other, found, mem⟩
      exact ⟨other, found, Waits.mem_insert.mpr (.inr (Waits.mem_erase.mp mem))⟩

/-- The first thread that asks for a type is the only one that is told to run its initializer. -/
theorem Regular.begin (regular : Regular keys events contention)
    (pending : contention.statuses[position]? = some .pending) :
    Regular keys (.told thread position .run :: events)
      { contention.unblock thread with
        statuses := contention.statuses.setIfInBounds position (.running thread) } := by
  have left : Regular keys (.told thread position .wait :: events) (contention.unblock thread) :=
    regular.unblock (by simp)
  have unasked := regular.fresh position pending
  have unreported (owner : ThreadId) : .ended owner position ∉ events := fun mem => by
    have := mem_runners.mpr (regular.reported owner position mem)
    simp [unasked] at this
  have bound := (Array.getElem?_eq_some_iff.mp pending).1
  have here : (contention.statuses.setIfInBounds position (.running thread))[position]? =
      some (.running thread) := by
    simp [bound]
  have elsewhere (place : Nat) (away : place ≠ position) :
      (contention.statuses.setIfInBounds position (.running thread))[place]? =
        contention.statuses[place]? := by
    simp [Ne.symm away]
  refine ⟨left.keyed, by simpa using regular.sized, left.waits, left.single, fun place fresh => ?_,
    fun place => ?_, fun place owner => ?_, fun other place mem => ?_, fun other place mem => ?_,
    fun edge mem => ?_, fun distinct other place owner mem runs => ?_⟩
  · by_cases same : place = position
    · subst same
      rw [here] at fresh
      cases fresh
    · rw [runners_run, if_neg (Ne.symm same)]
      exact regular.fresh place (elsewhere place same ▸ fresh)
  · rw [runners_run]
    split
    · next same => simp [← same, unasked]
    · exact regular.once place
  · rw [runs_run]
    by_cases same : place = position
    · subst same
      have untold : .told owner place .run ∉ events := by simp [← mem_runners, unasked]
      simp [here, untold, unreported, eq_comm]
    · rw [elsewhere place same, regular.running place owner]
      simp [same, Runs]
  · simp only [List.mem_cons, reduceCtorEq, false_or] at mem
    exact List.mem_cons_of_mem _ (regular.reported other place mem)
  · by_cases same : place = position
    · subst same
      simp [here]
    · rw [elsewhere place same]
      exact left.begun other place mem
  · rcases left.edge edge mem with ⟨place, blocked, found, runs⟩
    have away : place ≠ position := fun same => by
      rw [same, unblock_statuses, pending] at runs
      cases runs
    exact ⟨place, blocked, found, (elsewhere place away).trans runs⟩
  · have away : place ≠ position := fun same =>
      regular.begun other place (mem_unblock.mp mem).1 (same ▸ pending)
    exact left.recorded distinct other place owner mem ((elsewhere place away).symm.trans runs)

/-- The end of an initializer releases the threads that wait for it. -/
theorem Regular.finish [DecidableEq Key] (regular : Regular keys events contention)
    (runs : Runs events thread position) (outcome : Except Cause Unit) :
    Regular keys (.ended thread position :: events) (contention.ended position outcome) := by
  have running := (regular.running position thread).mpr runs
  have bound := (Array.getElem?_eq_some_iff.mp running).1
  have alone (owner : ThreadId) (told : .told owner position .run ∈ events) : owner = thread := by
    rcases List.length_eq_one_iff.mp (Nat.le_antisymm (regular.once position)
      (List.length_pos_of_mem (mem_runners.mpr told))) with ⟨only, found⟩
    have first := mem_runners.mpr told
    have second := mem_runners.mpr runs.1
    simp only [found, List.mem_singleton] at first second
    rw [first, second]
  obtain ⟨key, listed⟩ : ∃ key, keys[position]? = some key :=
    ⟨_, List.getElem?_eq_some_iff.mpr ⟨regular.sized ▸ bound, rfl⟩⟩
  have keyed : contention.keys[position]? = some key := by
    simpa [regular.keyed] using listed
  have here : (contention.statuses.setIfInBounds position (.ofOutcome outcome))[position]? =
      some (.ofOutcome outcome) := by
    simp [bound]
  have settled (status : Status Cause) (ended : status = .ofOutcome outcome) :
      status ≠ .pending ∧ ∀ owner, status ≠ .running owner := by
    cases outcome <;> simp [ended, Status.ofOutcome]
  have elsewhere (place : Nat) (away : place ≠ position) :
      (contention.statuses.setIfInBounds position (.ofOutcome outcome))[place]? =
        contention.statuses[place]? := by
    simp [Ne.symm away]
  simp only [ended, keyed]
  refine ⟨regular.keyed, by simpa using regular.sized, regular.waits.release _, regular.single,
    fun place fresh => ?_, regular.once, fun place owner => ?_, fun other place mem => ?_,
    fun other place mem => ?_, fun edge mem => ?_, fun distinct other place owner mem held => ?_⟩
  · by_cases same : place = position
    · subst same
      rw [here] at fresh
      exact absurd (Option.some.inj fresh) (settled _ rfl).1
    · exact regular.fresh place (elsewhere place same ▸ fresh)
  · rw [runs_ended]
    by_cases same : place = position
    · subst same
      rw [here]
      refine ⟨fun held => absurd (Option.some.inj held) ((settled _ rfl).2 owner), fun held => ?_⟩
      exact absurd ⟨alone owner held.1.1, rfl⟩ held.2
    · rw [elsewhere place same, regular.running place owner]
      simp [same]
  · refine List.mem_cons_of_mem _ ?_
    rcases List.mem_cons.mp mem with same | mem
    · cases same
      exact runs.1
    · exact regular.reported other place mem
  · by_cases same : place = position
    · subst same
      rw [here]
      simpa using (settled _ rfl).1
    · rw [elsewhere place same]
      exact regular.begun other place mem
  · rcases Waits.mem_release.mp mem with ⟨mem, apart⟩
    rcases regular.edge edge mem with ⟨place, blocked, found, held⟩
    have away : place ≠ position := fun same =>
      apart (Option.some.inj ((same ▸ found).symm.trans listed))
    exact ⟨place, blocked, found, (elsewhere place away).trans held⟩
  · by_cases same : place = position
    · subst same
      rw [here] at held
      exact absurd (Option.some.inj held) ((settled _ rfl).2 owner)
    · rcases regular.recorded distinct other place owner mem
        ((elsewhere place same).symm.trans held) with ⟨other, found, mem⟩
      refine ⟨other, found, Waits.mem_release.mpr ⟨mem, fun alike => same ?_⟩⟩
      have alike : other = key := alike
      exact (List.getElem?_inj (List.getElem?_eq_some_iff.mp found).1 distinct).mp
        (found.trans (alike ▸ listed.symm))

theorem Regular.ask (regular : Regular keys events contention)
    (asks : contention.ask thread position = some (ticket, after)) :
    Regular keys (.told thread position ticket :: events) after := by
  cases asked_of_ask asks with
  | starts pending => exact regular.begin pending
  | goesOn => exact regular.unblock (by simp)
  | givesUp => exact regular.unblock (by simp)
  | waits keyed runs apart =>
      exact regular.block (by simpa [regular.keyed] using keyed) runs apart

/-- Where no two types have the same key, the threads that would stay blocked are those that the
wait table has an edge for. -/
theorem Regular.stuck_iff (regular : Regular keys events contention) (distinct : keys.Nodup) :
    contention.Stuck thread ↔ contention.waits.next? thread ≠ none := by
  constructor
  · rintro ⟨position, after, blocked, told⟩
    cases asked_of_ask told with
    | waits _ runs _ =>
        rcases regular.recorded distinct thread position _ blocked runs with ⟨key, _, mem⟩
        exact fun idle => Waits.next?_eq_none_iff.mp idle _ mem rfl
  · intro waiting
    rcases Option.ne_none_iff_exists'.mp waiting with ⟨owner, next⟩
    have awaits := Waits.awaits_of_next? next
    rcases id awaits with ⟨edge, mem, rfl, rfl⟩
    rcases regular.edge edge mem with ⟨position, blocked, found, runs⟩
    have apart : contention.waits.reaches edge.owner edge.waiter = false := by
      refine Bool.eq_false_iff.mpr fun reaches => ?_
      exact regular.waits.irreflexive _
        (TransGen.head' awaits (regular.waits.reaches_iff.mp reaches))
    have other : edge.owner ≠ edge.waiter := fun same =>
      regular.waits.irreflexive _ (.single (same ▸ awaits))
    rcases ask_of_running (by simpa [regular.keyed] using found) runs other apart with
      ⟨after, told⟩
    exact ⟨position, after, blocked, told⟩

variable [DecidableEq Key]

theorem Interleaving.regular (interleaving : Interleaving keys events contention) :
    Regular keys events contention := by
  induction interleaving with
  | start => exact regular_start keys
  | asks _ _ told ih => exact ih.ask told
  | asksAgain _ _ told ih => exact ih.ask told
  | ends _ _ runs outcome ih => exact ih.finish runs outcome

/-! ### Ending and waking in one go -/

theorem finish_eq {key : Key} (keyed : contention.keys[position]? = some key)
    (outcome : Except Cause Unit) : contention.finish position outcome =
      askAgain position (contention.blockedOn position) (contention.ended position outcome) := by
  simp [finish, ended, keyed]

/-- Threads that are blocked on a type and are woken one after the other ask again. -/
theorem Interleaving.askAgain : ∀ (threads : List ThreadId) {events : List (Event Cause)}
    {contention : Contention Key Cause}, Interleaving keys events contention → threads.Nodup →
    (∀ thread ∈ threads, (thread, position) ∈ contention.blocked) →
      Interleaving keys
        (((Contention.askAgain position threads contention).1.map fun told =>
          .told told.1 position told.2).reverse ++ events)
        (Contention.askAgain position threads contention).2 := by
  intro threads
  induction threads with
  | nil => exact fun interleaving _ _ => interleaving
  | cons thread threads ih =>
      intro events contention interleaving distinct blocked
      rcases List.nodup_cons.mp distinct with ⟨apart, distinct⟩
      have others := List.forall_mem_cons.mp blocked
      simp only [Contention.askAgain]
      split
      · exact ih interleaving distinct others.2
      · next ticket after told =>
          have next := Interleaving.asksAgain interleaving others.1 told
          have kept (other : ThreadId) (mem : other ∈ threads) :
              (other, position) ∈ after.blocked := by
            have left : (other, position) ∈ (contention.unblock thread).blocked :=
              mem_unblock.mpr ⟨others.2 other mem, fun same => apart (same ▸ mem)⟩
            cases asked_of_ask told with
            | starts | goesOn | givesUp => exact left
            | waits => exact List.mem_cons_of_mem _ left
          simpa using ih next distinct kept

/-- Reporting the end of an initializer to all threads that are blocked on the type is an
interleaving of the end and of what each of them is then told. -/
theorem Interleaving.finish (interleaving : Interleaving keys events contention)
    (idle : contention.isBlocked thread = false) (runs : Runs events thread position)
    (outcome : Except Cause Unit) :
    Interleaving keys
      (((contention.finish position outcome).1.map fun told =>
        .told told.1 position told.2).reverse ++ .ended thread position :: events)
      (contention.finish position outcome).2 := by
  have regular := interleaving.regular
  have bound := (Array.getElem?_eq_some_iff.mp ((regular.running position thread).mpr runs)).1
  obtain ⟨key, keyed⟩ : ∃ key, contention.keys[position]? = some key :=
    ⟨_, Array.getElem?_eq_some_iff.mpr ⟨by simpa [regular.keyed, ← regular.sized], rfl⟩⟩
  rw [finish_eq keyed]
  refine Interleaving.askAgain _ (.ends interleaving idle runs outcome) ?_ fun other mem => ?_
  · rw [blockedOn, (List.mergeSort_perm _ _).nodup_iff]
    exact regular.single.sublist (List.filter_sublist.map _)
  · simp only [blockedOn, List.mem_mergeSort, List.mem_map, List.mem_filter,
      decide_eq_true_eq] at mem
    rcases mem with ⟨entry, ⟨mem, rfl⟩, rfl⟩
    simpa [ended, keyed] using mem

/-! ### Exclusion and progress -/

/-- Whatever the number of threads and types and the order of events, an initializer is handed out
at most once, and a thread waits only for threads that run the initializer of the type it is blocked
on. No threads wait in a circle: from each one that waits, the threads waited for end at one that
does not. Those that the table has no edge for are not blocked, or go on once they ask again. A
thread goes on with a type that another thread initializes only where that thread waits for it,
directly or through others. -/
theorem Interleaving.exclusive_and_live (interleaving : Interleaving keys events contention) :
    (∀ position, (runners position events).length ≤ 1) ∧
    (∀ edge ∈ contention.waits.edges, ∃ position,
      keys[position]? = some edge.key ∧ (edge.waiter, position) ∈ contention.blocked ∧
        contention.statuses[position]? = some (.running edge.owner) ∧
          Runs events edge.owner position) ∧
    (∀ thread, ¬TransGen contention.waits.Awaits thread thread) ∧
    (∀ thread, contention.waits.next? thread ≠ none →
      ∃ last, TransGen contention.waits.Awaits thread last ∧
        contention.waits.next? last = none) ∧
    (keys.Nodup → ∀ thread, contention.Stuck thread ↔ contention.waits.next? thread ≠ none) ∧
    (∀ thread position owner after, contention.ask thread position = some (.ready, after) →
      Runs events owner position → owner ≠ thread →
        TransGen contention.waits.Awaits owner thread) := by
  have regular := interleaving.regular
  refine ⟨regular.once, fun edge mem => ?_, regular.waits.irreflexive, fun thread waiting => ?_,
    fun distinct thread => regular.stuck_iff distinct, fun thread position owner after told runs
      other => ?_⟩
  · rcases regular.edge edge mem with ⟨position, blocked, found, held⟩
    exact ⟨position, found, blocked, held, (regular.running position edge.owner).mp held⟩
  · rcases Option.ne_none_iff_exists'.mp waiting with ⟨owner, next⟩
    rcases regular.waits.exists_last owner with ⟨last, path, idle⟩
    exact ⟨last, .head' (Waits.awaits_of_next? next) path, idle⟩
  · cases asked_of_ask told with
    | goesOn free =>
        have reaches := (free owner ((regular.running position owner).mpr runs)).resolve_left other
        rcases (regular.waits.reaches_iff.mp reaches).cases_head with same | ⟨next, awaits, path⟩
        · exact absurd same other
        · exact .head' awaits path

end Contention

/-! ### Two threads that initialize each other's types -/

namespace Contention.Crossing

def keys : List Nat := [0, 1]

def first : ThreadId := ⟨0⟩

def second : ThreadId := ⟨1⟩

/-- Each thread runs the initializer of one type, and the second one then asks for the other. -/
def events : List (Event String) :=
  [.told second 0 .wait, .told second 1 .run, .told first 0 .run]

def crossed : Contention Nat String where
  keys := #[0, 1]
  statuses := #[.running first, .running second]
  waits := ⟨[{ waiter := second, owner := first, key := 0 }]⟩
  blocked := [(second, 0)]

theorem crossed_arises : Interleaving keys events crossed :=
  .asks (.asks (.asks .start rfl rfl) rfl rfl) rfl rfl

/-- The first thread goes on with the type that the second one initializes, which waits for it. -/
theorem exclusive_and_live_crossing :
    crossed.ask first 1 = some (.ready, crossed) ∧ Runs events second 1 ∧
      TransGen crossed.waits.Awaits second first ∧ crossed.waits.next? first = none := by
  have told : crossed.ask first 1 = some (.ready, crossed) := rfl
  have runs : Runs events second 1 := by simp [Runs, events]
  exact ⟨told, runs, crossed_arises.exclusive_and_live.2.2.2.2.2 first 1 second crossed told runs
    (by decide), rfl⟩

end Contention.Crossing

end Rekindle.Machine
