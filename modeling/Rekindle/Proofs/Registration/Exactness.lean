import Rekindle.Proofs.Registration.Move

/-!
# No registration is lost or duplicated

Threads that register callbacks in one slot, in any order of their steps. The slot always holds what
it held at first, followed by the arguments of the threads whose exchange succeeded. The invariant
says of each thread how far it has come, and of each thread that has yet to exchange, that the slot
still holds what it saw unless another thread was faster.
-/

namespace Rekindle.Machine.Site

variable {size : Nat} (site : Site) (limit : Nat) (initial : Store) (arguments : Fin size → Value)

/-- What a log says of a thread that saw a value in the slot: since then another thread made an
exchange, or the slot holds the value still. -/
def Watched (log : Log size) (store : Store) (member : Fin size) (value : Value) : Prop :=
  log.Overtaken member ∨ (∃ since, log.Since member since) ∧ store.held site.slot = value

/-- How far a thread has come. -/
inductive Standing (objects : Nat → List BoundRoutine) (store : Store) (log : Log size)
    (member : Fin size) : Course → Prop where
  | underway {won seen activations}
      (going : site.Underway (arguments member) objects store won seen activations)
      (exchanged : won = true ↔ member ∈ log.winners)
      (watched : won = false → ∀ value, seen = some value →
        site.Watched log store member value) :
      Standing objects store log member (.underway activations)
  | returned (exchanged : member ∈ log.winners) :
      Standing objects store log member (.ended (.ok none))
  | trapped {trap} (unexchanged : member ∉ log.winners)
      (reason : limit = 0 ∨ initial.HasFailed site.slot.instantiation) :
      Standing objects store log member (.ended (.error trap))

/-- What holds of threads that register callbacks after every step. -/
structure Exact (objects : Nat → List BoundRoutine) (crowd : Crowd size) : Prop where
  settled : site.Settled objects crowd.store
  issued : ∀ member, (arguments member).Issued objects crowd.store.nextCallback
  failing : crowd.store.HasFailed site.slot.instantiation →
    initial.HasFailed site.slot.instantiation
  adds : (crowd.store.held site.slot).targets = (initial.held site.slot).targets ++
    crowd.log.winners.flatMap fun member => (arguments member).targets
  once : crowd.log.winners.Nodup
  justified : ∀ before since member,
    crowd.log = before ++ (member, .exchanged false) :: since → Log.Overtaken before member
  standing : ∀ member, site.Standing limit initial arguments objects crowd.store crowd.log member
    (crowd.courses member)

variable {site limit initial arguments} {objects objectsAfter : Nat → List BoundRoutine}
  {store after : Store} {log : Log size} {member other : Fin size}

/-! ### What others do -/

/-- What a thread watches outlives the contacts of others, as long as the slot is left alone or
exchanged by one of them. -/
theorem Watched.append {more : Log size} {value : Value}
    (watched : site.Watched log store member value) (others : ∀ entry ∈ more, entry.1 ≠ member)
    (held : after.held site.slot = store.held site.slot ∨
      ∃ other, (other, Contact.exchanged true) ∈ more) :
    site.Watched (log ++ more) after member value := by
  rcases watched with ⟨since, faster, lately, apart, listed⟩ | ⟨⟨since, lately⟩, holds⟩
  · exact .inl ⟨since ++ more, faster, lately.append others, apart,
      List.mem_append_left _ listed⟩
  · rcases held with kept | ⟨faster, listed⟩
    · exact .inr ⟨⟨since ++ more, lately.append others⟩, kept.trans holds⟩
    · exact .inl ⟨since ++ more, faster, lately.append others, others _ listed,
        List.mem_append_right _ listed⟩

theorem Standing.append {more : Log size} {course : Course}
    (standing : site.Standing limit initial arguments objects store log member course)
    (later : site.Later objects store objectsAfter after)
    (others : ∀ entry ∈ more, entry.1 ≠ member)
    (held : after.held site.slot = store.held site.slot ∨
      ∃ other, (other, Contact.exchanged true) ∈ more) :
    site.Standing limit initial arguments objectsAfter after (log ++ more) member course := by
  have unmoved : member ∈ (log ++ more).winners ↔ member ∈ log.winners := by
    have absent : member ∉ more.winners := by
      intro listed
      rcases List.mem_filterMap.mp listed with ⟨entry, entryListed, named⟩
      split at named
      · exact others entry entryListed (Option.some.inj named)
      · cases named
    simp [absent]
  cases standing with
  | underway going exchanged watched =>
      exact .underway (going.later later) (exchanged.trans unmoved.symm)
        fun lost value saw => (watched lost value saw).append others held
  | returned exchanged => exact .returned (unmoved.mpr exchanged)
  | trapped unexchanged reason => exact .trapped (fun listed => unexchanged (unmoved.mp listed)) reason

/-! ### One thread moves -/

/-- The invariant outlives the move of one thread, when the move adds the thread's argument if it
exchanges what the slot held and otherwise leaves that alone, and is refused only if the thread was
overtaken. -/
theorem Exact.update {crowd : Crowd size} {course : Course} {contact : Option Contact}
    (invariant : site.Exact limit initial arguments objects crowd)
    (later : site.Later objects crowd.store objectsAfter after)
    (held : contact ≠ some (.exchanged true) ∧
        after.held site.slot = crowd.store.held site.slot ∨
      contact = some (.exchanged true) ∧ member ∉ crowd.log.winners ∧
        (after.held site.slot).targets =
          (crowd.store.held site.slot).targets ++ (arguments member).targets)
    (refused : contact = some (.exchanged false) → crowd.log.Overtaken member)
    (standing : site.Standing limit initial arguments objectsAfter after
      (crowd.log ++ Log.entries member contact) member course) :
    site.Exact limit initial arguments objectsAfter
      { store := after, courses := Function.update crowd.courses member course,
        log := crowd.log ++ Log.entries member contact } where
  settled := later.settled
  issued := fun other => later.issued _ (invariant.issued other)
  failing := fun failed => invariant.failing (later.failed failed)
  adds := by
    rcases held with ⟨quiet, kept⟩ | ⟨rfl, _, adds⟩
    · have none : (Log.entries member contact).winners = [] := by
        rcases contact with _ | _ | succeeded <;> simp_all [Log.entries, Log.winners]
      simp only [kept, invariant.adds, Log.winners_append, none, List.append_nil]
    · have one : (Log.entries member (some (.exchanged true))).winners = [member] := rfl
      simp only [adds, invariant.adds, Log.winners_append, one, List.flatMap_append,
        List.flatMap_singleton, List.append_assoc]
  once := by
    rcases held with ⟨quiet, _⟩ | ⟨rfl, first, _⟩
    · have none : (Log.entries member contact).winners = [] := by
        rcases contact with _ | _ | succeeded <;> simp_all [Log.entries, Log.winners]
      simpa only [Log.winners_append, none, List.append_nil] using invariant.once
    · have one : (Log.entries member (some (.exchanged true))).winners = [member] := rfl
      simp only [Log.winners_append, one]
      exact List.nodup_append.mpr ⟨invariant.once, List.nodup_singleton _, by
        rintro winner listed _ same rfl
        exact first (List.mem_singleton.mp same ▸ listed)⟩
  justified := by
    intro before since loser split
    -- only the last entry of the log is new
    rcases contact with _ | contact
    · exact invariant.justified before since loser (by simpa [Log.entries] using split)
    · rcases List.eq_nil_or_concat since with rfl | ⟨since, last, rfl⟩
      · have ends := List.append_inj' split rfl
        rcases ends with ⟨same, entry⟩
        cases entry
        exact same ▸ refused rfl
      · have ends : crowd.log ++ [(member, contact)] =
            (before ++ (loser, .exchanged false) :: since) ++ [last] := by
          simpa [Log.entries] using split
        exact invariant.justified before since loser (List.append_inj' ends rfl).1
  standing := by
    intro other
    by_cases same : other = member
    · subst same
      simpa only [Function.update_self] using standing
    · simp only [Function.update_of_ne same]
      refine (invariant.standing other).append later ?_ ?_
      · intro entry listed
        rcases contact with _ | contact
        · cases listed
        · rw [List.mem_singleton.mp listed]
          exact fun equal => same equal.symm
      · rcases held with ⟨_, kept⟩ | ⟨rfl, _, _⟩
        · exact .inl kept
        · exact .inr ⟨member, List.mem_singleton_self _⟩

/-- Every step of every thread keeps the invariant. -/
theorem Exact.turn {crowd : Crowd size}
    (invariant : site.Exact limit initial arguments objects crowd) (member : Fin size) :
    ∃ objectsAfter, site.Exact limit initial arguments objectsAfter
      (crowd.turn limit site.slot member) := by
  rcases course : crowd.courses member with activations | result
  · have standing := invariant.standing member
    rw [course] at standing
    rcases standing with @⟨won, seen, _, going, exchanged, watched⟩
    have move := going.move limit ⟨member⟩ invariant.settled (invariant.issued member)
    simp only [Crowd.turn, course]
    generalize contact limit ⟨member⟩ site.slot crowd.store activations = contact at move ⊢
    generalize step limit ⟨member⟩ crowd.store activations = progress at move ⊢
    have lost : won = false → member ∉ crowd.log.winners := by
      intro still listed
      exact Bool.false_ne_true (still.symm.trans (exchanged.mpr listed))
    cases move with
    | @quiet objectsAfter after next _ later kept underway leads =>
        refine ⟨objectsAfter, ?_⟩
        have standing : site.Standing limit initial arguments objectsAfter after
            (crowd.log ++ Log.entries member none) member (.underway next) :=
          .underway underway (by simpa [Log.entries] using exchanged) fun still value saw => by
            simpa [Log.entries, Watched, kept] using watched still value saw
        have untouched : (none : Option Contact) ≠ some (.exchanged true) := nofun
        have updated := invariant.update later (.inl ⟨untouched, kept⟩) nofun standing
        rcases leads with rfl | rfl <;> exact updated
    | @observed objectsAfter after next later kept still underway =>
        refine ⟨objectsAfter, invariant.update later (.inl ⟨nofun, kept⟩) nofun ?_⟩
        refine .underway underway ?_ fun _ value saw => ?_
        · simpa [Log.entries, Log.winners] using lost still
        · exact .inr ⟨⟨[], Log.since_concat _ _ _⟩, kept.trans (Option.some.inj saw)⟩
    | @exchanged objectsAfter after next later still adds underway =>
        refine ⟨objectsAfter, invariant.update later (.inr ⟨rfl, lost still, adds⟩) nofun ?_⟩
        refine .underway underway ?_ nofun
        simp [Log.entries, Log.winners]
    | @refused objectsAfter after next value later kept still saw changed underway =>
        -- had nobody come in between, the slot would still hold what the thread last saw
        have overtaken : crowd.log.Overtaken member := by
          rcases watched still value saw with overtaken | ⟨_, holds⟩
          · exact overtaken
          · rw [← holds, Value.same_self_of_issued invariant.settled.issued] at changed
            cases changed
        refine ⟨objectsAfter, invariant.update later (.inl ⟨nofun, kept⟩)
          (fun _ => overtaken) ?_⟩
        refine .underway underway ?_ fun _ value saw => ?_
        · simpa [Log.entries, Log.winners] using lost still
        · exact .inr ⟨⟨[], Log.since_concat _ _ _⟩, kept.trans (Option.some.inj saw)⟩
    | @returned objectsAfter after later kept done =>
        refine ⟨objectsAfter, invariant.update later (.inl ⟨nofun, kept⟩) nofun ?_⟩
        exact .returned (by simpa [Log.entries] using exchanged.mp done)
    | @trapped objectsAfter after trap later kept still reason =>
        refine ⟨objectsAfter, invariant.update later (.inl ⟨nofun, kept⟩) nofun ?_⟩
        exact .trapped (by simpa [Log.entries] using lost still)
          (reason.imp_right invariant.failing)
  · refine ⟨objects, ?_⟩
    simpa only [Crowd.turn, course] using invariant

/-! ### Every schedule -/

/-- Threads that have done nothing yet satisfy the invariant. -/
theorem Exact.start (settled : site.Settled objects initial)
    (issued : ∀ member, (arguments member).Issued objects initial.nextCallback) :
    site.Exact limit initial arguments objects
      (Crowd.start initial site.target arguments) where
  settled := settled
  issued := issued
  failing := id
  adds := by simp [Crowd.start, Log.winners]
  once := List.nodup_nil
  justified := fun before since member split => by simp [Crowd.start] at split
  standing := fun member =>
    .underway Phase.calling.underway (by simp [Crowd.start, Log.winners]) nofun

theorem Exact.play {crowd : Crowd size}
    (invariant : site.Exact limit initial arguments objects crowd) (schedule : List (Fin size)) :
    ∃ objectsAfter, site.Exact limit initial arguments objectsAfter
      (crowd.play limit site.slot schedule) := by
  have preserved : ∀ (crowd : Crowd size) (member : Fin size),
      (∃ objects, site.Exact limit initial arguments objects crowd) →
        ∃ objects, site.Exact limit initial arguments objects
          (crowd.turn limit site.slot member) := by
    rintro crowd member ⟨objects, kept⟩
    exact kept.turn member
  exact Crowd.play_preserves preserved ⟨objects, invariant⟩ schedule

/-- Threads that have all returned have all exchanged, each of them once. -/
theorem Exact.all_won {crowd : Crowd size}
    (invariant : site.Exact limit initial arguments objects crowd)
    (ended : ∀ member, ∃ value, crowd.courses member = .ended (.ok value)) :
    crowd.log.winners.Perm (List.finRange size) := by
  refine (List.perm_ext_iff_of_nodup invariant.once (List.nodup_finRange size)).mpr fun member => ?_
  refine ⟨fun _ => List.mem_finRange member, fun _ => ?_⟩
  rcases ended member with ⟨value, course⟩
  have standing := invariant.standing member
  rw [course] at standing
  cases standing with
  | returned exchanged => exact exchanged

/-- Threads that register callbacks in one slot lose and repeat none of them, in whatever order
they do their steps. The slot holds what it held at first, followed by the arguments of the threads
whose exchange succeeded, in the order of the exchanges, and no thread exchanges twice. An exchange
fails only if another thread's succeeded after the thread last saw what the slot holds. A thread
that has returned has exchanged, and a thread can fail only before it has: where no call is allowed,
or where the initialization of the dispatcher had failed. -/
theorem registrations_exact (site : Site) (limit : Nat) (initial : Store)
    (objects : Nat → List BoundRoutine) (arguments : Fin size → Value)
    (settled : site.Settled objects initial)
    (issued : ∀ member, (arguments member).Issued objects initial.nextCallback)
    (schedule : List (Fin size)) (crowd : Crowd size)
    (played : crowd = (Crowd.start initial site.target arguments).play limit site.slot schedule) :
    (crowd.store.held site.slot).targets = (initial.held site.slot).targets ++
        crowd.log.winners.flatMap (fun member => (arguments member).targets) ∧
      crowd.log.winners.Nodup ∧
      (∀ before since member, crowd.log = before ++ (member, .exchanged false) :: since →
        Log.Overtaken before member) ∧
      (∀ member value, crowd.courses member = .ended (.ok value) →
        member ∈ crowd.log.winners) ∧
      (∀ member trap, crowd.courses member = .ended (.error trap) →
        member ∉ crowd.log.winners ∧
          (limit = 0 ∨ initial.HasFailed site.slot.instantiation)) ∧
      ((∀ member, ∃ value, crowd.courses member = .ended (.ok value)) →
        crowd.log.winners.Perm (List.finRange size)) := by
  subst played
  have start : site.Exact limit initial arguments objects
    (Crowd.start initial site.target arguments) := .start settled issued
  rcases start.play schedule with ⟨objectsAfter, invariant⟩
  refine ⟨invariant.adds, invariant.once, invariant.justified, ?_, ?_, invariant.all_won⟩
  · intro member value course
    have standing := invariant.standing member
    rw [course] at standing
    cases standing with
    | returned exchanged => exact exchanged
  · intro member trap course
    have standing := invariant.standing member
    rw [course] at standing
    cases standing with
    | trapped unexchanged reason => exact ⟨unexchanged, reason⟩

end Rekindle.Machine.Site

/-! ### A race -/

namespace Rekindle.Machine.Race

open Reload

def blank : Module where
  name := "app"
  identity := Vector.replicate 16 0
  references := []
  types := #[]
  fields := #[]
  routines := #[]
  topLevel := []

def dispatcher : Dispatcher where
  type := ⟨0⟩
  unloadActions := ⟨0⟩
  loadActions := ⟨1⟩
  registerUnload := ⟨0⟩
  registerLoad := ⟨1⟩
  unload := ⟨2⟩
  load := ⟨3⟩

def module : Module :=
  match Dispatcher.addTo {} blank with
  | .ok (module, _) => module
  | .error _ => blank

theorem module_added : Dispatcher.Added {} blank module dispatcher :=
  (Dispatcher.addTo_added rfl ⟨by decide, by decide, by decide⟩).2

def site : Site where
  module
  handle := ⟨0⟩
  owner := dispatcher.type
  routine := dispatcher.registerLoad
  field := dispatcher.loadActions
  registers := registers_load module_added

/-- A store in which nothing has run yet and two callbacks were made. -/
def store : Store :=
  { Store.empty with modules := #[module], nextCallback := 2 }

/-- A routine that stands for one of the callbacks. -/
def target (index : UInt32) : BoundRoutine where
  module := ⟨0⟩
  routine := ⟨index⟩
  arguments := []

def objects : Nat → List BoundRoutine
  | 0 => [target 2]
  | _ => [target 3]

def arguments (member : Fin 2) : Value :=
  .callback { identity := member, targets := objects member }

def crowd : Crowd 2 :=
  (Crowd.start store site.target arguments).play 1 site.slot (List.replicate 32 [0, 1]).flatten

/-- Two threads see the empty slot, the slower one has to try again, and both callbacks are
there. -/
theorem registrations_exact_race :
    crowd.log = [(1, .observed), (0, .observed), (1, .exchanged true), (0, .exchanged false),
        (0, .exchanged true)] ∧
      (crowd.store.held site.slot).targets = [target 3, target 2] := by
  have log : crowd.log = [(1, .observed), (0, .observed), (1, .exchanged true),
    (0, .exchanged false), (0, .exchanged true)] := by decide +kernel
  have issued : ∀ member, (arguments member).Issued objects store.nextCallback :=
    fun member => ⟨member.isLt, rfl⟩
  have exactness := Site.registrations_exact site 1 store objects arguments
    ⟨rfl, by decide, trivial⟩ issued _ crowd rfl
  refine ⟨log, exactness.1.trans ?_⟩
  rw [log]
  rfl

end Rekindle.Machine.Race
