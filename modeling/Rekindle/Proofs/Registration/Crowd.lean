import Mathlib.Data.List.FinRange
import Mathlib.Logic.Function.Basic
import Rekindle.Machine.Host
import Rekindle.Proofs.Machine.Storage

/-!
# Crowds

Several threads that run on one store, where any of them may do the next step. A crowd keeps a log
of what its threads did to one slot they share: that they read it, and that they tried to exchange
what it held, with or without success. A schedule lists the threads in the order of their turns, so
the schedules of a crowd are the interleavings of its threads.
-/

namespace Rekindle.Machine

/-- What a slot holds; a slot that nobody asked for yet holds null. -/
def Store.held (store : Store) (slot : Address) : Value := (store.slot? slot).getD .null

/-- How far one of several threads has come. -/
inductive Course where
  | underway (activations : List Activation)
  | ended (result : Except Trap (Option Value))

/-- What a thread does to a slot that it shares with others. -/
inductive Contact where
  /-- Reads what the slot holds. -/
  | observed
  /-- Tries to exchange what the slot holds, and sees what it held. -/
  | exchanged (succeeded : Bool)
deriving DecidableEq, Repr

/-- What the next step of a thread does to a slot: a read counts when the frame goes on to the next
instruction, and an exchange succeeds when the slot holds what the thread expects. -/
def contact (limit : Nat) (thread : ThreadId) (slot : Address) (store : Store) :
    List Activation → Option Contact
  | .body frame :: below =>
    match frame.instruction?, attempt limit thread store (.body frame :: below) with
    | some (.loadField reference), .running _ (.body next :: _) =>
      match frame.address store reference with
      | .ok place =>
        if place = slot ∧ next.position = frame.position + 1 then some .observed else none
      | .error _ => none
    | some .compareExchange, .running _ _ =>
      match frame.operands.values with
      | expected :: _ :: .address place :: _ =>
        if place = slot then
          (store.slot? slot).map fun held => .exchanged (held.same expected)
        else none
      | _ => none
    | _, _ => none
  | _ => none

/-- What several threads did to a slot so far, and in which order. -/
abbrev Log (size : Nat) := List (Fin size × Contact)

namespace Log

variable {size : Nat}

/-- The threads whose exchange succeeded, in the order of the exchanges. -/
def winners (log : Log size) : List (Fin size) :=
  log.filterMap fun entry => if entry.2 = .exchanged true then some entry.1 else none

/-- What was done to the slot since a thread was last in contact with it. -/
def Since (log : Log size) (member : Fin size) (since : Log size) : Prop :=
  ∃ before last, log = before ++ (member, last) :: since ∧ ∀ entry ∈ since, entry.1 ≠ member

/-- Whether another thread exchanged what the slot held after a thread was last in contact with
it. -/
def Overtaken (log : Log size) (member : Fin size) : Prop :=
  ∃ since other, log.Since member since ∧ other ≠ member ∧ (other, .exchanged true) ∈ since

/-- The entry of a thread that may have been in contact with the slot. -/
def entries (member : Fin size) (contact : Option Contact) : Log size :=
  (contact.map (member, ·)).toList

@[simp]
theorem winners_append (log more : Log size) :
    (log ++ more).winners = log.winners ++ more.winners :=
  List.filterMap_append

theorem Since.append {log since more : Log size} {member : Fin size}
    (lately : log.Since member since) (others : ∀ entry ∈ more, entry.1 ≠ member) :
    (log ++ more).Since member (since ++ more) := by
  rcases lately with ⟨before, last, rfl, apart⟩
  refine ⟨before, last, by simp, fun entry listed => ?_⟩
  rcases List.mem_append.mp listed with early | late
  · exact apart entry early
  · exact others entry late

/-- A contact of a thread is its last one. -/
theorem since_concat (log : Log size) (member : Fin size) (last : Contact) :
    (log ++ [(member, last)]).Since member [] :=
  ⟨log, last, rfl, by simp⟩

end Log

/-- Threads that run on one store, with what they did to the slot they share so far. -/
structure Crowd (size : Nat) where
  store : Store
  courses : Fin size → Course
  log : Log size

namespace Crowd

variable {size : Nat}

/-- Threads that are about to call a routine, each with an argument of its own. -/
def start (store : Store) (target : BoundRoutine) (arguments : Fin size → Value) : Crowd size where
  store
  courses := fun member => .underway [.call target [arguments member]]
  log := []

/-- One thread does its next step. A thread that is blocked asks again, and one that has ended does
nothing. -/
def turn (limit : Nat) (slot : Address) (crowd : Crowd size) (member : Fin size) : Crowd size :=
  match crowd.courses member with
  | .ended _ => crowd
  | .underway activations =>
    let log := crowd.log ++
      Log.entries member (contact limit ⟨member⟩ slot crowd.store activations)
    match step limit ⟨member⟩ crowd.store activations with
    | .running store activations | .blocked store activations =>
      { store, courses := Function.update crowd.courses member (.underway activations), log }
    | .finished store result =>
      { store, courses := Function.update crowd.courses member (.ended result), log }

/-- The crowd after the turns of a schedule. -/
def play (limit : Nat) (slot : Address) (crowd : Crowd size) (schedule : List (Fin size)) :
    Crowd size :=
  schedule.foldl (turn limit slot) crowd

/-- What one turn keeps, every schedule keeps. -/
theorem play_preserves {limit : Nat} {slot : Address} {invariant : Crowd size → Prop}
    (preserved : ∀ crowd member, invariant crowd → invariant (turn limit slot crowd member))
    {crowd : Crowd size} (initially : invariant crowd) (schedule : List (Fin size)) :
    invariant (crowd.play limit slot schedule) := by
  induction schedule generalizing crowd with
  | nil => exact initially
  | cons member schedule ih => exact ih (preserved crowd member initially)

end Crowd

end Rekindle.Machine
