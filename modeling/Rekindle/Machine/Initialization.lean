/-!
# Initialization

A type is initialized by the first thread that asks for it, while other threads that ask wait. A
thread does not wait for an initializer that runs on itself, nor where waiting would close a circle
of threads that wait for each other; it then goes on with the type as it is. An initializer that
failed has failed for good.

The wait table has one edge per waiting thread, to the thread that runs the initializer.
-/

namespace Rekindle.Machine

/-- A thread of the machine. -/
structure ThreadId where
  number : Nat
deriving DecidableEq, Repr, Inhabited

/-- How far the initialization of a type has come. -/
inductive Status (Cause : Type) where
  | pending
  | running (owner : ThreadId)
  | done
  | failed (cause : Cause)
deriving DecidableEq, Repr, Inhabited

/-- What a thread that asks for a type has to do. -/
inductive Ticket (Cause : Type) where
  /-- Run the initializer and report how it ended. -/
  | run
  /-- Go on. -/
  | ready
  /-- Give up, because the initializer failed. -/
  | failed (cause : Cause)
  /-- Ask again when the initializer has ended. -/
  | wait
deriving DecidableEq, Repr, Inhabited

/-- A thread that waits for another one to initialize a type. -/
structure WaitEdge (Key : Type) where
  waiter : ThreadId
  owner : ThreadId
  key : Key
deriving DecidableEq, Repr, Inhabited

/-- The wait table, with at most one edge per waiting thread. -/
structure Waits (Key : Type) where
  edges : List (WaitEdge Key)
deriving DecidableEq, Repr, Inhabited

namespace Waits

variable {Key : Type}

def empty : Waits Key := ⟨[]⟩

def count (waits : Waits Key) : Nat := waits.edges.length

def next? (waits : Waits Key) (thread : ThreadId) : Option ThreadId :=
  (waits.edges.find? fun edge => edge.waiter = thread).map (·.owner)

def erase (waits : Waits Key) (thread : ThreadId) : Waits Key :=
  ⟨waits.edges.filter fun edge => edge.waiter ≠ thread⟩

def insert (waits : Waits Key) (edge : WaitEdge Key) : Waits Key :=
  ⟨edge :: (waits.erase edge.waiter).edges⟩

/-- Whether following at most a number of edges leads from a thread to another. -/
def leadsTo (waits : Waits Key) (target : ThreadId) : (steps : Nat) → ThreadId → Bool
  | 0, thread => thread = target
  | steps + 1, thread =>
    if thread = target then true
    else match waits.next? thread with
      | some next => waits.leadsTo target steps next
      | none => false

/-- Whether a thread waits, directly or through others, for another, or is that thread. -/
def reaches (waits : Waits Key) (thread target : ThreadId) : Bool :=
  waits.leadsTo target waits.count thread

def release [DecidableEq Key] (waits : Waits Key) (key : Key) : Waits Key :=
  ⟨waits.edges.filter fun edge => edge.key ≠ key⟩

end Waits

/-- A thread asks for a type of a key, whose status and the wait table change accordingly. -/
def Status.ask {Key Cause : Type} (status : Status Cause) (waits : Waits Key)
    (thread : ThreadId) (key : Key) : Ticket Cause × Status Cause × Waits Key :=
  match status with
  | .done => (.ready, .done, waits.erase thread)
  | .failed cause => (.failed cause, .failed cause, waits.erase thread)
  | .pending => (.run, .running thread, waits.erase thread)
  | .running owner =>
    if owner = thread ∨ waits.reaches owner thread then
      (.ready, .running owner, waits.erase thread)
    else (.wait, .running owner, waits.insert { waiter := thread, owner, key })

/-- How an initializer ended, as a status. -/
def Status.ofOutcome {Cause : Type} : Except Cause Unit → Status Cause
  | .ok () => .done
  | .error cause => .failed cause

end Rekindle.Machine
