import Rekindle.Machine.Initialization

/-!
# Contention

Several threads ask for several types. A thread that has to wait is blocked on the type it asked
for until the initializer of that type ends; it then asks again, as it may also do at any other
time. Whoever reports the end of an initializer does so once for all threads that are blocked on
the type.
-/

namespace Rekindle.Machine

/-- Types that are initialized by several threads. -/
structure Contention (Key Cause : Type) where
  keys : Array Key
  /-- How far the type at the same position has come. -/
  statuses : Array (Status Cause)
  waits : Waits Key
  /-- The threads that are blocked, each with the position of the type it asked for. -/
  blocked : List (ThreadId × Nat)
deriving Repr, Inhabited

namespace Contention

variable {Key Cause : Type}

def start (keys : List Key) : Contention Key Cause where
  keys := keys.toArray
  statuses := (keys.map fun _ => .pending).toArray
  waits := .empty
  blocked := []

def isBlocked (contention : Contention Key Cause) (thread : ThreadId) : Bool :=
  contention.blocked.any fun entry => entry.1 = thread

/-- A thread asks for the type at a position, for the first time or again. -/
def ask (contention : Contention Key Cause) (thread : ThreadId) (position : Nat) :
    Option (Ticket Cause × Contention Key Cause) := do
  let key ← contention.keys[position]?
  let status ← contention.statuses[position]?
  let (ticket, status, waits) := status.ask contention.waits thread key
  let others := contention.blocked.filter fun entry => entry.1 ≠ thread
  let blocked := match ticket with
    | .wait => (thread, position) :: others
    | .run | .ready | .failed _ => others
  return (ticket, { contention with
    statuses := contention.statuses.setIfInBounds position status, waits, blocked })

/-- Lets threads ask again for the type at a position, one after the other. -/
def askAgain (position : Nat) :
    List ThreadId → Contention Key Cause → List (ThreadId × Ticket Cause) × Contention Key Cause
  | [], contention => ([], contention)
  | thread :: threads, contention =>
    match contention.ask thread position with
    | none => askAgain position threads contention
    | some (ticket, contention) =>
      let (tickets, contention) := askAgain position threads contention
      ((thread, ticket) :: tickets, contention)

/-- The threads that are blocked on the type at a position, in the order of their numbers. -/
def blockedOn (contention : Contention Key Cause) (position : Nat) : List ThreadId :=
  ((contention.blocked.filter fun entry => entry.2 = position).map (·.1)).mergeSort
    fun left right => left.number ≤ right.number

/-- The initializer of the type at a position ends, and the threads that are blocked on it ask
again. -/
def finish [DecidableEq Key] (contention : Contention Key Cause) (position : Nat)
    (outcome : Except Cause Unit) : List (ThreadId × Ticket Cause) × Contention Key Cause :=
  match contention.keys[position]? with
  | none => ([], contention)
  | some key =>
    askAgain position (contention.blockedOn position)
      { contention with
        statuses := contention.statuses.setIfInBounds position (.ofOutcome outcome)
        waits := contention.waits.release key }

end Contention

end Rekindle.Machine
