import Rekindle.Instruction

/-!
# Bodies

The body of a routine: the types of its locals, its instructions, and the clauses that protect
ranges of them. A range contains its start and not its end.
-/

namespace Rekindle

/-- What a protecting clause does. -/
inductive HandlerKind where
  /-- Receives every thrown value, which is on the stack when the handler starts. -/
  | catching
  | finalizing
deriving DecidableEq, Repr, Inhabited

/-- A clause that protects a range of instructions by a handler. -/
structure Handler where
  kind : HandlerKind
  tryStart : UInt32
  tryEnd : UInt32
  handlerStart : UInt32
  handlerEnd : UInt32
deriving DecidableEq, Repr, Inhabited

namespace Handler

def covers (handler : Handler) (offset : Nat) : Bool :=
  handler.tryStart.toNat ≤ offset && offset < handler.tryEnd.toNat

def contains (handler : Handler) (offset : Nat) : Bool :=
  handler.handlerStart.toNat ≤ offset && offset < handler.handlerEnd.toNat

end Handler

/-- What a routine does when it is called. -/
structure Body where
  /-- Whether locals are declared to start as zero. -/
  zeroesLocals : Bool
  locals : List ValueType
  instructions : Array Instruction
  handlers : List Handler
deriving DecidableEq, Repr, Inhabited

namespace Body

def returning : Body where
  zeroesLocals := false
  locals := []
  instructions := #[.ret]
  handlers := []

def size (body : Body) : Nat := body.instructions.size

def isEmpty (body : Body) : Bool := body.instructions.isEmpty

end Body

end Rekindle
