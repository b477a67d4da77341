import Rekindle.Body

/-!
# Assembling a body

A body is put together instruction by instruction. Branches and handlers name labels, which are
bound to positions before or after they are used; finishing puts the positions in and fails on the
first label that was never bound, branches before handlers.
-/

namespace Rekindle

/-- A position of a body under construction that may not be known yet. -/
structure Label where
  number : Nat
deriving DecidableEq, Repr, Inhabited

/-- The branches that name a label. -/
inductive BranchKind where
  | always
  | whenTrue
  | whenFalse
  | whenUnequal
  | leaving
deriving DecidableEq, Repr, Inhabited

def BranchKind.to (target : UInt32) : BranchKind → Instruction
  | .always => .branch target
  | .whenTrue => .branchTrue target
  | .whenFalse => .branchFalse target
  | .whenUnequal => .branchUnequal target
  | .leaving => .leave target

/-- Why a body could not be assembled. -/
inductive AssemblyFault where
  | unmarkedLabel (label : Label)
  | labelMarkedTwice (label : Label)
  | foreignLabel (label : Label)
  | tooManyLocals
deriving DecidableEq, Repr, Inhabited

def lastLocalSlot : Nat := 65535

def AssemblyFault.message : AssemblyFault → String
  | .unmarkedLabel label => "label " ++ toString label.number ++ " was never marked"
  | .labelMarkedTwice label => "label " ++ toString label.number ++ " was marked more than once"
  | .foreignLabel label =>
    "label " ++ toString label.number ++ " does not belong to this emitter"
  | .tooManyLocals => "too many locals (limit " ++ toString lastLocalSlot ++ ")"

/-- An instruction that may still wait for the position of a label. -/
inductive Draft where
  | plain (instruction : Instruction)
  | branch (kind : BranchKind) (label : Label)
deriving DecidableEq, Repr, Inhabited

/-- A protecting clause between labels. -/
structure DraftHandler where
  kind : HandlerKind
  tryStart : Label
  tryEnd : Label
  handlerStart : Label
  handlerEnd : Label
deriving DecidableEq, Repr, Inhabited

/-- A body under construction. -/
structure Assembler where
  zeroesLocals : Bool := false
  locals : Array ValueType := #[]
  drafts : Array Draft := #[]
  /-- The position of every label made so far, where it is known. -/
  labels : Array (Option UInt32) := #[]
  handlers : List DraftHandler := []
deriving DecidableEq, Repr, Inhabited

namespace Assembler

def empty : Assembler := {}

def position (assembler : Assembler) : UInt32 := UInt32.ofNat assembler.drafts.size

@[inline] def declareLocal (assembler : Assembler) (type : ValueType) :
    Except AssemblyFault (Assembler × UInt16) :=
  if assembler.locals.size ≤ lastLocalSlot then
    .ok ({ assembler with locals := assembler.locals.push type },
      UInt16.ofNat assembler.locals.size)
  else .error .tooManyLocals

def emit (assembler : Assembler) (instruction : Instruction) : Assembler :=
  { assembler with drafts := assembler.drafts.push (.plain instruction) }

def emitAll (assembler : Assembler) (instructions : List Instruction) : Assembler :=
  instructions.foldl emit assembler

def newLabel (assembler : Assembler) : Assembler × Label :=
  ({ assembler with labels := assembler.labels.push none }, ⟨assembler.labels.size⟩)

def mark (assembler : Assembler) (label : Label) : Except AssemblyFault Assembler :=
  match assembler.labels[label.number]? with
  | none => .error (.foreignLabel label)
  | some (some _) => .error (.labelMarkedTwice label)
  | some none =>
    .ok { assembler with
      labels := assembler.labels.setIfInBounds label.number (some assembler.position) }

def emitBranch (assembler : Assembler) (kind : BranchKind) (label : Label) : Assembler :=
  { assembler with drafts := assembler.drafts.push (.branch kind label) }

/-- Protects the instructions between two labels by those between two others. -/
def addHandler (assembler : Assembler) (handler : DraftHandler) : Assembler :=
  { assembler with handlers := assembler.handlers ++ [handler] }

def resolve (assembler : Assembler) (label : Label) : Except AssemblyFault UInt32 :=
  match assembler.labels[label.number]? with
  | none => .error (.foreignLabel label)
  | some none => .error (.unmarkedLabel label)
  | some (some position) => .ok position

def resolveDraft (assembler : Assembler) : Draft → Except AssemblyFault Instruction
  | .plain instruction => .ok instruction
  | .branch kind label => (assembler.resolve label).map kind.to

def resolveHandler (assembler : Assembler) (handler : DraftHandler) :
    Except AssemblyFault Handler := do
  let tryStart ← assembler.resolve handler.tryStart
  let tryEnd ← assembler.resolve handler.tryEnd
  let handlerStart ← assembler.resolve handler.handlerStart
  let handlerEnd ← assembler.resolve handler.handlerEnd
  return { kind := handler.kind, tryStart, tryEnd, handlerStart, handlerEnd }

def finish (assembler : Assembler) : Except AssemblyFault Body := do
  let instructions ← assembler.drafts.toList.mapM assembler.resolveDraft
  let handlers ← assembler.handlers.mapM assembler.resolveHandler
  return {
    zeroesLocals := assembler.zeroesLocals
    locals := assembler.locals.toList
    instructions := instructions.toArray
    handlers }

end Assembler

end Rekindle
