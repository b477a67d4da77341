import Rekindle.Proofs.Body.Calling
import Rekindle.Proofs.Indexing.Assembling

/-!
# Assembling in place

A bench is an assembler that is changed where it stands. A branch stands on it as a branch to
nowhere, next to a note of its place and its label, and is patched when the body is finished. Such a
bench could be left half changed by a call that fails, or patched outside its instructions; it is
not, since it is at any time the assembler that keeps the labels in the branches themselves, laid
out.
-/

namespace Rekindle.Assembler

open Indexing

/-- A body that is put together in place. -/
structure Bench where
  zeroesLocals : Bool := false
  locals : Array ValueType := #[]
  instructions : Array Instruction := #[]
  labels : Array (Option UInt32) := #[]
  /-- The branches that wait for their target, with their places. -/
  waiting : List (Nat × BranchKind × Label) := []
  handlers : List DraftHandler := []
deriving Repr

/-- A computation that changes a bench and may fail on the way. -/
abbrev Work := ExceptT AssemblyFault (StateM Bench)

namespace Bench

def emit (instruction : Instruction) : Work Unit :=
  modify fun bench => { bench with instructions := bench.instructions.push instruction }

def emitBranch (kind : BranchKind) (label : Label) : Work Unit := do
  let place := (← get).instructions.size
  modify fun bench => { bench with waiting := bench.waiting ++ [(place, kind, label)] }
  emit (placeholder (.branch kind label))

def declareLocal (type : ValueType) : Work UInt16 := do
  let count := (← get).locals.size
  if count > lastLocalSlot then throw .tooManyLocals
  modify fun bench => { bench with locals := bench.locals.push type }
  return UInt16.ofNat count

def newLabel : Work Label := do
  modify fun bench => { bench with labels := bench.labels.push none }
  return ⟨(← get).labels.size - 1⟩

def mark (label : Label) : Work Unit := do
  let position := UInt32.ofNat (← get).instructions.size
  match (← get).labels[label.number]? with
  | none => throw (.foreignLabel label)
  | some (some _) => throw (.labelMarkedTwice label)
  | some none =>
    modify fun bench =>
      { bench with labels := bench.labels.setIfInBounds label.number (some position) }

def addHandler (handler : DraftHandler) : Work Unit :=
  modify fun bench => { bench with handlers := bench.handlers ++ [handler] }

/-- Patches the branches, by their places in the body, and resolves the clauses. -/
def finish (bench : Bench) : Run AssemblyFault Body := do
  let known : Assembler := { labels := bench.labels }
  let instructions ← patch known bench.instructions bench.waiting
  let handlers ← within (bench.handlers.mapM known.resolveHandler)
  return {
    zeroesLocals := bench.zeroesLocals
    locals := bench.locals.toList
    instructions
    handlers }

end Bench

namespace Call

/-- Makes a call in place. -/
def perform : Call → Work Answer
  | .emit instruction => do Bench.emit instruction; return .done
  | .emitBranch kind label => do Bench.emitBranch kind label; return .done
  | .declareLocal type => return .slot (← Bench.declareLocal type)
  | .newLabel => return .label (← Bench.newLabel)
  | .mark label => do Bench.mark label; return .done
  | .addHandler handler => do Bench.addHandler handler; return .done

/-- What a call in place answers and the bench it leaves, also where it fails. -/
def performed (call : Call) (bench : Bench) : Except AssemblyFault Answer × Bench :=
  Fallible.outcome call.perform bench

end Call

/-- The bench that calls in place leave. -/
def Bench.after (zeroes : Bool) (calls : List Call) : Bench :=
  calls.foldl (fun bench call => (call.performed bench).2) { zeroesLocals := zeroes }

theorem Bench.after_concat (zeroes : Bool) (calls : List Call) (call : Call) :
    Bench.after zeroes (calls ++ [call]) = (call.performed (Bench.after zeroes calls)).2 := by
  simp [Bench.after]

/-! ## Laying out -/

def laidOut (assembler : Assembler) : Bench where
  zeroesLocals := assembler.zeroesLocals
  locals := assembler.locals
  instructions := assembler.drafts.map placeholder
  labels := assembler.labels
  waiting := fixups 0 assembler.drafts.toList
  handlers := assembler.handlers

theorem fixups_append (place : Nat) (first second : List Draft) :
    fixups place (first ++ second) =
      fixups place first ++ fixups (place + first.length) second := by
  induction first generalizing place with
  | nil => rfl
  | cons draft first ih => cases draft <;> simp [fixups, ih, Nat.add_comm, Nat.add_left_comm]

/-- A call in place leaves the layout of what the call leaves that answers with a new assembler. -/
theorem Call.performed_laidOut (call : Call) (assembler : Assembler) :
    call.performed assembler.laidOut =
      ((call.outcome assembler).1, (call.outcome assembler).2.laidOut) := by
  cases call with
  | emit instruction =>
      simp [performed, perform, Bench.emit, outcome, apply, Assembler.emit, laidOut, fixups_append,
        fixups, placeholder]
  | emitBranch kind label =>
      simp [performed, perform, Bench.emitBranch, Bench.emit, outcome, apply, Assembler.emitBranch,
        laidOut, fixups_append, fixups, placeholder]
  | declareLocal type =>
      by_cases room : assembler.locals.size ≤ lastLocalSlot
      · simp [performed, perform, Bench.declareLocal, outcome, apply, Assembler.declareLocal,
          laidOut, room, Nat.not_lt_of_le room, Except.map]
      · simp [performed, perform, Bench.declareLocal, outcome, apply, Assembler.declareLocal,
          laidOut, room, Nat.lt_of_not_le room, Except.map]
  | newLabel =>
      simp [performed, perform, Bench.newLabel, outcome, apply, Assembler.newLabel, laidOut]
  | mark label =>
      rcases place : assembler.labels[label.number]? with _ | _ | position
      all_goals
        simp [performed, perform, Bench.mark, outcome, apply, Assembler.mark, Assembler.position,
          laidOut, place, Except.map]
  | addHandler handler => rfl

theorem bench_after_eq (zeroes : Bool) (calls : List Call) :
    Bench.after zeroes calls = (run zeroes calls).laidOut := by
  induction calls using List.reverseRecOn with
  | nil => simp [Bench.after, run, laidOut, fixups]
  | append_singleton calls call ih =>
      rw [Bench.after_concat, run_concat, ih, Call.performed_laidOut]

/-- Only the labels matter for patching. -/
theorem patch_labels (assembler : Assembler) (instructions : Array Instruction)
    (waiting : List (Nat × BranchKind × Label)) :
    patch { labels := assembler.labels } instructions waiting =
      patch assembler instructions waiting := by
  induction waiting generalizing instructions with
  | nil => rfl
  | cons fixup waiting ih =>
      have resolves : resolve { labels := assembler.labels } = assembler.resolve := rfl
      simp only [patch, resolves, ih]

/-- Finishing a body in place stays within it and comes to the same. -/
theorem finish_laidOut (assembler : Assembler) :
    assembler.laidOut.finish = within assembler.finish := by
  rw [← finish_within, Bench.finish, Indexing.finish]
  simp only [laidOut, patch_labels]
  rfl

end Rekindle.Assembler
