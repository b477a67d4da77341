import Rekindle.Body.Assembler
import Rekindle.Proofs.Indexing.Access
import Rekindle.Reload.Hook

/-!
# Assembling a body by position

A branch to a label is written down before its target is known, and the place where it stands is
noted. Finishing the body goes back to these places by their position. They were noted when the
branch was appended and instructions are never taken away, so all of them are in the body. The
bodies that the passes add are put together like this.
-/

namespace Rekindle.Indexing

open Fallible Reload

/-- What stands in the place of a branch whose target is not known. -/
def placeholder : Draft → Instruction
  | .plain instruction => instruction
  | .branch kind _ => kind.to 4294967295

/-- The branches among drafts that follow a number of others, with their positions. -/
def fixups : Nat → List Draft → List (Nat × BranchKind × Label)
  | _, [] => []
  | position, .plain _ :: drafts => fixups (position + 1) drafts
  | position, .branch kind label :: drafts =>
    (position, kind, label) :: fixups (position + 1) drafts

/-- Puts branches to their targets where the branches stand. -/
def patch (assembler : Assembler) (instructions : Array Instruction) :
    List (Nat × BranchKind × Label) → Run AssemblyFault (Array Instruction)
  | [] => return instructions
  | (position, kind, label) :: others => do
    let target ← within (assembler.resolve label)
    let instructions ← put instructions position (kind.to target)
    patch assembler instructions others

def finish (assembler : Assembler) : Run AssemblyFault Body := do
  let instructions ← patch assembler (assembler.drafts.map placeholder)
    (fixups 0 assembler.drafts.toList)
  let handlers ← within (assembler.handlers.mapM assembler.resolveHandler)
  return {
    zeroesLocals := assembler.zeroesLocals
    locals := assembler.locals.toList
    instructions
    handlers }

/-- Patching what is left of the drafts gives the instructions they stand for. -/
theorem patch_within (assembler : Assembler) (finished : List Instruction) (drafts : List Draft) :
    patch assembler (finished ++ drafts.map placeholder).toArray (fixups finished.length drafts) =
      within (drafts.mapM assembler.resolveDraft >>= fun instructions =>
        .ok (finished ++ instructions).toArray) := by
  induction drafts generalizing finished with
  | nil => rfl
  | cons draft drafts ih =>
      rw [List.mapM_cons]
      cases draft with
      | plain instruction =>
          have others := ih (finished ++ [instruction])
          simp only [List.length_append, List.length_singleton, List.append_assoc,
            List.singleton_append] at others
          rw [fixups, List.map_cons, placeholder, others]
          rcases drafts.mapM assembler.resolveDraft with _ | instructions <;> rfl
      | branch kind label =>
          rw [fixups, patch, Assembler.resolveDraft]
          rcases assembler.resolve label with fault | target
          · rfl
          · have others := ih (finished ++ [kind.to target])
            simp only [List.length_append, List.length_singleton, List.append_assoc,
              List.singleton_append] at others
            rw [within_ok, ok_bind, put_of_lt (by simp), ok_bind]
            simp only [List.map_cons, List.setIfInBounds_toArray, List.set_append_right,
              Nat.le_refl, Nat.sub_self, List.set_cons_zero, others]
            rcases drafts.mapM assembler.resolveDraft with _ | instructions <;> rfl

/-- Finishing a body stays within it, whatever was assembled. -/
theorem finish_within (assembler : Assembler) : finish assembler = within assembler.finish := by
  have patches := patch_within assembler [] assembler.drafts.toList
  simp only [List.nil_append, List.length_nil] at patches
  have start : assembler.drafts.map placeholder =
      (assembler.drafts.toList.map placeholder).toArray := by
    rw [← Array.toList_map, Array.toArray_toList]
  unfold finish Assembler.finish
  rw [start, patches]
  rcases assembler.drafts.toList.mapM assembler.resolveDraft with _ | instructions
  · rfl
  · rw [ok_bind, within_ok, ok_bind, ok_bind]
    exact bind_within fun _ _ => rfl

/-! ### The bodies that the passes add -/

/-- A body that a pass puts together. -/
def emitted (assembled : Except AssemblyFault Assembler) : Run Fault Body :=
  (within assembled >>= finish).mapError (Halt.map fun fault => .abandoned fault.message)

def registerLines (slot : FieldRef) : Except AssemblyFault Assembler := do
  let assembler := { Assembler.empty with zeroesLocals := true }
  let (assembler, current) ← assembler.declareLocal .callback
  let (assembler, observed) ← assembler.declareLocal .callback
  let (assembler, combined) ← assembler.declareLocal .callback
  let (assembler, retry) := assembler.newLabel
  let assembler := assembler.emitAll [.loadField slot, .storeLocal current]
  let assembler ← assembler.mark retry
  let assembler := assembler.emitAll [.loadLocal current, .storeLocal observed,
    .loadLocal observed, .loadArgument 0, .combineCallbacks, .storeLocal combined,
    .loadFieldAddress slot, .loadLocal combined, .loadLocal observed, .compareExchange,
    .storeLocal current, .loadLocal current, .loadLocal observed]
  return (assembler.emitBranch .whenUnequal retry).emit .ret

def invokeLines (slot : FieldRef) : Except AssemblyFault Assembler := do
  let (assembler, present) := Assembler.empty.newLabel
  let assembler := assembler.emitAll [.loadField slot, .dup]
  let assembler := (assembler.emitBranch .whenTrue present).emitAll [.pop, .ret]
  let assembler ← assembler.mark present
  return assembler.emitAll [.invokeCallback, .ret]

def straightLines (instructions : List Instruction) : Except AssemblyFault Assembler :=
  .ok ((Assembler.empty.emitAll instructions).emit .ret)

theorem emitted_of_finish {assembled : Except AssemblyFault Assembler} {body : Body}
    (finishes : (assembled >>= Assembler.finish) = .ok body) : emitted assembled = .ok body := by
  rcases bind_eq_ok_iff.mp finishes with ⟨assembler, rfl, finished⟩
  rw [emitted, within_ok, ok_bind, finish_within, finished]
  rfl

theorem registerLines_emitted (slot : FieldRef) :
    emitted (registerLines slot) = .ok (Dispatcher.registerBody slot) := by
  apply emitted_of_finish
  simp [registerLines, Assembler.empty, Assembler.declareLocal, Assembler.newLabel,
    Assembler.mark, Assembler.emitAll, Assembler.emit, Assembler.emitBranch, Assembler.position,
    Assembler.finish, Assembler.resolveDraft, Assembler.resolve, lastLocalSlot, BranchKind.to,
    Except.map, Dispatcher.registerBody]

theorem invokeLines_emitted (slot : FieldRef) :
    emitted (invokeLines slot) = .ok (Dispatcher.invokeBody slot) := by
  apply emitted_of_finish
  simp [invokeLines, Assembler.empty, Assembler.newLabel, Assembler.mark, Assembler.emitAll,
    Assembler.emit, Assembler.emitBranch, Assembler.position, Assembler.finish,
    Assembler.resolveDraft, Assembler.resolve, BranchKind.to, Except.map, Dispatcher.invokeBody]

theorem emitAll_eq (assembler : Assembler) (instructions : List Instruction) :
    assembler.emitAll instructions =
      { assembler with drafts := assembler.drafts ++ (instructions.map Draft.plain).toArray } := by
  induction instructions generalizing assembler with
  | nil => simp [Assembler.emitAll]
  | cons instruction instructions ih =>
      have step : assembler.emitAll (instruction :: instructions) =
          (assembler.emit instruction).emitAll instructions := rfl
      rw [step, ih]
      simp [Assembler.emit]

theorem mapM_plain (assembler : Assembler) (instructions : List Instruction) :
    (instructions.map Draft.plain).mapM assembler.resolveDraft = .ok instructions := by
  induction instructions with
  | nil => rfl
  | cons instruction instructions ih =>
      rw [List.map_cons, List.mapM_cons, ih]
      rfl

theorem straightLines_emitted (instructions : List Instruction) :
    emitted (straightLines instructions) = .ok (Hook.straightLine instructions) := by
  apply emitted_of_finish
  have drafts : ((Assembler.empty.emitAll instructions).emit .ret).drafts.toList =
      (instructions ++ [Instruction.ret]).map Draft.plain := by
    simp [emitAll_eq, Assembler.emit, Assembler.empty]
  rw [straightLines, ok_bind, Assembler.finish, drafts, mapM_plain, emitAll_eq]
  rfl

end Rekindle.Indexing
