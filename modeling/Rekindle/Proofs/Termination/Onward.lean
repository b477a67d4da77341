import Rekindle.Proofs.Machine.Ahead
import Rekindle.Proofs.Machine.Balance
import Rekindle.Proofs.Machine.Requests

/-!
# Bodies without backward jumps

In a body whose branches lead on and whose handlers come after what they protect, a frame that goes
on is nearer to the end of its body than before: after an instruction, after what an instruction
called, and with a thrown value that it receives.
-/

namespace Rekindle

/-- A body in which every branch leads on and every handler comes after what it protects. -/
structure Body.Onward (body : Body) : Prop where
  branches : ∀ (index : Nat) (instruction : Instruction) (target : UInt32),
    body.instructions[index]? = some instruction → instruction.target? = some target →
      index < target.toNat
  handlers : ∀ handler ∈ body.handlers, handler.tryEnd.toNat ≤ handler.handlerStart.toNat

-- `Option.all` asks about the target alone: the quantifier would be decided over every `UInt32`.
instance (body : Body) : Decidable body.Onward :=
  decidable_of_iff
    ((∀ entry ∈ body.instructions.toList.zipIdx,
      (entry.1.target?.all fun target => entry.2 < target.toNat) = true) ∧
        ∀ handler ∈ body.handlers, handler.tryEnd.toNat ≤ handler.handlerStart.toNat) <| by
    simp only [Option.all_eq_true, decide_eq_true_eq]
    constructor
    · rintro ⟨branches, handlers⟩
      refine ⟨fun index instruction target found leads => ?_, handlers⟩
      refine branches (instruction, index) ?_ target leads
      rw [List.mem_zipIdx_iff_getElem?, Array.getElem?_toList]
      exact found
    · rintro ⟨branches, handlers⟩
      refine ⟨fun ⟨instruction, index⟩ listed target leads => ?_, handlers⟩
      rw [List.mem_zipIdx_iff_getElem?, Array.getElem?_toList] at listed
      exact branches index instruction target listed leads

/-- A module without backward jumps. -/
def Module.Onward (module : Module) : Prop :=
  ∀ routine ∈ module.routines, ∀ body ∈ routine.body, body.Onward

instance (module : Module) : Decidable module.Onward :=
  inferInstanceAs (Decidable (∀ routine ∈ module.routines, ∀ body ∈ routine.body, body.Onward))

end Rekindle

namespace Rekindle.Machine

open Fallible Validity

/-- A machine that has loaded only modules without backward jumps. -/
def Store.Onward (store : Store) : Prop :=
  ∀ module ∈ store.modules, module.Onward

instance (store : Store) : Decidable store.Onward :=
  inferInstanceAs (Decidable (∀ module ∈ store.modules, module.Onward))

namespace Frame

/-- How many instructions there are from the current one on. -/
def remaining (frame : Frame) : Nat := frame.body.size - frame.position

/-- A frame of a body without backward jumps, whose handlers protect what is in the body. -/
structure Onward (frame : Frame) : Prop where
  body : frame.body.Onward
  protects : ∀ handler ∈ frame.body.handlers, handler.tryEnd.toNat ≤ frame.body.size

/-- A frame at the same instruction as before. -/
structure Stands (frame after : Frame) : Prop where
  body_eq : after.body = frame.body
  position_eq : after.position = frame.position

/-- A frame that has gone on after its instruction, or where the instruction leads. -/
structure Proceeds (frame after : Frame) : Prop where
  body_eq : after.body = frame.body
  leads : after.position = frame.position + 1 ∨ ∃ instruction target,
    frame.instruction? = some instruction ∧ instruction.target? = some target ∧
      after.position = target.toNat

end Frame

/-- A computation that gives only results with a property, if any. -/
def Gives {α : Type} (computation : Except Trap α) (holds : α → Prop) : Prop :=
  ∀ value, computation = .ok value → holds value

namespace Gives

variable {α β : Type} {holds : α → Prop} {further : β → Prop}

theorem ok {value : α} (satisfies : holds value) : Gives (.ok value) holds := by
  rintro _ ⟨⟩
  exact satisfies

theorem error (trap : Trap) (holds : α → Prop) : Gives (.error trap) holds := nofun

theorem bind {first : Except Trap α} {next : α → Except Trap β} (gives : Gives first holds)
    (goesOn : ∀ value, holds value → Gives (next value) further) :
    Gives (first >>= next) further := by
  intro result succeeds
  rcases bind_eq_ok_iff.mp succeeds with ⟨value, computed, succeeds⟩
  exact goesOn value (gives value computed) result succeeds

/-- Where nothing is needed of the first result. -/
theorem after {first : Except Trap α} {next : α → Except Trap β}
    (goesOn : ∀ value, Gives (next value) further) : Gives (first >>= next) further :=
  bind (fun _ _ => trivial) fun value (_ : True) => goesOn value

end Gives

namespace Frame

variable {frame after last : Frame} {store : Store} {instruction : Instruction}

/-! ### Moving -/

theorem Stands.refl (frame : Frame) : frame.Stands frame := ⟨rfl, rfl⟩

theorem Stands.trans (first : frame.Stands after) (second : after.Stands last) :
    frame.Stands last :=
  ⟨second.body_eq.trans first.body_eq, second.position_eq.trans first.position_eq⟩

theorem Stands.remaining_eq (stands : frame.Stands after) : after.remaining = frame.remaining := by
  simp only [remaining, stands.body_eq, stands.position_eq]

theorem Stands.instruction?_eq (stands : frame.Stands after) :
    after.instruction? = frame.instruction? := by
  simp only [instruction?, stands.body_eq, stands.position_eq]

theorem Onward.of_body (onward : frame.Onward) (same : after.body = frame.body) :
    after.Onward := by
  refine ⟨same ▸ onward.body, ?_⟩
  rw [same]
  exact onward.protects

/-- Without backward jumps a frame that goes on comes nearer to the end of its body. -/
theorem Proceeds.remaining_lt (proceeds : frame.Proceeds after) (onward : frame.Onward)
    (current : frame.instruction?.isSome = true) : after.remaining < frame.remaining := by
  have inside : frame.position < frame.body.size := by
    rcases Option.isSome_iff_exists.mp current with ⟨instruction, found⟩
    exact (Array.getElem?_eq_some_iff.mp found).1
  have later : frame.position < after.position := by
    rcases proceeds.leads with next | ⟨instruction, target, found, leads, there⟩
    · omega
    · rw [there]
      exact onward.body.branches _ _ _ found leads
  simp only [remaining, proceeds.body_eq]
  omega

theorem Stands.advance (stands : frame.Stands after) : frame.Proceeds after.advance :=
  ⟨stands.body_eq, .inl (congrArg (· + 1) stands.position_eq)⟩

theorem Stands.jump (stands : frame.Stands after) {target : UInt32}
    (current : frame.instruction? = some instruction)
    (leads : instruction.target? = some target) : frame.Proceeds (after.jump target) :=
  ⟨stands.body_eq, .inr ⟨instruction, target, current, leads, rfl⟩⟩

theorem Stands.choose (stands : frame.Stands after) {target : UInt32}
    (current : frame.instruction? = some instruction)
    (leads : instruction.target? = some target) (condition : Bool) :
    frame.Proceeds (after.choose condition target) := by
  cases condition with
  | false => exact stands.advance
  | true => exact stands.jump current leads

/-! ### Operands -/

theorem push_stands (frame : Frame) (value : Value) : Gives (frame.push value) frame.Stands :=
  .after fun _ => .ok ⟨rfl, rfl⟩

theorem pop_stands (frame : Frame) : Gives frame.pop fun popped => frame.Stands popped.2 :=
  .after fun _ => .ok ⟨rfl, rfl⟩

theorem popMany_stands (frame : Frame) (count : Nat) :
    Gives (frame.popMany count) fun popped => frame.Stands popped.2 :=
  .after fun _ => .ok ⟨rfl, rfl⟩

theorem popTwo_stands (frame : Frame) :
    Gives frame.popTwo fun popped => frame.Stands popped.2.2 := by
  refine (pop_stands frame).bind fun second once => ?_
  refine (pop_stands second.2).bind fun first twice => ?_
  exact .ok (once.trans twice)

theorem popAddress_stands (frame : Frame) (operation : String) :
    Gives (frame.popAddress operation) fun popped => frame.Stands popped.2 := by
  refine (pop_stands frame).bind fun ⟨value, rest⟩ stands => ?_
  cases value with
  | address place => exact .ok stands
  | _ => exact .error _ _

theorem Stands.yield (stands : frame.Stands after) (value : Value) :
    Gives (after.yield value) frame.Proceeds := by
  refine (push_stands after value).bind fun pushed further => ?_
  exact .ok (stands.trans further).advance

theorem calculate_proceeds (frame : Frame) (operation : Value → Value → Except Trap Value) :
    Gives (frame.calculate operation) frame.Proceeds := by
  refine (popTwo_stands frame).bind fun popped stands => ?_
  exact .after fun result => stands.yield result

/-! ### Instructions -/

/-- A frame that goes on leaves a store that was made before. -/
theorem onto_proceeds {next : Except Trap Frame} (made : Store)
    (proceeds : Gives next frame.Proceeds) :
    Gives (do return (made, ← next)) fun result => frame.Proceeds result.2 :=
  proceeds.bind fun _ further => .ok further

theorem newCallback_proceeds (frame : Frame) (store : Store) :
    Gives (frame.newCallback store) fun result => frame.Proceeds result.2 := by
  refine (popTwo_stands frame).bind fun ⟨target, pointer, rest⟩ stands => ?_
  dsimp only
  split
  · exact onto_proceeds _ (stands.yield _)
  · exact .error _ _
  · exact .error _ _

theorem combineCallbacks_proceeds (frame : Frame) (store : Store) :
    Gives (frame.combineCallbacks store) fun result => frame.Proceeds result.2 := by
  refine (popTwo_stands frame).bind fun ⟨first, second, rest⟩ stands => ?_
  dsimp only
  split
  · exact onto_proceeds _ (stands.yield _)
  · exact .error _ _

theorem compareExchange_proceeds (frame : Frame) (store : Store) :
    Gives (frame.compareExchange store) fun result => frame.Proceeds result.2 := by
  refine (popTwo_stands frame).bind fun ⟨value, expected, rest⟩ stands => ?_
  refine (popAddress_stands rest _).bind fun ⟨place, rest⟩ further => ?_
  dsimp only
  split
  · exact .error _ _
  · exact onto_proceeds _ ((stands.trans further).yield _)

/-- What is over at once takes a frame on. -/
theorem execute_proceeds (current : frame.instruction? = some instruction) :
    Gives (frame.execute store instruction) fun result => frame.Proceeds result.2 := by
  have here := Stands.refl frame
  cases instruction with
  | pop => exact (pop_stands frame).bind fun _ stands => .ok stands.advance
  | dup =>
      refine (pop_stands frame).bind fun popped stands => ?_
      refine (push_stands popped.2 _).bind fun pushed further => ?_
      exact onto_proceeds store ((stands.trans further).yield _)
  | loadNull | loadInt32 | loadInt64 | loadFloat64 | loadString | loadRoutine =>
      exact onto_proceeds store (here.yield _)
  | loadLocal => exact .after fun _ => onto_proceeds store (here.yield _)
  | storeLocal =>
      refine (pop_stands frame).bind fun popped stands => ?_
      exact .after fun _ => .ok ⟨stands.body_eq, stands.advance.leads⟩
  | loadArgument slot =>
      simp only [execute]
      split
      · exact onto_proceeds store (here.yield _)
      · exact .error _ _
  | storeDefault type =>
      refine (popAddress_stands frame _).bind fun popped stands => ?_
      exact .after fun _ => .ok stands.advance
  | add | subtract | multiply => exact onto_proceeds store (calculate_proceeds frame _)
  | compareEqual =>
      exact (popTwo_stands frame).bind fun _ stands => onto_proceeds store (stands.yield _)
  | branch => exact .ok (here.jump current rfl)
  | branchTrue | branchFalse =>
      exact (pop_stands frame).bind fun _ stands => .ok (stands.choose current rfl _)
  | branchUnequal =>
      exact (popTwo_stands frame).bind fun _ stands => .ok (stands.choose current rfl _)
  | newCallback => exact newCallback_proceeds frame store
  | combineCallbacks => exact combineCallbacks_proceeds frame store
  | compareExchange => exact compareExchange_proceeds frame store
  | throw => exact .after fun _ => .error _ _
  | leave =>
      simp only [execute]
      split
      · exact .error _ _
      · have emptied : frame.Stands { frame with operands := .empty } := ⟨rfl, rfl⟩
        exact .ok (emptied.jump current rfl)
  | endFinally => exact .error _ _
  | nop | ret | loadField | storeField | loadFieldAddress | call | invokeCallback =>
      exact .ok here.advance

/-! ### Other frames that go on -/

/-- A frame whose instruction called something goes on after it. -/
theorem resume_proceeds (frame : Frame) (store : Store) (result : Option Value) :
    Gives (frame.resume store result) frame.Proceeds := by
  have here := Stands.refl frame
  unfold resume
  split
  · split
    · split
      · exact here.yield _
      · exact .error _ _
    · exact .ok here.advance
  · exact .ok here.advance

/-- A thrown value is received after what the handler protects. -/
theorem Onward.receives {trap : Trap} (onward : frame.Onward)
    (receives : frame.receive trap = .ok after) : after.remaining < frame.remaining := by
  rcases receive_ok receives with ⟨value, handler, _, covering, _, rfl⟩
  have listed := List.mem_of_find?_eq_some covering
  have covers := List.find?_some covering
  have start := onward.body.handlers handler listed
  have protects := onward.protects handler listed
  simp only [Handler.covers, Bool.and_eq_true, decide_eq_true_eq] at covers
  simp only [remaining, jump]
  omega

/-- A frame that is entered executes a body of a loaded module that passed the check. -/
theorem onward_of_enter {limit depth : Nat} {target : BoundRoutine} {parameters : List Value}
    (passed : AllPassed store.modules) (onward : store.Onward)
    (entered : enter limit depth store target parameters = .ok frame) : frame.Onward := by
  rcases enter_ok entered with ⟨module, routine, body, found, declared, hasBody, _, rfl⟩
  have loaded := Store.module_ok found
  have valid := checkModule_eq_ok_iff.mp (passed _ _ loaded)
  rcases valid.routines _ _ declared with ⟨owner, _, _, _, bodies⟩
  refine ⟨?_, ?_⟩
  · exact onward module (Array.mem_of_getElem? loaded) routine (Array.mem_of_getElem? declared) body
      hasBody
  · intro handler listed
    have fits := (bodies body hasBody).handlers handler listed
    simp only [handlerFits, Bool.and_eq_true, decide_eq_true_eq] at fits
    exact fits.1.1.2

end Frame

end Rekindle.Machine
