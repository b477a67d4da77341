import Mathlib.Logic.Equiv.Basic
import Rekindle.Proofs.Machine.Scope

/-!
# Relocation

A machine that holds one module alone knows it by the first handle, wherever a machine with more
modules has it. What is taken from the one machine to the other has these two handles exchanged.
What a frame of the module does with its own operands and locals, it does alike on both machines.
-/

namespace Rekindle.Machine

/-- A handle where the module `home` is alone: that of the module and the first one change
places. -/
def ModuleHandle.relocate (handle home : ModuleHandle) : ModuleHandle :=
  Equiv.swap home ⟨0⟩ handle

/-- The routines and the places of one module. -/
def ModuleHandle.reach (home : ModuleHandle) : Scope where
  routines target := target.module = home
  places place := place.instantiation.module = home

section Definitions

variable (home : ModuleHandle)

def BoundRoutine.relocate (target : BoundRoutine) : BoundRoutine :=
  { target with module := target.module.relocate home }

def Instantiation.relocate (instantiation : Instantiation) : Instantiation :=
  { instantiation with module := instantiation.module.relocate home }

def Address.relocate (place : Address) : Address :=
  { place with instantiation := place.instantiation.relocate home }

def Callback.relocate (object : Callback) : Callback :=
  { object with targets := object.targets.map (BoundRoutine.relocate home) }

def Value.relocate : Value → Value
  | .pointer target => .pointer (target.relocate home)
  | .callback object => .callback (object.relocate home)
  | .address place => .address (place.relocate home)
  | value => value

def Trap.relocate : Trap → Trap
  | .thrown value => .thrown (value.relocate home)
  | .unknownModule handle => .unknownModule (handle.relocate home)
  | .typeInitializationFailed type cause => .typeInitializationFailed type cause.relocate
  | trap => trap

def Frame.relocate (frame : Frame) : Frame :=
  { frame with
    module := frame.module.relocate home
    parameters := frame.parameters.map (Value.relocate home)
    locals := frame.locals.map (Value.relocate home)
    operands := ⟨frame.operands.values.map (Value.relocate home)⟩ }

/-- A frame of a module that leads to nothing of another. -/
structure Frame.Inside (frame : Frame) : Prop where
  module_eq : frame.module = home
  within : frame.Within home.reach

/-- A computation and the same one where the module is alone. Both fail alike, or succeed with what
is inside the module and the same up to relocation. -/
inductive Relocates {α : Type} (change : α → α) (inside : α → Prop) :
    Except Trap α → Except Trap α → Prop where
  | ok {value : α} (known : inside value) :
      Relocates change inside (.ok value) (.ok (change value))
  | error {trap : Trap} (known : trap.Within home.reach) :
      Relocates change inside (.error trap) (.error (trap.relocate home))

end Definitions

variable {home : ModuleHandle}

/-! ### Handles -/

@[simp]
theorem ModuleHandle.relocate_self (home : ModuleHandle) : home.relocate home = ⟨0⟩ :=
  Equiv.swap_apply_left home ⟨0⟩

@[simp]
theorem ModuleHandle.relocate_inj {handle other : ModuleHandle} :
    handle.relocate home = other.relocate home ↔ handle = other :=
  (Equiv.swap home ⟨0⟩).injective.eq_iff

@[simp]
theorem BoundRoutine.relocate_inj {target other : BoundRoutine} :
    target.relocate home = other.relocate home ↔ target = other := by
  cases target
  cases other
  simp [BoundRoutine.relocate]

@[simp]
theorem Instantiation.relocate_inj {instantiation other : Instantiation} :
    instantiation.relocate home = other.relocate home ↔ instantiation = other := by
  cases instantiation
  cases other
  simp [Instantiation.relocate]

@[simp]
theorem Address.relocate_inj {place other : Address} :
    place.relocate home = other.relocate home ↔ place = other := by
  cases place
  cases other
  simp [Address.relocate]

/-! ### Values -/

namespace Value

@[simp]
theorem relocate_default (type : ValueType) :
    (Value.default type).relocate home = Value.default type := by
  cases type <;> rfl

@[simp]
theorem isTruthy_relocate (value : Value) : (value.relocate home).isTruthy = value.isTruthy := by
  cases value <;> rfl

@[simp]
theorem typeName_relocate (value : Value) : (value.relocate home).typeName = value.typeName := by
  cases value <;> rfl

@[simp]
theorem same_relocate (first second : Value) :
    (first.relocate home).same (second.relocate home) = first.same second := by
  cases first <;> cases second <;> simp [relocate, same, Callback.relocate]

theorem combine_relocate (fresh : Nat) (first second : Value) :
    Value.combine fresh (first.relocate home) (second.relocate home) =
      (Value.combine fresh first second).map (Value.relocate home) := by
  cases first <;> cases second <;> simp [relocate, combine, Callback.relocate]

end Value

@[simp]
theorem Trap.relocate_mismatch (operation : String) (found : Value) :
    (Trap.mismatch operation found).relocate home = .mismatch operation (found.relocate home) := by
  rw [mismatch, mismatch, Value.typeName_relocate]
  rfl

/-! ### Computations -/

namespace Relocates

variable {α β : Type} {change : α → α} {inside : α → Prop} {further : β → β} {beyond : β → Prop}
  {first other : Except Trap α}

theorem bind {next following : α → Except Trap β}
    (relocates : Relocates home change inside first other)
    (goesOn : ∀ value, inside value →
      Relocates home further beyond (next value) (following (change value))) :
    Relocates home further beyond (first >>= next) (other >>= following) := by
  cases relocates with
  | ok known => exact goesOn _ known
  | error known => exact .error known

theorem ok_of_eq {value counterpart : α} (known : inside value)
    (same : change value = counterpart) :
    Relocates home change inside (.ok value) (.ok counterpart) := by
  subst same
  exact .ok known

/-- What is known of every result of a computation is known where the module is alone. -/
theorem of_ok (relocates : Relocates home change inside first other) {known : α → Prop}
    (gives : ∀ value, first = .ok value → inside value → known value) :
    Relocates home change known first other := by
  cases relocates with
  | ok within => exact .ok (gives _ rfl within)
  | error within => exact .error within

/-- What is found wrong with a value is the same where the module is alone. -/
theorem mismatch (operation : String) (found : Value) :
    Relocates home change inside (.error (.mismatch operation found))
      (.error (.mismatch operation (found.relocate home))) := by
  rw [← Trap.relocate_mismatch]
  exact .error trivial

theorem outcome (relocates : Relocates home change inside first other) :
    (∃ value, first = .ok value ∧ other = .ok (change value) ∧ inside value) ∨
      ∃ trap, first = .error trap ∧ other = .error (trap.relocate home) ∧
        trap.Within home.reach := by
  cases relocates with
  | ok known => exact .inl ⟨_, rfl, rfl, known⟩
  | error known => exact .inr ⟨_, rfl, rfl, known⟩

end Relocates

/-! ### Frames -/

namespace Frame

variable {frame : Frame} {value : Value}

theorem Inside.withOperands (frames : frame.Inside home) {values : List Value}
    (known : ∀ value ∈ values, value.Within home.reach) :
    Inside home { frame with operands := ⟨values⟩ } :=
  ⟨frames.module_eq, frames.within.parameters, frames.within.locals, known⟩

theorem Inside.advance (frames : frame.Inside home) : frame.advance.Inside home :=
  ⟨frames.module_eq, frames.within.parameters, frames.within.locals, frames.within.operands⟩

theorem Inside.jump (frames : frame.Inside home) (target : UInt32) :
    (frame.jump target).Inside home :=
  ⟨frames.module_eq, frames.within.parameters, frames.within.locals, frames.within.operands⟩

theorem Inside.choose (frames : frame.Inside home) (condition : Bool) (target : UInt32) :
    (frame.choose condition target).Inside home := by
  cases condition with
  | false => exact frames.advance
  | true => exact frames.jump target

theorem relocate_choose (frame : Frame) (condition : Bool) (target : UInt32) :
    (frame.relocate home).choose condition target =
      (frame.choose condition target).relocate home := by
  cases condition <;> rfl

/-- What is taken from a frame, and the frame that is left. -/
abbrev taken {α : Type} (change : α → α) (home : ModuleHandle) : α × Frame → α × Frame :=
  Prod.map change (Frame.relocate home)

theorem Inside.push (frames : frame.Inside home) (known : value.Within home.reach) :
    Relocates home (Frame.relocate home) (Frame.Inside home) (frame.push value)
      ((frame.relocate home).push (value.relocate home)) := by
  have height_eq : (frame.relocate home).operands.height = frame.operands.height :=
    List.length_map _
  simp only [Frame.push, Operands.push, height_eq]
  split
  · exact .ok (frames.withOperands (List.forall_mem_cons.mpr ⟨known, frames.within.operands⟩))
  · exact .error trivial

theorem Inside.yield (frames : frame.Inside home) (known : value.Within home.reach) :
    Relocates home (Frame.relocate home) (Frame.Inside home) (frame.yield value)
      ((frame.relocate home).yield (value.relocate home)) := by
  refine (frames.push known).bind fun pushed frames => ?_
  exact .ok frames.advance

theorem Inside.pop (frames : frame.Inside home) :
    Relocates home (taken (Value.relocate home) home)
      (fun popped => popped.1.Within home.reach ∧ popped.2.Inside home)
      frame.pop (frame.relocate home).pop := by
  have operands := frames.within.operands
  rcases values : frame.operands.values with _ | ⟨value, others⟩
  · simp only [Frame.pop, Operands.pop, relocate, values, List.map_nil]
    exact .error trivial
  · rw [values, List.forall_mem_cons] at operands
    simp only [Frame.pop, Operands.pop, relocate, values, List.map_cons]
    exact .ok ⟨operands.1, frames.withOperands operands.2⟩

theorem Inside.popMany (frames : frame.Inside home) (count : Nat) :
    Relocates home (taken (List.map (Value.relocate home)) home)
      (fun popped => (∀ value ∈ popped.1, value.Within home.reach) ∧ popped.2.Inside home)
      (frame.popMany count) ((frame.relocate home).popMany count) := by
  have height_eq : (frame.relocate home).operands.height = frame.operands.height :=
    List.length_map _
  simp only [Frame.popMany, Operands.popMany, height_eq]
  split
  · exact .error trivial
  · simp only [relocate, ← List.map_take, ← List.map_drop, ← List.map_reverse]
    refine .ok ⟨?_, frames.withOperands ?_⟩
    · intro value listed
      exact frames.within.operands value (List.mem_of_mem_take (List.mem_reverse.mp listed))
    · intro value listed
      exact frames.within.operands value (List.mem_of_mem_drop listed)

theorem Inside.popTwo (frames : frame.Inside home) :
    Relocates home (Prod.map (Value.relocate home) (taken (Value.relocate home) home))
      (fun popped => popped.1.Within home.reach ∧ popped.2.1.Within home.reach ∧
        popped.2.2.Inside home)
      frame.popTwo (frame.relocate home).popTwo := by
  refine frames.pop.bind fun second popped => ?_
  refine popped.2.pop.bind fun first poppedToo => ?_
  exact .ok ⟨poppedToo.1, popped.1, poppedToo.2⟩

theorem Inside.popAddress (frames : frame.Inside home) (operation : String) :
    Relocates home (taken (Address.relocate home) home)
      (fun popped => popped.1.instantiation.module = home ∧ popped.2.Inside home)
      (frame.popAddress operation) ((frame.relocate home).popAddress operation) := by
  refine frames.pop.bind fun popped known => ?_
  rcases popped with ⟨value, rest⟩
  cases value with
  | address place => exact .ok known
  | _ => exact .mismatch operation _

theorem Inside.localValue (frames : frame.Inside home) (slot : UInt16) :
    Relocates home (Value.relocate home) (Value.Within home.reach) (frame.localValue slot)
      ((frame.relocate home).localValue slot) := by
  simp only [Frame.localValue, relocate, Array.getElem?_map]
  rcases found : frame.locals[slot.toNat]? with _ | value
  · exact .error trivial
  · exact .ok (frames.within.locals value (Array.mem_toList_iff.mpr (Array.mem_of_getElem? found)))

theorem Inside.setLocal (frames : frame.Inside home) (known : value.Within home.reach)
    (slot : Nat) : Inside home { frame with locals := frame.locals.setIfInBounds slot value } := by
  refine ⟨frames.module_eq, frames.within.parameters, ?_, frames.within.operands⟩
  intro other listed
  simp only [Array.toList_setIfInBounds] at listed
  rcases List.mem_or_eq_of_mem_set listed with before | rfl
  · exact frames.within.locals other before
  · exact known

theorem relocate_setLocal (home : ModuleHandle) (frame : Frame) (slot : Nat) (value : Value) :
    relocate home { frame with locals := frame.locals.setIfInBounds slot value } =
      { frame.relocate home with
        locals := (frame.relocate home).locals.setIfInBounds slot (value.relocate home) } := by
  simp only [relocate, Array.map_setIfInBounds]

theorem relocates_arithmetic (operation : String) (int32 : Int32 → Int32 → Int32)
    (int64 : Int64 → Int64 → Int64) (float64 : Binary64 → Binary64 → Binary64)
    (first second : Value) :
    Relocates home (Value.relocate home) (Value.Within home.reach)
      (arithmetic operation int32 int64 float64 first second)
      (arithmetic operation int32 int64 float64 (first.relocate home) (second.relocate home)) := by
  cases first with
  | int32 =>
      cases second with
      | int32 => exact .ok trivial
      | _ => exact .mismatch operation _
  | int64 =>
      cases second with
      | int64 => exact .ok trivial
      | _ => exact .mismatch operation _
  | float64 =>
      cases second with
      | float64 => exact .ok trivial
      | _ => exact .mismatch operation _
  | _ => exact .mismatch operation _

theorem Inside.calculate (frames : frame.Inside home) {operation : Value → Value → Except Trap Value}
    (computes : ∀ first second,
      Relocates home (Value.relocate home) (Value.Within home.reach) (operation first second)
        (operation (first.relocate home) (second.relocate home))) :
    Relocates home (Frame.relocate home) (Frame.Inside home) (frame.calculate operation)
      ((frame.relocate home).calculate operation) := by
  refine frames.popTwo.bind fun popped known => ?_
  refine (computes popped.1 popped.2.1).bind fun value made => ?_
  exact known.2.2.yield made

end Frame

end Rekindle.Machine
