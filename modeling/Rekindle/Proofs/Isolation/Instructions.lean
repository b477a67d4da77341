import Rekindle.Machine.Step
import Rekindle.Proofs.Isolation.Alone

/-!
# Instructions of a module alone

Every instruction of a frame comes out the same where the frame's module is alone. It reaches the
storage of no other module, and what the frame is left with leads to none.
-/

namespace Rekindle.Machine

open Fallible

variable {home : ModuleHandle} {store : Store} {frame : Frame} {value : Value}

/-- What a frame does to a store, where its module is alone. -/
abbrev Frame.alone (home : ModuleHandle) : Store × Frame → Store × Frame :=
  Prod.map (Store.alone home) (Frame.relocate home)

/-- What a frame of a module may do: it spares the other modules and stays inside its own. -/
def Frame.Minds (home : ModuleHandle) (store : Store) (result : Store × Frame) : Prop :=
  store.Spares home result.1 ∧ result.2.Inside home

namespace Frame

/-! ### References -/

/-- The places that a frame names are in its module. -/
theorem Inside.address (frames : frame.Inside home) (store : Store) (reference : FieldRef) :
    Relocates home (Address.relocate home) (fun place => place.instantiation.module = home)
      (frame.address store reference)
      ((frame.relocate home).address (store.alone home) reference) := by
  have module_eq : (frame.relocate home).module = home.relocate home :=
    congrArg (ModuleHandle.relocate · home) frames.module_eq
  simp only [Frame.address, frames.module_eq, module_eq]
  refine (Store.relocates_module store home).bind fun module _ => ?_
  simp only [id]
  rcases found : module.field? reference.field with _ | field
  · exact .error trivial
  · simp only [Store.slotOf, found]
    cases module.type? field.owner with
    | none => exact .ok rfl
    | some type => exact .ok rfl

theorem Inside.calleeReturns (frames : frame.Inside home) (store : Store) (reference : RoutineRef) :
    (frame.relocate home).calleeReturns (store.alone home) reference =
      frame.calleeReturns store reference := by
  have module_eq : (frame.relocate home).module = home.relocate home :=
    congrArg (ModuleHandle.relocate · home) frames.module_eq
  rw [Frame.calleeReturns, Frame.calleeReturns, module_eq, Store.modules_alone, frames.module_eq]

/-! ### Instructions whose effect is over at once -/

/-- A frame that goes on has changed nothing else. -/
theorem goes_on_alone {next other : Except Trap Frame} {after : Store}
    (spares : store.Spares home after)
    (relocates : Relocates home (Frame.relocate home) (Frame.Inside home) next other) :
    Relocates home (alone home) (Minds home store) (do return (after, ← next))
      (do return (after.alone home, ← other)) := by
  refine relocates.bind fun frame frames => ?_
  exact .ok ⟨spares, frames⟩

theorem Inside.newCallback (frames : frame.Inside home) (encloses : store.Encloses home) :
    Relocates home (alone home) (Minds home store) (frame.newCallback store)
      ((frame.relocate home).newCallback (store.alone home)) := by
  refine frames.popTwo.bind fun popped known => ?_
  rcases popped with ⟨target, pointer, rest⟩
  rcases known with ⟨_, leads, frames⟩
  cases target with
  | null =>
      cases pointer with
      | pointer routine =>
          have made : ((store.newCallback [routine]).2).Within home.reach := by
            intro target listed
            rw [List.mem_singleton.mp listed]
            exact leads
          exact goes_on_alone encloses.issued (frames.yield made)
      | _ => exact .mismatch _ _
  | _ => exact .mismatch _ _

theorem relocate_combineOffender (first second : Value) :
    combineOffender (first.relocate home) (second.relocate home) =
      (combineOffender first second).relocate home := by
  cases first <;> rfl

theorem Inside.combineCallbacks (frames : frame.Inside home) (encloses : store.Encloses home) :
    Relocates home (alone home) (Minds home store) (frame.combineCallbacks store)
      ((frame.relocate home).combineCallbacks (store.alone home)) := by
  refine frames.popTwo.bind fun popped known => ?_
  rcases popped with ⟨first, second, rest⟩
  rcases known with ⟨firstWithin, secondWithin, frames⟩
  have next_eq : (store.alone home).nextCallback = store.nextCallback := rfl
  simp only [Prod.map, Store.combine, next_eq, Value.combine_relocate, relocate_combineOffender]
  rcases combined : Value.combine store.nextCallback first second with _ | value
  · exact .mismatch _ _
  · have within := Value.combine_within firstWithin secondWithin combined
    exact goes_on_alone encloses.issued (frames.yield within)

theorem Inside.compareExchange (frames : frame.Inside home) (encloses : store.Encloses home) :
    Relocates home (alone home) (Minds home store) (frame.compareExchange store)
      ((frame.relocate home).compareExchange (store.alone home)) := by
  refine frames.popTwo.bind fun popped known => ?_
  rcases popped with ⟨value, expected, rest⟩
  rcases known with ⟨valueWithin, _, frames⟩
  refine (frames.popAddress "cmpxchg").bind fun placed known => ?_
  rcases placed with ⟨place, rest⟩
  rcases known with ⟨inside, frames⟩
  simp only [Prod.map, Store.slot?_alone store inside]
  rcases found : store.slot? place with _ | held
  · exact .error trivial
  · have heldWithin := encloses place held inside found
    simp only [Option.map_some, Value.same_relocate]
    split
    · rw [← Store.alone_setSlot store inside]
      exact goes_on_alone (encloses.setSlot inside valueWithin) (frames.yield heldWithin)
    · exact goes_on_alone encloses.spares (frames.yield heldWithin)

/-- Every instruction whose effect is over at once. -/
theorem Inside.execute (frames : frame.Inside home) (encloses : store.Encloses home)
    (instruction : Instruction) :
    Relocates home (alone home) (Minds home store) (frame.execute store instruction)
      ((frame.relocate home).execute (store.alone home) instruction) := by
  have spares := encloses.spares
  cases instruction with
  | pop =>
      refine frames.pop.bind fun popped known => ?_
      exact .ok ⟨spares, known.2.advance⟩
  | dup =>
      refine frames.pop.bind fun popped known => ?_
      refine (known.2.push known.1).bind fun pushed frames => ?_
      exact goes_on_alone spares (frames.yield known.1)
  | loadNull | loadInt32 | loadInt64 | loadFloat64 | loadString =>
      exact goes_on_alone spares (frames.yield trivial)
  | loadLocal slot =>
      refine (frames.localValue slot).bind fun value known => ?_
      exact goes_on_alone spares (frames.yield known)
  | storeLocal slot =>
      refine frames.pop.bind fun popped known => ?_
      refine (known.2.localValue slot).bind fun _ _ => ?_
      have locals_eq := relocate_setLocal home popped.2 slot.toNat popped.1
      refine .ok_of_eq ⟨spares, (known.2.setLocal known.1 slot.toNat).advance⟩ ?_
      exact congrArg (fun frame => (_, frame.advance)) locals_eq
  | loadArgument slot =>
      simp only [Frame.execute, relocate, Array.getElem?_map]
      rcases found : frame.parameters[slot.toNat]? with _ | value
      · exact .error trivial
      · have known := frames.within.parameters value
          (Array.mem_toList_iff.mpr (Array.mem_of_getElem? found))
        exact goes_on_alone spares (frames.yield known)
  | storeDefault type =>
      refine (frames.popAddress "initobj").bind fun placed known => ?_
      rcases placed with ⟨place, rest⟩
      have written := Store.relocates_write encloses known.1
        (Value.default_within (type.substitute rest.arguments))
      rw [Value.relocate_default] at written
      refine written.bind fun after spares => ?_
      exact .ok ⟨spares, known.2.advance⟩
  | add | subtract | multiply =>
      exact goes_on_alone spares (frames.calculate (relocates_arithmetic _ _ _ _))
  | compareEqual =>
      refine frames.popTwo.bind fun popped known => ?_
      simp only [Prod.map, taken, Value.same_relocate]
      exact goes_on_alone spares (known.2.2.yield trivial)
  | branch target => exact .ok ⟨spares, frames.jump target⟩
  | branchTrue target | branchFalse target =>
      refine frames.pop.bind fun popped known => ?_
      simp only [Prod.map, Value.isTruthy_relocate, relocate_choose]
      exact .ok ⟨spares, known.2.choose _ target⟩
  | branchUnequal target =>
      refine frames.popTwo.bind fun popped known => ?_
      simp only [Prod.map, taken, Value.same_relocate, relocate_choose]
      exact .ok ⟨spares, known.2.2.choose _ target⟩
  | loadRoutine reference =>
      have known : (Value.pointer (frame.bound reference)).Within home.reach := frames.module_eq
      exact goes_on_alone spares (frames.yield known)
  | newCallback => exact frames.newCallback encloses
  | combineCallbacks => exact frames.combineCallbacks encloses
  | compareExchange => exact frames.compareExchange encloses
  | throw =>
      refine frames.pop.bind fun popped known => ?_
      exact .error known.1
  | leave target =>
      have finalized_eq : (frame.relocate home).isFinalized = frame.isFinalized := rfl
      simp only [Frame.execute, finalized_eq]
      split
      · exact .error trivial
      · exact .ok ⟨spares, (frames.withOperands (List.forall_mem_nil _)).jump target⟩
  | endFinally => exact .error trivial
  | nop | ret | loadField | storeField | loadFieldAddress | call | invokeCallback =>
      exact .ok ⟨spares, frames.advance⟩

/-! ### Calls and traps -/

/-- A frame receives the same traps where its module is alone. -/
theorem Inside.receive (frames : frame.Inside home) {trap : Trap} (known : trap.Within home.reach) :
    Relocates home (Frame.relocate home) (Frame.Inside home) (frame.receive trap)
      ((frame.relocate home).receive (trap.relocate home)) := by
  cases trap with
  | thrown value =>
      have handler_eq : (frame.relocate home).body.handlers.find?
          (·.covers (frame.relocate home).position) =
          frame.body.handlers.find? (·.covers frame.position) := rfl
      simp only [Frame.receive, Trap.relocate, handler_eq]
      split
      · split
        · refine .ok ((frames.withOperands ?_).jump _)
          intro other listed
          rw [List.mem_singleton.mp listed]
          exact known
        · exact .error trivial
      · exact .error known
  | _ => exact .error trivial

/-- A frame goes on after a call with what it is handed. -/
theorem Inside.resume (frames : frame.Inside home) (store : Store) {result : Option Value}
    (known : ∀ value ∈ result, value.Within home.reach) :
    Relocates home (Frame.relocate home) (Frame.Inside home) (frame.resume store result)
      ((frame.relocate home).resume (store.alone home) (result.map (Value.relocate home))) := by
  have instruction_eq : (frame.relocate home).instruction? = frame.instruction? := rfl
  simp only [Frame.resume, instruction_eq, frames.calleeReturns]
  split
  · split
    · cases result with
      | none => exact .error trivial
      | some value => exact frames.yield (known value rfl)
    · exact .ok frames.advance
  · exact .ok frames.advance

end Frame

theorem Frame.Inside.resultOf (frames : frame.Inside home) :
    Relocates home (Option.map (Value.relocate home))
      (fun result => ∀ value ∈ result, value.Within home.reach)
      (resultOf frame) (resultOf (frame.relocate home)) := by
  have returns_eq : (frame.relocate home).returns = frame.returns := rfl
  simp only [Machine.resultOf, returns_eq]
  split
  · rcases frames.pop.outcome with ⟨popped, one, other, known⟩ | ⟨trap, one, other, known⟩
    · rw [one, other]
      refine .ok ?_
      rintro value ⟨⟩
      exact known.1
    · rw [one, other]
      exact .error known
  · refine .ok ?_
    rintro value ⟨⟩

theorem Frame.Inside.prepareCall (frames : frame.Inside home) (store : Store)
    (reference : RoutineRef) :
    Relocates home (Frame.taken (List.map (Value.relocate home)) home)
      (fun prepared => (∀ value ∈ prepared.1, value.Within home.reach) ∧ prepared.2.Inside home)
      (prepareCall store frame reference)
      (prepareCall (store.alone home) (frame.relocate home) reference) := by
  have module_eq : (frame.relocate home).module = home.relocate home :=
    congrArg (ModuleHandle.relocate · home) frames.module_eq
  simp only [Machine.prepareCall, frames.module_eq, module_eq]
  refine (Store.relocates_module store home).bind fun module _ => ?_
  simp only [id]
  rcases module.routine? reference.routine with _ | callee
  · exact .error trivial
  · exact frames.popMany _

theorem Frame.Inside.prepareInvoke (frames : frame.Inside home) :
    Relocates home (Frame.taken (List.map (BoundRoutine.relocate home)) home)
      (fun prepared => (∀ target ∈ prepared.1, target.module = home) ∧ prepared.2.Inside home)
      (prepareInvoke frame) (prepareInvoke (frame.relocate home)) := by
  refine frames.pop.bind fun popped known => ?_
  rcases popped with ⟨value, rest⟩
  cases value with
  | callback object => exact .ok known
  | null => exact .error trivial
  | _ => exact .mismatch _ _

end Rekindle.Machine
