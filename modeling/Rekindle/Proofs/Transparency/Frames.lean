import Rekindle.Machine.Step
import Rekindle.Proofs.Transparency.Stores

/-!
# Alike frames

Two frames that execute one body on two machines, with alike values in the same places. They may
belong to different routines, as the copy of an initializer does. Each instruction fails alike in
both, or leads to alike frames again.
-/

namespace Rekindle.Machine

open Fallible Reload Validity

/-- Two frames at the same instruction of one body, which makes sense in the module and gives a
value or not. -/
structure Frame.Alike (module : Module) (names : List Nat) (given : Bool) (left right : Frame) :
    Prop where
  module_eq : left.module = firstModule
  other_module_eq : right.module = firstModule
  body_eq : right.body = left.body
  returns_eq : left.returns = given
  other_returns_eq : right.returns = given
  arguments_eq : right.arguments = left.arguments
  position_eq : right.position = left.position
  parameters : Values module names left.parameters right.parameters
  locals : Values module names left.locals right.locals
  operands : List.Forall₂ (Value.Alike module names) left.operands.values right.operands.values
  fits : ∃ routine, BodyFits module left.arguments.length routine left.body

/-- What was taken from two frames agrees, and what is left of them is alike. -/
inductive Yields {α β : Type} (module : Module) (names : List Nat) (given : Bool) (agree : α → β → Prop) :
    α × Frame → β × Frame → Prop where
  | intro {one : α} {other : β} {left right : Frame} (agrees : agree one other)
      (frames : left.Alike module names given right) :
      Yields module names given agree (one, left) (other, right)

/-- Two values were taken from each frame. -/
inductive YieldsTwo (module : Module) (names : List Nat) (given : Bool) :
    Value × Value × Frame → Value × Value × Frame → Prop where
  | intro {first second counterpart another : Value} {left right : Frame}
      (firsts : first.Alike module names counterpart)
      (seconds : second.Alike module names another) (frames : left.Alike module names given right) :
      YieldsTwo module names given (first, second, left) (counterpart, another, right)

/-- Alike stores and frames, under the names there were and perhaps more. -/
def Weave.Onward (weave : Weave) (thread : ThreadId) (names : List Nat) (given : Bool)
    (one other : Store × Frame) : Prop :=
  ∃ more, names <+: more ∧ weave.Stores thread more one.1 other.1 ∧
    one.2.Alike weave.module more given other.2

namespace Frame

variable {module : Module} {names more : List Nat} {given : Bool} {left right : Frame}
  {value other : Value}

theorem Alike.mono (grown : names <+: more) (frames : left.Alike module names given right) :
    left.Alike module more given right :=
  { frames with
    parameters := frames.parameters.mono grown
    locals := frames.locals.mono grown
    operands := List.Forall₂.imp (fun _ _ values => values.mono grown) frames.operands }

/-! ### Parts of a frame -/

theorem Alike.withOperands {values others : List Value} (frames : left.Alike module names given right)
    (operands : List.Forall₂ (Value.Alike module names) values others) :
    Alike module names given { left with operands := ⟨values⟩ } { right with operands := ⟨others⟩ } :=
  { frames with operands }

theorem Alike.withLocals {values others : Array Value} (frames : left.Alike module names given right)
    (locals : Values module names values others) :
    Alike module names given { left with locals := values } { right with locals := others } :=
  { frames with locals }

theorem Alike.advance (frames : left.Alike module names given right) :
    left.advance.Alike module names given right.advance :=
  { frames with position_eq := congrArg (· + 1) frames.position_eq }

theorem Alike.jump (frames : left.Alike module names given right) (target : UInt32) :
    (left.jump target).Alike module names given (right.jump target) :=
  { frames with position_eq := rfl }

theorem Alike.choose (frames : left.Alike module names given right) (condition : Bool)
    (target : UInt32) :
    (left.choose condition target).Alike module names given (right.choose condition target) := by
  cases condition with
  | true => exact frames.jump target
  | false => exact frames.advance

theorem Alike.instruction?_eq (frames : left.Alike module names given right) :
    right.instruction? = left.instruction? := by
  rw [instruction?, instruction?, frames.body_eq, frames.position_eq]

theorem Alike.isFinalized_eq (frames : left.Alike module names given right) :
    right.isFinalized = left.isFinalized := by
  rw [isFinalized, isFinalized, frames.body_eq, frames.position_eq]

theorem Alike.operandFits (frames : left.Alike module names given right) {instruction : Instruction}
    (current : left.instruction? = some instruction) :
    ∃ routine, OperandFits module left.arguments.length routine left.body instruction := by
  rcases frames.fits with ⟨routine, fits⟩
  refine ⟨routine, (fits.instructions instruction ?_).operand⟩
  rcases Array.getElem?_eq_some_iff.mp current with ⟨inside, rfl⟩
  exact Array.getElem_mem_toList inside

/-! ### Operands -/

/-- Pushing fails, if it does, with a trap that is the same under whatever names. -/
theorem Alike.push {few : List Nat} (frames : left.Alike module names given right)
    (values : value.Alike module names other) :
    Mirrored module few (Frame.Alike module names given) (left.push value) (right.push other) := by
  have height_eq : right.operands.height = left.operands.height := frames.operands.length_eq.symm
  simp only [Frame.push, Operands.push, height_eq]
  split
  · exact .ok (frames.withOperands (.cons values frames.operands))
  · exact .error (.same rfl)

theorem Alike.yield {few : List Nat} (frames : left.Alike module names given right)
    (values : value.Alike module names other) :
    Mirrored module few (Frame.Alike module names given) (left.yield value) (right.yield other) := by
  apply (frames.push values).bind
  intro one another frames
  exact .ok frames.advance

theorem Alike.pop (frames : left.Alike module names given right) :
    Mirrored module names (Yields module names given (Value.Alike module names)) left.pop right.pop := by
  have operands := frames.operands
  simp only [Frame.pop, Operands.pop]
  generalize left.operands.values = values at operands ⊢
  generalize right.operands.values = others at operands ⊢
  cases operands with
  | nil => exact .error .underflow
  | cons first rest => exact .ok ⟨first, frames.withOperands rest⟩

theorem Alike.popMany (frames : left.Alike module names given right) (count : Nat) :
    Mirrored module names (Yields module names given (List.Forall₂ (Value.Alike module names)))
      (left.popMany count) (right.popMany count) := by
  have height_eq : right.operands.height = left.operands.height := frames.operands.length_eq.symm
  simp only [Frame.popMany, Operands.popMany, height_eq]
  split
  · exact .error .underflow
  · refine .ok ⟨?_, frames.withOperands (List.forall₂_drop count frames.operands)⟩
    exact List.forall₂_reverse_iff.mpr (List.forall₂_take count frames.operands)

theorem Alike.popTwo (frames : left.Alike module names given right) :
    Mirrored module names (YieldsTwo module names given) left.popTwo right.popTwo := by
  apply frames.pop.bind
  rintro _ _ ⟨seconds, frames⟩
  apply frames.pop.bind
  rintro _ _ ⟨firsts, frames⟩
  exact .ok ⟨firsts, seconds, frames⟩

theorem Alike.popAddress (frames : left.Alike module names given right) (operation : String) :
    Mirrored module names
      (Yields module names given fun place counterpart =>
        counterpart = place ∧ place.instantiation.Placed module)
      (left.popAddress operation) (right.popAddress operation) := by
  apply frames.pop.bind
  rintro _ _ ⟨values, frames⟩
  have fails := Trap.mismatch_alike operation values
  cases values with
  | address placed => exact .ok ⟨⟨rfl, placed⟩, frames⟩
  | _ => exact .error fails

theorem Alike.localValue (frames : left.Alike module names given right) (slot : UInt16) :
    Mirrored module names (Value.Alike module names) (left.localValue slot)
      (right.localValue slot) := by
  rcases rel_cases (frames.locals.getElem? slot.toNat) with
    ⟨missing, otherMissing⟩ | ⟨value, other, found, otherFound, values⟩
  · simp only [Frame.localValue, missing, otherMissing]
    exact .error .reference
  · simp only [Frame.localValue, found, otherFound]
    exact .ok values

/-! ### Computing -/

theorem arithmetic_alike (operation : String) (int32 : Int32 → Int32 → Int32)
    (int64 : Int64 → Int64 → Int64) (float64 : Binary64 → Binary64 → Binary64)
    {second another : Value} (firsts : value.Alike module names other)
    (seconds : second.Alike module names another) :
    Mirrored module names (Value.Alike module names)
      (arithmetic operation int32 int64 float64 value second)
      (arithmetic operation int32 int64 float64 other another) := by
  have fails := Trap.mismatch_alike operation firsts
  cases firsts with
  | int32 =>
      cases seconds with
      | int32 => exact .ok .int32
      | _ => exact .error fails
  | int64 =>
      cases seconds with
      | int64 => exact .ok .int64
      | _ => exact .error fails
  | float64 =>
      cases seconds with
      | float64 => exact .ok .float64
      | _ => exact .error fails
  | _ => exact .error fails

theorem Alike.calculate (frames : left.Alike module names given right)
    {operation : Value → Value → Except Trap Value}
    (computes : ∀ {first second counterpart another : Value},
      first.Alike module names counterpart → second.Alike module names another →
      Mirrored module names (Value.Alike module names) (operation first second)
        (operation counterpart another)) :
    Mirrored module names (Frame.Alike module names given) (left.calculate operation)
      (right.calculate operation) := by
  apply frames.popTwo.bind
  rintro _ _ ⟨firsts, seconds, frames⟩
  apply (computes firsts seconds).bind
  intro value other values
  exact frames.yield values

/-! ### References -/

theorem Alike.bound_eq (frames : left.Alike module names given right) (reference : RoutineRef) :
    right.bound reference = left.bound reference := by
  simp only [Frame.bound, frames.module_eq, frames.other_module_eq, frames.arguments_eq]

theorem Alike.bound_known (frames : left.Alike module names given right) {reference : RoutineRef}
    {arity : Nat} (fits : RoutineRefFits module arity reference) :
    (left.bound reference).Known module := by
  rcases fits with ⟨routine, declared, _, _, binding⟩
  exact ⟨frames.module_eq, routine, declared, length_close binding left.arguments⟩

end Frame

namespace Weave

variable {weave : Weave} {thread : ThreadId} {names : List Nat} {given : Bool}
  {plain woven : Store} {left right : Frame}

theorem Onward.still (stores : weave.Stores thread names plain woven)
    (frames : left.Alike weave.module names given right) :
    weave.Onward thread names given (plain, left) (woven, right) :=
  ⟨names, List.prefix_refl names, stores, frames⟩

/-- What changes nothing but the frame, under the names there were and perhaps more. -/
theorem onward_of_frames {more : List Nat} (grown : names <+: more)
    (stores : weave.Stores thread more plain woven) {moved other : Except Trap Frame}
    (frames : Mirrored weave.module names (Frame.Alike weave.module more given) moved other) :
    Mirrored weave.module names (weave.Onward thread names given)
      (moved >>= fun frame => pure (plain, frame)) (other >>= fun frame => pure (woven, frame)) := by
  apply frames.bind
  intro one another alike
  exact .ok ⟨more, grown, stores, alike⟩

theorem Stores.onward (stores : weave.Stores thread names plain woven)
    {moved other : Except Trap Frame}
    (frames : Mirrored weave.module names (Frame.Alike weave.module names given) moved other) :
    Mirrored weave.module names (weave.Onward thread names given)
      (moved >>= fun frame => pure (plain, frame)) (other >>= fun frame => pure (woven, frame)) :=
  onward_of_frames (List.prefix_refl names) stores frames

theorem address_alike (stores : weave.Stores thread names plain woven)
    (frames : left.Alike weave.module names given right) {arity : Nat} {reference : FieldRef}
    (fits : FieldRefFits weave.module arity reference) :
    ∃ place, left.address plain reference = .ok place ∧ right.address woven reference = .ok place ∧
      place.instantiation.Placed weave.module := by
  rcases fits with ⟨field, declared, _, binding⟩
  rcases slotOf_ok declared with ⟨slot, slot_eq⟩
  refine ⟨⟨⟨firstModule, field.owner, reference.binding.close left.arguments⟩, slot⟩, ?_, ?_,
    ⟨rfl, length_close binding left.arguments⟩⟩
  · simp only [Frame.address, frames.module_eq, stores.module_eq rfl, ok_bind, declared, slot_eq,
      pure_eq_ok]
  · simp only [Frame.address, frames.other_module_eq, frames.arguments_eq,
      stores.prepared.module_eq rfl, ok_bind, field_kept declared, slotOf_eq declared, slot_eq,
      pure_eq_ok]

theorem calleeReturns_eq (stores : weave.Stores thread names plain woven)
    (frames : left.Alike weave.module names given right) {arity : Nat} {reference : RoutineRef}
    (fits : RoutineRefFits weave.module arity reference) :
    right.calleeReturns woven reference = left.calleeReturns plain reference := by
  rcases fits with ⟨routine, declared, _⟩
  rcases routine_kept declared with ⟨body, kept⟩
  simp only [Frame.calleeReturns, stores.loaded frames.module_eq,
    stores.prepared.loaded frames.other_module_eq, declared, kept]
  rfl

/-! ### Instructions whose effect is over at once -/

theorem newCallback_alike (stores : weave.Stores thread names plain woven)
    (frames : left.Alike weave.module names given right) :
    Mirrored weave.module names (weave.Onward thread names given) (left.newCallback plain)
      (right.newCallback woven) := by
  apply frames.popTwo.bind
  rintro _ _ ⟨targets, pointers, frames⟩
  have fails := Trap.mismatch_alike "newcallback" targets
  have failsToo := Trap.mismatch_alike "newcallback" pointers
  cases targets with
  | null =>
      cases pointers with
      | @pointer target known =>
          have allKnown : ∀ routine ∈ [target], routine.Known weave.module := by simpa using known
          rcases stores.newCallback allKnown with ⟨issued, callbacks⟩
          have grown : names <+: names ++ [woven.nextCallback] := List.prefix_append _ _
          exact onward_of_frames grown issued ((frames.mono grown).yield callbacks)
      | _ => exact .error failsToo
  | _ => exact .error fails

theorem combineCallbacks_alike (stores : weave.Stores thread names plain woven)
    (frames : left.Alike weave.module names given right) :
    Mirrored weave.module names (weave.Onward thread names given) (left.combineCallbacks plain)
      (right.combineCallbacks woven) := by
  apply frames.popTwo.bind
  rintro _ _ ⟨firsts, seconds, frames⟩
  have grown : names <+: names ++ [woven.nextCallback] := List.prefix_append _ _
  rcases rel_cases (stores.combine firsts seconds) with
    ⟨missing, otherMissing⟩ | ⟨⟨store, combined⟩, ⟨otherStore, other⟩, made, otherMade, issued, values⟩
  · simp only [missing, otherMissing]
    apply Mirrored.error
    apply Trap.mismatch_alike
    have blamed := firsts
    cases firsts with
    | null | callback => exact seconds
    | _ => exact blamed
  · simp only [made, otherMade]
    exact onward_of_frames grown issued ((frames.mono grown).yield values)

theorem compareExchange_alike (stores : weave.Stores thread names plain woven)
    (frames : left.Alike weave.module names given right) :
    Mirrored weave.module names (weave.Onward thread names given) (left.compareExchange plain)
      (right.compareExchange woven) := by
  apply frames.popTwo.bind
  rintro _ _ ⟨values, expectations, frames⟩
  apply (frames.popAddress "cmpxchg").bind
  rintro _ _ ⟨⟨rfl, placed⟩, frames⟩
  rcases rel_cases (stores.slot? placed) with
    ⟨missing, otherMissing⟩ | ⟨held, otherHeld, found, otherFound, helds⟩
  · simp only [missing, otherMissing]
    exact .error .reference
  · simp only [found, otherFound, ← helds.same_eq stores.distinct expectations]
    split
    · exact (stores.setSlot placed values).onward (frames.yield helds)
    · exact stores.onward (frames.yield helds)

/-- Every instruction whose effect is over at once. -/
theorem execute_alike (stores : weave.Stores thread names plain woven)
    (frames : left.Alike weave.module names given right) {instruction : Instruction}
    (current : left.instruction? = some instruction) :
    Mirrored weave.module names (weave.Onward thread names given) (left.execute plain instruction)
      (right.execute woven instruction) := by
  rcases frames.operandFits current with ⟨_, operand⟩
  cases instruction with
  | pop =>
      apply frames.pop.bind
      rintro _ _ ⟨_, frames⟩
      exact .ok (.still stores frames.advance)
  | dup =>
      apply frames.pop.bind
      rintro _ _ ⟨values, frames⟩
      apply (frames.push values).bind
      intro left right frames
      exact stores.onward (frames.yield values)
  | loadNull => exact stores.onward (frames.yield .null)
  | loadInt32 => exact stores.onward (frames.yield .int32)
  | loadInt64 => exact stores.onward (frames.yield .int64)
  | loadFloat64 => exact stores.onward (frames.yield .float64)
  | loadString => exact stores.onward (frames.yield .string)
  | loadLocal slot =>
      apply (frames.localValue slot).bind
      intro value other values
      exact stores.onward (frames.yield values)
  | storeLocal slot =>
      apply frames.pop.bind
      rintro _ _ ⟨values, frames⟩
      apply (frames.localValue slot).bind
      intro _ _ _
      have locals := frames.locals.set values slot.toNat
      exact .ok (.still stores (frames.withLocals locals).advance)
  | loadArgument slot =>
      rcases rel_cases (frames.parameters.getElem? slot.toNat) with
        ⟨missing, otherMissing⟩ | ⟨value, other, found, otherFound, values⟩
      · simp only [Frame.execute, missing, otherMissing]
        exact .error .reference
      · simp only [Frame.execute, found, otherFound]
        exact stores.onward (frames.yield values)
  | storeDefault type =>
      apply (frames.popAddress "initobj").bind
      rintro _ _ ⟨⟨rfl, placed⟩, frames⟩
      simp only [frames.arguments_eq]
      apply (stores.write placed (Value.default_alike names _)).bind
      intro plain woven stores
      exact .ok (.still stores frames.advance)
  | add => exact stores.onward (frames.calculate (Frame.arithmetic_alike _ _ _ _))
  | subtract => exact stores.onward (frames.calculate (Frame.arithmetic_alike _ _ _ _))
  | multiply => exact stores.onward (frames.calculate (Frame.arithmetic_alike _ _ _ _))
  | compareEqual =>
      apply frames.popTwo.bind
      rintro _ _ ⟨firsts, seconds, frames⟩
      simp only [firsts.same_eq stores.distinct seconds]
      exact stores.onward (frames.yield .int32)
  | branch target => exact .ok (.still stores (frames.jump target))
  | branchTrue target =>
      apply frames.pop.bind
      rintro _ _ ⟨values, frames⟩
      simp only [values.isTruthy_eq]
      exact .ok (.still stores (frames.choose _ target))
  | branchFalse target =>
      apply frames.pop.bind
      rintro _ _ ⟨values, frames⟩
      simp only [values.isTruthy_eq]
      exact .ok (.still stores (frames.choose _ target))
  | branchUnequal target =>
      apply frames.popTwo.bind
      rintro _ _ ⟨firsts, seconds, frames⟩
      simp only [firsts.same_eq stores.distinct seconds]
      exact .ok (.still stores (frames.choose _ target))
  | loadRoutine reference =>
      have pointers : (Value.pointer (left.bound reference)).Alike weave.module names
          (.pointer (right.bound reference)) := by
        rw [frames.bound_eq]
        exact .pointer (frames.bound_known operand)
      exact stores.onward (frames.yield pointers)
  | newCallback => exact newCallback_alike stores frames
  | combineCallbacks => exact combineCallbacks_alike stores frames
  | compareExchange => exact compareExchange_alike stores frames
  | throw =>
      apply frames.pop.bind
      rintro _ _ ⟨values, _⟩
      exact .error (.thrown values)
  | leave target =>
      simp only [Frame.execute, frames.isFinalized_eq]
      split
      · exact .error (.same rfl)
      · exact .ok (.still stores ((frames.withOperands .nil).jump target))
  | endFinally => exact .error (.same rfl)
  | nop | ret | loadField | storeField | loadFieldAddress | call | invokeCallback =>
      exact .ok (.still stores frames.advance)

/-! ### Calls and traps -/

theorem receive_alike (frames : left.Alike weave.module names given right) {trap other : Trap}
    (traps : trap.Alike weave.module names other) :
    Mirrored weave.module names (Frame.Alike weave.module names given) (left.receive trap)
      (right.receive other) := by
  have unreceived := traps
  cases traps with
  | thrown values =>
      have handler?_eq : right.body.handlers.find? (·.covers right.position) =
          left.body.handlers.find? (·.covers left.position) := by
        rw [frames.body_eq, frames.position_eq]
      simp only [Frame.receive, handler?_eq]
      split
      · split
        · exact .ok ((frames.withOperands (.cons values .nil)).jump _)
        · exact .error (.same rfl)
      · exact .error unreceived
  | same valueless =>
      cases trap with
      | thrown => cases valueless
      | _ => exact .error unreceived
  | _ => exact .error unreceived

/-- What is handed back, if anything is, is alike. -/
abbrev Results (module : Module) (names : List Nat) : Option Value → Option Value → Prop :=
  Option.Rel (Value.Alike module names)

theorem resume_alike (stores : weave.Stores thread names plain woven)
    (frames : left.Alike weave.module names given right) {result other : Option Value}
    (results : Results weave.module names result other) :
    Mirrored weave.module names (Frame.Alike weave.module names given) (left.resume plain result)
      (right.resume woven other) := by
  simp only [Frame.resume, frames.instruction?_eq]
  split
  · rename_i reference current
    rcases frames.operandFits current with ⟨_, operand⟩
    rw [calleeReturns_eq stores frames operand]
    split
    · cases results with
      | none => exact .error .reference
      | some values => exact frames.yield values
    · exact .ok frames.advance
  · exact .ok frames.advance

theorem resultOf_alike (frames : left.Alike weave.module names given right) :
    Mirrored weave.module names (Results weave.module names) (resultOf left) (resultOf right) := by
  simp only [resultOf, frames.returns_eq, frames.other_returns_eq]
  split
  · have popped := frames.pop
    generalize left.pop = one at popped ⊢
    generalize right.pop = other at popped ⊢
    cases popped with
    | ok agrees =>
        cases agrees with
        | intro values => exact .ok (.some values)
    | error traps => exact .error traps
  · exact .ok .none

theorem prepareCall_alike (stores : weave.Stores thread names plain woven)
    (frames : left.Alike weave.module names given right) {arity : Nat} {reference : RoutineRef}
    (fits : RoutineRefFits weave.module arity reference) :
    Mirrored weave.module names
      (Yields weave.module names given (List.Forall₂ (Value.Alike weave.module names)))
      (prepareCall plain left reference) (prepareCall woven right reference) := by
  rcases fits with ⟨routine, declared, _⟩
  rcases routine_kept declared with ⟨body, kept⟩
  simp only [prepareCall, stores.module_eq frames.module_eq,
    stores.prepared.module_eq frames.other_module_eq, ok_bind, declared, kept]
  exact frames.popMany _

theorem prepareInvoke_alike (frames : left.Alike weave.module names given right) :
    Mirrored weave.module names
      (Yields weave.module names given fun targets others =>
        others = targets ∧ ∀ target ∈ targets, target.Known weave.module)
      (prepareInvoke left) (prepareInvoke right) := by
  apply frames.pop.bind
  rintro _ _ ⟨values, frames⟩
  have fails := Trap.mismatch_alike "invoke" values
  cases values with
  | null => exact .error (.same rfl)
  | callback alike => exact .ok ⟨⟨alike.targets_eq.symm, alike.known⟩, frames⟩
  | _ => exact .error fails

end Weave

end Rekindle.Machine
