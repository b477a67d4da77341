import Rekindle.Machine.Step
import Rekindle.Proofs.Machine.Storage

/-!
# Scopes

Values lead to routines, which can be called through them, and to places, which can be written
through them. What a frame does at once leads to nothing that the values in its reach do not lead
to, but for the routine that its instruction names.
-/

namespace Rekindle.Machine

open Fallible

/-- What values may lead to: routines to be called and places to be written. -/
structure Scope where
  routines : BoundRoutine → Prop
  places : Address → Prop

/-- A value that leads to nothing outside a scope. -/
def Value.Within (scope : Scope) : Value → Prop
  | .pointer target => scope.routines target
  | .callback object => ∀ target ∈ object.targets, scope.routines target
  | .address place => scope.places place
  | .null | .bool _ | .int32 _ | .int64 _ | .float64 _ | .string _ => True

/-- A trap whose value, if it has one, leads to nothing outside a scope. -/
def Trap.Within (scope : Scope) : Trap → Prop
  | .thrown value => value.Within scope
  | _ => True

/-- A frame whose values lead to nothing outside a scope. -/
structure Frame.Within (scope : Scope) (frame : Frame) : Prop where
  parameters : ∀ value ∈ frame.parameters.toList, value.Within scope
  locals : ∀ value ∈ frame.locals.toList, value.Within scope
  operands : ∀ value ∈ frame.operands.values, value.Within scope

/-- A store whose slots lead to nothing outside a scope. -/
def Store.Within (scope : Scope) (store : Store) : Prop :=
  ∀ place value, store.slot? place = some value → value.Within scope

/-- A later state of a frame. -/
structure Frame.Stays (scope : Scope) (frame after : Frame) : Prop where
  module_eq : after.module = frame.module
  routine_eq : after.routine = frame.routine
  body_eq : after.body = frame.body
  arguments_eq : after.arguments = frame.arguments
  within : after.Within scope

/-- What a frame can make of a store at once. -/
inductive Store.Touched (scope : Scope) (store : Store) : Store → Prop where
  | same : Touched scope store store
  | wrote {place : Address} {value : Value} (placed : scope.places place)
      (within : value.Within scope) : Touched scope store (store.setSlot place value)
  | issued : Touched scope store { store with nextCallback := store.nextCallback + 1 }

variable {scope : Scope}

section Widen

variable {wider : Scope} (routines : ∀ target, scope.routines target → wider.routines target)
  (places : ∀ place, scope.places place → wider.places place)
include routines places

theorem Value.Within.widen {value : Value} (within : value.Within scope) : value.Within wider := by
  cases value with
  | pointer target => exact routines target within
  | callback object => exact fun target listed => routines target (within target listed)
  | address place => exact places place within
  | null | bool | int32 | int64 | float64 | string => trivial

theorem Frame.Within.widen {frame : Frame} (within : frame.Within scope) : frame.Within wider where
  parameters value listed := (within.parameters value listed).widen routines places
  locals value listed := (within.locals value listed).widen routines places
  operands value listed := (within.operands value listed).widen routines places

end Widen

/-- A computation that gives only results with a property, and raises only traps within a scope. -/
def Scope.Confines {α : Type} (scope : Scope) (computation : Except Trap α) (holds : α → Prop) :
    Prop :=
  match computation with
  | .ok value => holds value
  | .error trap => trap.Within scope

namespace Scope.Confines

variable {α β : Type} {holds : α → Prop} {further : β → Prop}

theorem bind {first : Except Trap α} {next : α → Except Trap β}
    (confined : scope.Confines first holds)
    (goesOn : ∀ value, holds value → scope.Confines (next value) further) :
    scope.Confines (first >>= next) further := by
  cases first with
  | error trap => exact confined
  | ok value => exact goesOn value confined

theorem mono {computation : Except Trap α} {weaker : α → Prop}
    (confined : scope.Confines computation holds) (implies : ∀ value, holds value → weaker value) :
    scope.Confines computation weaker := by
  cases computation with
  | error trap => exact confined
  | ok value => exact implies value confined

end Scope.Confines

/-! ### Values -/

theorem Value.default_within (type : ValueType) : (Value.default type).Within scope := by
  cases type <;> trivial

theorem Value.combine_within {fresh : Nat} {first second combined : Value}
    (firstWithin : first.Within scope) (secondWithin : second.Within scope)
    (made : Value.combine fresh first second = some combined) : combined.Within scope := by
  cases first with
  | null =>
      cases second with
      | null | callback =>
          cases made
          exact secondWithin
      | _ => cases made
  | callback object =>
      cases second with
      | null =>
          cases made
          exact firstWithin
      | callback other =>
          cases made
          intro target listed
          rcases List.mem_append.mp listed with early | late
          · exact firstWithin target early
          · exact secondWithin target late
      | _ => cases made
  | _ => cases made

theorem freshSlot_within (module : Module) (arguments : List ValueType) (id : FieldId) :
    (Store.freshSlot module arguments id).Within scope := by
  unfold Store.freshSlot
  split
  · split
    · exact Value.default_within _
    · trivial
  · trivial

theorem freshStorage_within (module : Module) (type : TypeDecl) (arguments : List ValueType)
    {position : Nat} {value : Value}
    (found : (Store.freshStorage module type arguments).slots[position]? = some value) :
    value.Within scope := by
  have listed := Array.mem_of_getElem? found
  simp only [Store.freshStorage, List.mem_toArray, List.mem_map] at listed
  rcases listed with ⟨field, _, rfl⟩
  exact freshSlot_within module arguments field

/-! ### Operands -/

namespace Frame

variable {frame after last : Frame}

theorem Within.stays (within : frame.Within scope) : frame.Stays scope frame :=
  ⟨rfl, rfl, rfl, rfl, within⟩

theorem Stays.trans (first : frame.Stays scope after) (second : after.Stays scope last) :
    frame.Stays scope last :=
  ⟨second.module_eq.trans first.module_eq, second.routine_eq.trans first.routine_eq,
    second.body_eq.trans first.body_eq, second.arguments_eq.trans first.arguments_eq,
    second.within⟩

theorem Stays.advance (stays : frame.Stays scope after) : frame.Stays scope after.advance :=
  ⟨stays.module_eq, stays.routine_eq, stays.body_eq, stays.arguments_eq,
    stays.within.parameters, stays.within.locals, stays.within.operands⟩

theorem Stays.jump (stays : frame.Stays scope after) (target : UInt32) :
    frame.Stays scope (after.jump target) :=
  ⟨stays.module_eq, stays.routine_eq, stays.body_eq, stays.arguments_eq,
    stays.within.parameters, stays.within.locals, stays.within.operands⟩

theorem Stays.choose (stays : frame.Stays scope after) (condition : Bool) (target : UInt32) :
    frame.Stays scope (after.choose condition target) := by
  cases condition with
  | false => exact stays.advance
  | true => exact stays.jump target

theorem Within.withOperands (within : frame.Within scope) {values : List Value}
    (operands : ∀ value ∈ values, value.Within scope) :
    frame.Stays scope { frame with operands := ⟨values⟩ } :=
  ⟨rfl, rfl, rfl, rfl, within.parameters, within.locals, operands⟩

theorem push_confined (within : frame.Within scope) {value : Value} (known : value.Within scope) :
    scope.Confines (frame.push value) (frame.Stays scope) := by
  simp only [push, Operands.push]
  split
  · exact within.withOperands (List.forall_mem_cons.mpr ⟨known, within.operands⟩)
  · trivial

theorem Stays.yield_confined (stays : frame.Stays scope after) {value : Value}
    (known : value.Within scope) : scope.Confines (after.yield value) (frame.Stays scope) := by
  refine (push_confined stays.within known).bind fun pushed movedOn => ?_
  exact (stays.trans movedOn).advance

theorem pop_confined (within : frame.Within scope) :
    scope.Confines frame.pop fun popped => popped.1.Within scope ∧ frame.Stays scope popped.2 := by
  have operands := within.operands
  rcases values : frame.operands.values with _ | ⟨value, others⟩
  · simp only [pop, Operands.pop, values]
    trivial
  · rw [values, List.forall_mem_cons] at operands
    simp only [pop, Operands.pop, values]
    exact ⟨operands.1, within.withOperands operands.2⟩

theorem popMany_confined (within : frame.Within scope) (count : Nat) :
    scope.Confines (frame.popMany count) fun popped =>
      (∀ value ∈ popped.1, value.Within scope) ∧ frame.Stays scope popped.2 := by
  simp only [popMany, Operands.popMany]
  split
  · trivial
  · refine ⟨?_, within.withOperands ?_⟩
    · intro value listed
      exact within.operands value (List.mem_of_mem_take (List.mem_reverse.mp listed))
    · intro value listed
      exact within.operands value (List.mem_of_mem_drop listed)

theorem popTwo_confined (within : frame.Within scope) :
    scope.Confines frame.popTwo fun popped =>
      popped.1.Within scope ∧ popped.2.1.Within scope ∧ frame.Stays scope popped.2.2 := by
  refine (pop_confined within).bind fun second popped => ?_
  refine (pop_confined popped.2.within).bind fun first poppedToo => ?_
  exact ⟨poppedToo.1, popped.1, popped.2.trans poppedToo.2⟩

theorem popAddress_confined (within : frame.Within scope) (operation : String) :
    scope.Confines (frame.popAddress operation) fun popped =>
      scope.places popped.1 ∧ frame.Stays scope popped.2 := by
  refine (pop_confined within).bind fun popped known => ?_
  rcases popped with ⟨value, rest⟩
  cases value with
  | address place => exact known
  | _ => trivial

theorem localValue_confined (within : frame.Within scope) (slot : UInt16) :
    scope.Confines (frame.localValue slot) fun value => value.Within scope := by
  unfold localValue
  split
  · rename_i value found
    exact within.locals value (Array.mem_toList_iff.mpr (Array.mem_of_getElem? found))
  · trivial

theorem arithmetic_confined {operation : String} {int32 : Int32 → Int32 → Int32}
    {int64 : Int64 → Int64 → Int64} {float64 : Binary64 → Binary64 → Binary64}
    (first second : Value) :
    scope.Confines (arithmetic operation int32 int64 float64 first second)
      fun value => value.Within scope := by
  cases first <;> cases second <;> trivial

theorem calculate_confined (within : frame.Within scope)
    {operation : Value → Value → Except Trap Value}
    (gives : ∀ first second, scope.Confines (operation first second) fun value =>
      value.Within scope) :
    scope.Confines (frame.calculate operation) (frame.Stays scope) := by
  refine (popTwo_confined within).bind fun popped known => ?_
  refine (gives popped.1 popped.2.1).bind fun value made => ?_
  exact known.2.2.yield_confined made

/-! ### Instructions -/

/-- What an instruction whose effect is over at once leads to. -/
def Remains (scope : Scope) (store : Store) (frame : Frame) (result : Store × Frame) : Prop :=
  store.Touched scope result.1 ∧ frame.Stays scope result.2

variable {store : Store}

/-- A frame that goes on has changed nothing else. -/
theorem goes_on {next : Except Trap Frame} (confined : scope.Confines next (frame.Stays scope)) :
    scope.Confines (do return (store, ← next)) (Remains scope store frame) := by
  refine confined.bind fun after stays => ?_
  exact ⟨.same, stays⟩

/-- What a field holds comes onto the operands. -/
theorem loaded_confined (within : frame.Within scope) (stores : store.Within scope)
    (place : Address) :
    scope.Confines (do
      let value ← store.read place
      return (store, ← frame.yield value)) (Remains scope store frame) := by
  rcases found : store.slot? place with _ | value
  · simp only [Store.read, found]
    trivial
  · simp only [Store.read, found, ok_bind]
    exact goes_on (within.stays.yield_confined (stores place value found))

/-- An operand that was popped goes into a field. -/
theorem stored_confined {popped : Value × Frame} {place : Address} (reached : scope.places place)
    (known : popped.1.Within scope ∧ frame.Stays scope popped.2) :
    scope.Confines (do
      let written ← store.write place popped.1
      return (written, popped.2.advance)) (Remains scope store frame) := by
  rcases found : store.slot? place with _ | held
  · simp only [Store.write, found]
    trivial
  · simp only [Store.write, found, ok_bind]
    exact ⟨.wrote reached known.1, known.2.advance⟩

theorem newCallback_confined (within : frame.Within scope) :
    scope.Confines (frame.newCallback store) (Remains scope store frame) := by
  refine (popTwo_confined within).bind fun popped known => ?_
  rcases popped with ⟨target, pointer, rest⟩
  rcases known with ⟨_, leads, stays⟩
  cases target with
  | null =>
      cases pointer with
      | pointer routine =>
          have made : ((store.newCallback [routine]).2).Within scope := by
            intro target listed
            rw [List.mem_singleton.mp listed]
            exact leads
          refine (stays.yield_confined made).bind fun next staysOn => ?_
          exact ⟨.issued, staysOn⟩
      | _ => trivial
  | _ => cases pointer <;> trivial

theorem combineCallbacks_confined (within : frame.Within scope) :
    scope.Confines (frame.combineCallbacks store) (Remains scope store frame) := by
  refine (popTwo_confined within).bind fun popped known => ?_
  rcases popped with ⟨first, second, rest⟩
  rcases known with ⟨firstWithin, secondWithin, stays⟩
  rcases combined : Value.combine store.nextCallback first second with _ | value
  · simp only [Store.combine, combined]
    trivial
  · simp only [Store.combine, combined, Option.map_some]
    refine (stays.yield_confined (Value.combine_within firstWithin secondWithin combined)).bind
      fun next staysOn => ?_
    exact ⟨.issued, staysOn⟩

theorem compareExchange_confined (within : frame.Within scope) (stores : store.Within scope) :
    scope.Confines (frame.compareExchange store) (Remains scope store frame) := by
  refine (popTwo_confined within).bind fun popped known => ?_
  rcases popped with ⟨value, expected, rest⟩
  rcases known with ⟨valueWithin, _, stays⟩
  refine (popAddress_confined stays.within "cmpxchg").bind fun placed reached => ?_
  rcases placed with ⟨place, rest⟩
  rcases reached with ⟨placed, staysToo⟩
  rcases found : store.slot? place with _ | held
  · simp only [found]
    trivial
  · simp only [found]
    refine ((stays.trans staysToo).yield_confined (stores place held found)).bind
      fun next staysOn => ?_
    refine ⟨?_, staysOn⟩
    simp only
    split
    · exact .wrote placed valueWithin
    · exact .same

/-- What a frame does at once leads to nothing new but the routine that its instruction names. -/
theorem execute_confined (within : frame.Within scope) (stores : store.Within scope)
    {instruction : Instruction}
    (names : ∀ reference, instruction = .loadRoutine reference →
      scope.routines (frame.bound reference)) :
    scope.Confines (frame.execute store instruction) (Remains scope store frame) := by
  have stays := within.stays
  cases instruction with
  | pop =>
      refine (pop_confined within).bind fun popped known => ?_
      exact ⟨.same, known.2.advance⟩
  | dup =>
      refine (pop_confined within).bind fun popped known => ?_
      refine (push_confined known.2.within known.1).bind fun pushed staysOn => ?_
      exact goes_on ((known.2.trans staysOn).yield_confined known.1)
  | loadNull | loadInt32 | loadInt64 | loadFloat64 | loadString =>
      exact goes_on (stays.yield_confined trivial)
  | loadLocal slot =>
      refine (localValue_confined within slot).bind fun value known => ?_
      exact goes_on (stays.yield_confined known)
  | storeLocal slot =>
      refine (pop_confined within).bind fun popped known => ?_
      refine (localValue_confined known.2.within slot).bind fun _ _ => ?_
      refine ⟨.same, Stays.advance ?_⟩
      refine ⟨known.2.module_eq, known.2.routine_eq, known.2.body_eq, known.2.arguments_eq,
        known.2.within.parameters, ?_, known.2.within.operands⟩
      intro value listed
      simp only [Array.toList_setIfInBounds] at listed
      rcases List.mem_or_eq_of_mem_set listed with before | rfl
      · exact known.2.within.locals value before
      · exact known.1
  | loadArgument slot =>
      simp only [execute]
      split
      · rename_i value found
        have known := within.parameters value
          (Array.mem_toList_iff.mpr (Array.mem_of_getElem? found))
        exact goes_on (stays.yield_confined known)
      · trivial
  | storeDefault type =>
      refine (popAddress_confined within "initobj").bind fun placed known => ?_
      rcases found : store.slot? placed.1 with _ | held
      · simp only [Store.write, found]
        trivial
      · simp only [Store.write, found]
        exact ⟨.wrote known.1 (Value.default_within _), known.2.advance⟩
  | add | subtract | multiply =>
      exact goes_on (calculate_confined within arithmetic_confined)
  | compareEqual =>
      refine (popTwo_confined within).bind fun popped known => ?_
      exact goes_on (known.2.2.yield_confined trivial)
  | branch target => exact ⟨.same, stays.jump target⟩
  | branchTrue target | branchFalse target =>
      refine (pop_confined within).bind fun popped known => ?_
      exact ⟨.same, known.2.choose _ target⟩
  | branchUnequal target =>
      refine (popTwo_confined within).bind fun popped known => ?_
      exact ⟨.same, known.2.2.choose _ target⟩
  | loadRoutine reference =>
      have known : (Value.pointer (frame.bound reference)).Within scope := names reference rfl
      exact goes_on (stays.yield_confined known)
  | newCallback => exact newCallback_confined within
  | combineCallbacks => exact combineCallbacks_confined within
  | compareExchange => exact compareExchange_confined within stores
  | throw =>
      refine (pop_confined within).bind fun popped known => ?_
      exact known.1
  | leave target =>
      simp only [execute]
      split
      · trivial
      · refine ⟨.same, Stays.jump ?_ target⟩
        exact within.withOperands (by simp)
  | endFinally => trivial
  | nop | ret | loadField | storeField | loadFieldAddress | call | invokeCallback =>
      exact ⟨.same, stays.advance⟩

/-- A frame that receives a trap leads to what the trap leads to. -/
theorem receive_confined (within : frame.Within scope) {trap : Trap} (known : trap.Within scope) :
    scope.Confines (frame.receive trap) (frame.Stays scope) := by
  cases trap with
  | thrown value =>
      simp only [receive]
      split
      · split
        · apply Stays.jump
          apply within.withOperands
          intro other listed
          rw [List.mem_singleton.mp listed]
          exact known
        · trivial
      · exact known
  | _ => trivial

/-- A frame goes on after a call with what it is handed. -/
theorem resume_confined (within : frame.Within scope) (store : Store) {result : Option Value}
    (known : ∀ value, result = some value → value.Within scope) :
    scope.Confines (frame.resume store result) (frame.Stays scope) := by
  have stays := within.stays
  unfold resume
  split
  · split
    · split
      · rename_i value
        exact stays.yield_confined (known value rfl)
      · trivial
    · exact stays.advance
  · exact stays.advance

end Frame

/-! ### Calls and returns -/

section Calls

variable {frame : Frame} {store : Store}

theorem resultOf_confined (within : frame.Within scope) :
    scope.Confines (resultOf frame) fun result =>
      ∀ value, result = some value → value.Within scope := by
  unfold resultOf
  split
  · have popped := Frame.pop_confined within
    generalize frame.pop = computation at popped
    cases computation with
    | error trap => exact popped
    | ok result =>
        rintro value ⟨⟩
        exact popped.1
  · rintro value ⟨⟩

theorem module_confined (store : Store) (handle : ModuleHandle) :
    scope.Confines (store.module handle) fun _ => True := by
  unfold Store.module
  split <;> trivial

theorem prepareCall_confined (store : Store) (within : frame.Within scope)
    (reference : RoutineRef) :
    scope.Confines (prepareCall store frame reference) fun prepared =>
      (∀ value ∈ prepared.1, value.Within scope) ∧ frame.Stays scope prepared.2 := by
  refine (module_confined store frame.module).bind fun module _ => ?_
  split
  · trivial
  · exact Frame.popMany_confined within _

theorem prepareInvoke_confined (within : frame.Within scope) :
    scope.Confines (prepareInvoke frame) fun prepared =>
      (∀ target ∈ prepared.1, scope.routines target) ∧ frame.Stays scope prepared.2 := by
  refine (Frame.pop_confined within).bind fun popped known => ?_
  rcases popped with ⟨value, rest⟩
  cases value with
  | callback object => exact known
  | _ => trivial

theorem start_within (module : Module) (target : BoundRoutine) (routine : RoutineDecl) (body : Body)
    {parameters : List Value} (known : ∀ value ∈ parameters, value.Within scope) :
    (Frame.start module target routine body parameters).Within scope := by
  refine ⟨?_, ?_, ?_⟩
  · simpa [Frame.start] using known
  · intro value listed
    simp only [Frame.start, List.mem_map] at listed
    rcases listed with ⟨type, _, rfl⟩
    exact Value.default_within _
  · intro value listed
    cases listed

/-- A frame that can be entered is at the start of the body of its routine. -/
theorem enter_confined {limit depth : Nat} {target : BoundRoutine} {parameters : List Value}
    (known : ∀ value ∈ parameters, value.Within scope) :
    scope.Confines (Frame.enter limit depth store target parameters) fun frame =>
      frame.Within scope ∧ ∃ module routine body,
        store.modules[target.module.position]? = some module ∧
          module.routine? target.routine = some routine ∧ routine.body = some body ∧
            frame = .start module target routine body parameters := by
  unfold Frame.enter
  split
  · trivial
  · rcases loaded : store.modules[target.module.position]? with _ | module
    · simp only [Store.module, loaded]
      trivial
    · simp only [Store.module, loaded, ok_bind]
      split
      · trivial
      · rename_i routine found
        split
        · trivial
        · rename_i body hasBody
          split
          · exact ⟨start_within module target routine body known, module, routine, body, rfl, found,
              hasBody, rfl⟩
          · trivial

theorem ownerOf_confined (scope : Scope) (store : Store) (target : BoundRoutine) :
    scope.Confines (ownerOf store target) fun instantiation => ∃ module routine,
      store.modules[target.module.position]? = some module ∧
        module.routine? target.routine = some routine ∧
          instantiation = ⟨target.module, routine.owner, target.arguments⟩ := by
  unfold ownerOf
  rcases loaded : store.modules[target.module.position]? with _ | module
  · simp only [Store.module, loaded]
    trivial
  · simp only [Store.module, loaded, ok_bind]
    split
    · trivial
    · rename_i routine found
      exact ⟨module, routine, rfl, found, rfl⟩

theorem address_confined (scope : Scope) (frame : Frame) (store : Store) (reference : FieldRef) :
    scope.Confines (frame.address store reference) fun address => ∃ module field,
      store.modules[frame.module.position]? = some module ∧
        module.field? reference.field = some field ∧
          address.instantiation =
            ⟨frame.module, field.owner, reference.binding.close frame.arguments⟩ := by
  unfold Frame.address
  rcases loaded : store.modules[frame.module.position]? with _ | module
  · simp only [Store.module, loaded]
    trivial
  · simp only [Store.module, loaded, ok_bind]
    split
    · trivial
    · rename_i field found
      rcases placed : Store.slotOf module reference.field with trap | slot
      · unfold Store.slotOf at placed
        rw [found] at placed
        simp only at placed
        split at placed <;> cases placed
      · exact ⟨module, field, rfl, found, rfl⟩

theorem ask_confined (scope : Scope) (store : Store) (thread : ThreadId)
    (instantiation : Instantiation) :
    scope.Confines (store.ask thread instantiation) fun asked => ∃ storage,
      store.Asked thread instantiation asked.1 asked.2 storage := by
  rcases asked : store.ask thread instantiation with trap | ⟨after, ticket⟩
  · unfold Store.ask Store.demand at asked
    split at asked
    · cases asked
    · rcases loaded : store.modules[instantiation.module.position]? with _ | module
      · simp only [Store.module, loaded, error_bind] at asked
        cases asked
        trivial
      · simp only [Store.module, loaded, ok_bind] at asked
        split at asked <;> cases asked
        trivial
  · exact Store.ask_ok asked

end Calls

/-! ### What an instruction comes to -/

/-- What an instruction of a frame comes to, as far as a scope tells: an effect that is over at once,
a field that is asked for, a trap, or activations above the frame or in its place. -/
inductive Frame.ComesTo (scope : Scope) (limit : Nat) (thread : ThreadId) (store : Store)
    (frame : Frame) (below : List Activation) (instruction : Instruction) : Attempt → Prop where
  | proceeds {moved : Except Trap (Store × Frame)}
      (confined : scope.Confines moved (frame.Remains scope store)) :
      ComesTo scope limit thread store frame below instruction
        (proceedWith store frame below moved)
  | accesses {reference : FieldRef} {use : Store → Address → Except Trap (Store × Frame)}
      (names : instruction = .loadField reference ∨
        instruction = .storeField reference ∧ (∃ popped, frame.pop = .ok popped) ∨
        instruction = .loadFieldAddress reference)
      (confined : ∀ after place, after.Within scope →
        (instruction ≠ .loadField reference → scope.places place) →
        scope.Confines (use after place) (frame.Remains scope after)) :
      ComesTo scope limit thread store frame below instruction
        (accessField limit thread store frame below reference use)
  | raises {trap : Trap} (within : trap.Within scope) :
      ComesTo scope limit thread store frame below instruction
        (.raised store trap (.body frame :: below))
  | calls {reference : RoutineRef} {parameters : List Value} {next : Frame}
      (names : instruction = .call reference)
      (within : ∀ value ∈ parameters, value.Within scope) (stays : frame.Stays scope next) :
      ComesTo scope limit thread store frame below instruction
        (.running store (.call (frame.bound reference) parameters :: .body next :: below))
  | invokes {targets : List BoundRoutine} {next : Frame}
      (within : ∀ target ∈ targets, scope.routines target) (stays : frame.Stays scope next) :
      ComesTo scope limit thread store frame below instruction
        (.running store (.targets targets :: .body next :: below))
  | returns {result : Option Value}
      (within : ∀ value, result = some value → value.Within scope) :
      ComesTo scope limit thread store frame below instruction (complete store result below)

theorem stepBody_comesTo {store : Store} {frame : Frame} (within : frame.Within scope)
    (stores : store.Within scope) (instruction : Instruction)
    (names : ∀ reference, instruction = .loadRoutine reference →
      scope.routines (frame.bound reference))
    (limit : Nat) (thread : ThreadId) (below : List Activation) :
    frame.ComesTo scope limit thread store below instruction
      (stepBody limit thread store frame below instruction) := by
  have immediate : frame.ComesTo scope limit thread store below instruction
      (proceedWith store frame below (frame.execute store instruction)) :=
    .proceeds (Frame.execute_confined within stores names)
  cases instruction with
  | loadField reference =>
      exact .accesses (.inl rfl) fun after place storesAfter _ =>
        Frame.loaded_confined within storesAfter place
  | loadFieldAddress reference =>
      refine .accesses (.inr (.inr rfl)) fun after place _ reached => ?_
      have known : (Value.address place).Within scope := reached nofun
      exact Frame.goes_on (within.stays.yield_confined known)
  | storeField reference =>
      have popping := Frame.pop_confined within
      simp only [stepBody]
      rcases popped : frame.pop with trap | ⟨value, rest⟩ <;> rw [popped] at popping
      · exact .raises popping
      · exact .accesses (.inr (.inl ⟨rfl, _, popped⟩)) fun after place _ reached =>
          Frame.stored_confined (reached nofun) popping
  | call reference =>
      have preparing := prepareCall_confined store within reference
      simp only [stepBody]
      rcases prepared : prepareCall store frame reference with trap | ⟨parameters, rest⟩ <;>
        rw [prepared] at preparing
      · exact .raises preparing
      · exact .calls rfl preparing.1 preparing.2
  | invokeCallback =>
      have preparing := prepareInvoke_confined within
      simp only [stepBody]
      rcases prepared : prepareInvoke frame with trap | ⟨targets, rest⟩ <;>
        rw [prepared] at preparing
      · exact .raises preparing
      · exact .invokes preparing.1 preparing.2
  | ret =>
      have returning := resultOf_confined within
      simp only [stepBody]
      rcases returned : resultOf frame with trap | result <;> rw [returned] at returning
      · exact .raises returning
      · exact .returns returning
  | _ => exact immediate

end Rekindle.Machine
