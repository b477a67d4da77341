import Rekindle.Proofs.Machine.Changing
import Rekindle.Proofs.Machine.Scope
import Rekindle.Proofs.Machine.Statuses
import Rekindle.Proofs.Transparency.Leading

/-!
# What a thread does not see

Two stores may hold different values at places that are out of sight. A thread that names only
places in sight does the same in both, and makes them differ only out of sight again: what it does
not see has no influence on it.
-/

namespace Rekindle.Machine

open Fallible

/-- Stores that differ at most in what they hold out of sight. -/
structure Store.Resembles (sight : Address → Prop) (store other : Store) : Prop where
  modules_eq : other.modules = store.modules
  waits_eq : other.waits = store.waits
  nextCallback_eq : other.nextCallback = store.nextCallback
  status?_eq : ∀ instantiation, other.status? instantiation = store.status? instantiation
  slot?_eq : ∀ place, sight place → other.slot? place = store.slot? place

/-- What a frame does at once to two stores, in the same way. -/
inductive Moves (sight : Address → Prop) :
    Except Trap (Store × Frame) → Except Trap (Store × Frame) → Prop where
  | ok {store other : Store} (resembles : store.Resembles sight other) (frame : Frame) :
      Moves sight (.ok (store, frame)) (.ok (other, frame))
  | error (trap : Trap) : Moves sight (.error trap) (.error trap)

/-- Attempts of a thread on two stores, with the same outcome. -/
inductive Attempt.Resembles (sight : Address → Prop) : Attempt → Attempt → Prop where
  | running {store other : Store} (resembles : store.Resembles sight other)
      (activations : List Activation) :
      Resembles sight (.running store activations) (.running other activations)
  | blocked {store other : Store} (resembles : store.Resembles sight other)
      (activations : List Activation) :
      Resembles sight (.blocked store activations) (.blocked other activations)
  | returned {store other : Store} (resembles : store.Resembles sight other)
      (result : Option Value) : Resembles sight (.returned store result) (.returned other result)
  | raised {store other : Store} (resembles : store.Resembles sight other) (trap : Trap)
      (activations : List Activation) :
      Resembles sight (.raised store trap activations) (.raised other trap activations)

/-- Steps of a thread on two stores, with the same outcome. -/
inductive Progress.Resembles (sight : Address → Prop) : Progress → Progress → Prop where
  | running {store other : Store} (resembles : store.Resembles sight other)
      (activations : List Activation) :
      Resembles sight (.running store activations) (.running other activations)
  | blocked {store other : Store} (resembles : store.Resembles sight other)
      (activations : List Activation) :
      Resembles sight (.blocked store activations) (.blocked other activations)
  | finished {store other : Store} (resembles : store.Resembles sight other)
      (result : Except Trap (Option Value)) :
      Resembles sight (.finished store result) (.finished other result)

variable {sight : Address → Prop} {limit : Nat} {thread : ThreadId} {store other : Store}
  {instantiation : Instantiation} {activations below : List Activation} {frame : Frame}

/-! ### Stores -/

namespace Store.Resembles

theorem refl (sight : Address → Prop) (store : Store) : store.Resembles sight store :=
  ⟨rfl, rfl, rfl, fun _ => rfl, fun _ _ => rfl⟩

variable (resembles : store.Resembles sight other)
include resembles

theorem setSlot (place : Address) (value : Value) :
    (store.setSlot place value).Resembles sight (other.setSlot place value) := by
  refine ⟨?_, ?_, ?_, ?_, ?_⟩
  · simpa using resembles.modules_eq
  · simpa using resembles.waits_eq
  · simpa using resembles.nextCallback_eq
  · simpa using resembles.status?_eq
  · intro seen inSight
    simp only [slot?_setSlot]
    split
    · next same => rw [← same, resembles.slot?_eq seen inSight]
    · exact resembles.slot?_eq seen inSight

theorem issued :
    Store.Resembles sight { store with nextCallback := store.nextCallback + 1 }
      { other with nextCallback := other.nextCallback + 1 } where
  modules_eq := resembles.modules_eq
  waits_eq := resembles.waits_eq
  nextCallback_eq := congrArg (· + 1) resembles.nextCallback_eq
  status?_eq := resembles.status?_eq
  slot?_eq := resembles.slot?_eq

theorem module_eq (handle : ModuleHandle) : other.module handle = store.module handle := by
  simp only [Store.module, resembles.modules_eq]

/-- Where one store has storage, so has the other, as far advanced. -/
theorem storage_cases (instantiation : Instantiation) :
    (store.storage? instantiation = none ∧ other.storage? instantiation = none) ∨
      ∃ mine theirs, store.storage? instantiation = some mine ∧
        other.storage? instantiation = some theirs ∧ theirs.status = mine.status := by
  have same := resembles.status?_eq instantiation
  unfold status? at same
  rcases found : store.storage? instantiation with _ | mine
  · rw [found, Option.map_none, Option.map_eq_none_iff] at same
    exact .inl ⟨rfl, same⟩
  · rw [found, Option.map_some, Option.map_eq_some_iff] at same
    rcases same with ⟨theirs, foundToo, status⟩
    exact .inr ⟨mine, theirs, rfl, foundToo, status⟩

/-- Storage that is advanced in the same way in both stores. -/
theorem withStatus (instantiation : Instantiation) (status : Status Trap)
    (waits : Waits Instantiation) :
    Store.Resembles sight
      { store.updateStorage instantiation fun storage => { storage with status } with waits }
      { other.updateStorage instantiation fun storage => { storage with status } with waits } := by
  have lookup (known : Store) (asked : Instantiation) :
      Store.storage? { known.updateStorage instantiation
          fun storage => { storage with status } with waits } asked =
        if asked = instantiation then
          (known.storage? instantiation).map fun storage => { storage with status }
        else known.storage? asked :=
    storage?_updateStorage known instantiation asked _
  refine ⟨resembles.modules_eq, rfl, resembles.nextCallback_eq, ?_, ?_⟩
  · intro asked
    simp only [status?, lookup]
    split
    · rcases resembles.storage_cases instantiation with
        ⟨mine, theirs⟩ | ⟨mine, theirs, found, foundToo, _⟩
      · rw [mine, theirs]
      · rw [found, foundToo]
        rfl
    · exact resembles.status?_eq asked
  · intro place inSight
    have same := resembles.slot?_eq place inSight
    simp only [slot?] at same
    simp only [slot?, lookup]
    split
    · next here =>
        rw [here] at same
        rw [Option.bind_map, Option.bind_map]
        exact same
    · exact same

theorem publish (instantiation : Instantiation) (outcome : Except Trap Unit) :
    (store.publish instantiation outcome).Resembles sight
      (other.publish instantiation outcome) := by
  have same := resembles.withStatus instantiation (.ofOutcome outcome)
    (store.waits.release instantiation)
  unfold Store.publish
  rw [resembles.waits_eq]
  exact same

/-! ### Asking -/

/-- Storage arises in both stores or in neither, and is fresh in both then. -/
theorem demand (instantiation : Instantiation) :
    (∃ trap, store.demand instantiation = .error trap ∧
      other.demand instantiation = .error trap) ∨
    ∃ grown grownToo mine theirs, store.demand instantiation = .ok (grown, mine) ∧
      other.demand instantiation = .ok (grownToo, theirs) ∧ grown.Resembles sight grownToo ∧
        theirs.status = mine.status := by
  rcases resembles.storage_cases instantiation with
    ⟨missing, missingToo⟩ | ⟨mine, theirs, found, foundToo, status⟩
  · simp only [Store.demand, missing, missingToo, resembles.module_eq]
    rcases store.module instantiation.module with trap | module
    · exact .inl ⟨trap, rfl, rfl⟩
    · rcases declared : module.type? instantiation.type with _ | type
      · exact .inl ⟨.unknownType instantiation.type.text, by simp [declared]⟩
      · simp only [ok_bind, declared, pure_eq_ok]
        refine .inr ⟨_, _, _, _, rfl, rfl, ?_, rfl⟩
        have lookup (known : Store) (fresh : Storage) (asked : Instantiation) :
            Store.storage? { known with storages := (instantiation, fresh) :: known.storages }
              asked = if instantiation = asked then some fresh else known.storage? asked := by
          by_cases same : instantiation = asked <;> simp [Store.storage?, same]
        refine ⟨resembles.modules_eq, resembles.waits_eq, resembles.nextCallback_eq, ?_, ?_⟩
        · intro asked
          simp only [status?, lookup]
          split
          · rfl
          · exact resembles.status?_eq asked
        · intro place inSight
          simp only [slot?, lookup]
          split
          · rfl
          · exact resembles.slot?_eq place inSight
  · refine .inr ⟨store, other, mine, theirs, ?_, ?_, resembles, status⟩
    · simp only [Store.demand, found]
    · simp only [Store.demand, foundToo]

/-- A thread is told the same by both stores. -/
theorem ask (thread : ThreadId) (instantiation : Instantiation) :
    (∃ trap, store.ask thread instantiation = .error trap ∧
      other.ask thread instantiation = .error trap) ∨
    ∃ after afterToo ticket, store.ask thread instantiation = .ok (after, ticket) ∧
      other.ask thread instantiation = .ok (afterToo, ticket) ∧
        after.Resembles sight afterToo := by
  rcases resembles.demand instantiation with
    ⟨trap, fails, failsToo⟩ | ⟨grown, grownToo, mine, theirs, demanded, demandedToo, grew, status⟩
  · exact .inl ⟨trap, by simp [Store.ask, fails], by simp [Store.ask, failsToo]⟩
  · refine .inr ⟨_, _, (mine.status.ask grown.waits thread instantiation).1, ?_, ?_,
      grew.withStatus instantiation (mine.status.ask grown.waits thread instantiation).2.1
        (mine.status.ask grown.waits thread instantiation).2.2⟩
    · simp only [Store.ask, demanded, ok_bind, pure_eq_ok]
    · simp only [Store.ask, demandedToo, ok_bind, pure_eq_ok, status, grew.waits_eq]

end Store.Resembles

/-! ### Instructions -/

namespace Moves

theorem bind {α : Type} {next nextToo : α → Except Trap (Store × Frame)} (first : Except Trap α)
    (moves : ∀ value, first = .ok value → Moves sight (next value) (nextToo value)) :
    Moves sight (first >>= next) (first >>= nextToo) := by
  cases first with
  | error trap => exact .error trap
  | ok value => exact moves value rfl

theorem onto (resembles : store.Resembles sight other) (frame : Except Trap Frame) :
    Moves sight (do return (store, ← frame)) (do return (other, ← frame)) :=
  .bind frame fun frame _ => .ok resembles frame

end Moves

namespace Frame

section Sight

variable (resembles : store.Resembles sight other)
include resembles

theorem address_unseen (reference : FieldRef) :
    frame.address other reference = frame.address store reference := by
  simp only [address, resembles.module_eq]

theorem resume_unseen (result : Option Value) :
    frame.resume other result = frame.resume store result := by
  have callee (reference : RoutineRef) :
      frame.calleeReturns other reference = frame.calleeReturns store reference := by
    simp only [calleeReturns, resembles.modules_eq]
  simp only [resume, callee]

theorem enter_unseen (limit depth : Nat) (target : BoundRoutine) (parameters : List Value) :
    Frame.enter limit depth other target parameters =
      Frame.enter limit depth store target parameters := by
  simp only [enter, resembles.module_eq]

theorem read_unseen {place : Address} (inSight : sight place) :
    other.read place = store.read place := by
  simp only [Store.read, resembles.slot?_eq place inSight]

theorem write_unseen {place : Address} (inSight : sight place) (value : Value) (frame : Frame) :
    Moves sight (do
      let written ← store.write place value
      return (written, frame)) (do
      let written ← other.write place value
      return (written, frame)) := by
  simp only [Store.write, resembles.slot?_eq place inSight]
  split
  · exact .ok (resembles.setSlot place value) frame
  · exact .error _

theorem newCallback_unseen : Moves sight (frame.newCallback store) (frame.newCallback other) := by
  refine .bind _ fun popped _ => ?_
  rcases popped with ⟨target, pointer, rest⟩
  cases target with
  | null =>
      cases pointer with
      | pointer routine =>
          simp only [Store.newCallback, resembles.nextCallback_eq]
          have issued := resembles.issued
          rw [resembles.nextCallback_eq] at issued
          exact .onto issued _
      | _ => exact .error _
  | _ => cases pointer <;> exact .error _

theorem combineCallbacks_unseen :
    Moves sight (frame.combineCallbacks store) (frame.combineCallbacks other) := by
  refine .bind _ fun popped _ => ?_
  rcases popped with ⟨first, second, rest⟩
  simp only [Store.combine, resembles.nextCallback_eq]
  rcases Value.combine store.nextCallback first second with _ | value
  · exact .error _
  · have issued := resembles.issued
    rw [resembles.nextCallback_eq] at issued
    exact .onto issued _

end Sight

variable {scope : Scope}

theorem popAddress_inSight (within : frame.Within scope) {operation : String}
    {popped : Address × Frame} (pops : frame.popAddress operation = .ok popped) :
    scope.places popped.1 := by
  have confined := popAddress_confined within operation
  rw [pops] at confined
  exact confined.1

variable (resembles : store.Resembles scope.places other) (within : frame.Within scope)
include resembles within

theorem compareExchange_unseen : Moves scope.places (frame.compareExchange store)
    (frame.compareExchange other) := by
  refine .bind _ fun popped pops => ?_
  rcases popped with ⟨value, expected, rest⟩
  have confined := popTwo_confined within
  rw [pops] at confined
  refine .bind _ fun placed popsToo => ?_
  rcases placed with ⟨place, rest⟩
  have inSight := popAddress_inSight confined.2.2.within popsToo
  simp only [resembles.slot?_eq place inSight]
  split
  · exact .error _
  · next held _ =>
      split
      · exact .onto (resembles.setSlot place value) _
      · exact .onto resembles _

/-- What an instruction does at once does not depend on what is out of sight. -/
theorem execute_unseen (instruction : Instruction) :
    Moves scope.places (frame.execute store instruction) (frame.execute other instruction) := by
  cases instruction with
  | pop | branchTrue | branchFalse | branchUnequal =>
      exact .bind _ fun popped _ => .ok resembles _
  | dup => exact .bind _ fun popped _ => .bind _ fun pushed _ => .onto resembles _
  | loadNull | loadInt32 | loadInt64 | loadFloat64 | loadString | add | subtract | multiply
  | loadRoutine => exact .onto resembles _
  | loadLocal => exact .bind _ fun value _ => .onto resembles _
  | storeLocal => exact .bind _ fun popped _ => .bind _ fun _ _ => .ok resembles _
  | loadArgument slot =>
      simp only [execute]
      split
      · exact .onto resembles _
      · exact .error _
  | storeDefault type =>
      refine .bind _ fun placed pops => ?_
      exact write_unseen resembles (popAddress_inSight within pops) _ _
  | compareEqual => exact .bind _ fun popped _ => .onto resembles _
  | newCallback => exact newCallback_unseen resembles
  | combineCallbacks => exact combineCallbacks_unseen resembles
  | compareExchange => exact compareExchange_unseen resembles within
  | throw => exact .bind _ fun popped _ => .error _
  | leave target =>
      simp only [execute]
      split
      · exact .error _
      · exact .ok resembles _
  | endFinally => exact .error _
  | branch | nop | ret | loadField | storeField | loadFieldAddress | call | invokeCallback =>
      exact .ok resembles _

end Frame

/-! ### Attempts -/

section Attempts

variable (resembles : store.Resembles sight other)
include resembles

theorem unwind_unseen (trap : Trap) (activations : List Activation) :
    Progress.Resembles sight (unwind store trap activations) (unwind other trap activations) := by
  induction activations generalizing trap with
  | nil => exact .finished resembles _
  | cons activation below ih =>
      cases activation with
      | initializer instantiation => exact .running (resembles.publish _ _) _
      | body frame =>
          simp only [unwind]
          split
          · exact .running resembles _
          · exact ih _
      | targets | call | access => exact ih trap

theorem complete_unseen (result : Option Value) (activations : List Activation) :
    Attempt.Resembles sight (complete store result activations)
      (complete other result activations) := by
  cases activations with
  | nil => exact .returned resembles _
  | cons activation below =>
      cases activation with
      | body frame =>
          simp only [complete, Frame.resume_unseen resembles]
          split
          · exact .running resembles _
          · exact .raised resembles _ _
      | initializer | targets | call | access => exact .running resembles _

theorem entering_unseen (target : BoundRoutine) (parameters : List Value)
    (waiting : List Activation) :
    Attempt.Resembles sight (entering limit store target parameters waiting)
      (entering limit other target parameters waiting) := by
  simp only [entering, Frame.enter_unseen resembles]
  split
  · exact .running resembles _
  · exact .raised resembles _ _

theorem startInitializer_unseen (instantiation : Instantiation) (activations : List Activation) :
    Attempt.Resembles sight (startInitializer limit store instantiation activations)
      (startInitializer limit other instantiation activations) := by
  have same : initializerOf other instantiation = initializerOf store instantiation := by
    simp only [initializerOf, resembles.modules_eq]
  rcases found : initializerOf store instantiation with _ | target
  · simp only [startInitializer, same, found]
    exact .running resembles _
  · rw [startInitializer_eq found, startInitializer_eq (same.trans found)]
    exact entering_unseen resembles _ _ _

/-- Whether a thread may go on does not depend on what is out of sight. -/
theorem acquire_unseen {proceed proceedToo : Store → Attempt}
    (goesOn : ∀ {after afterToo : Store}, after.Resembles sight afterToo →
      Attempt.Resembles sight (proceed after) (proceedToo afterToo)) :
    Attempt.Resembles sight (acquire limit thread store instantiation activations proceed)
      (acquire limit thread other instantiation activations proceedToo) := by
  rcases resembles.ask thread instantiation with
    ⟨trap, fails, failsToo⟩ | ⟨after, afterToo, ticket, asked, askedToo, same⟩
  · simp only [acquire, fails, failsToo]
    exact .raised resembles _ _
  · simp only [acquire, asked, askedToo]
    cases ticket with
    | ready => exact goesOn same
    | run => exact startInitializer_unseen same _ _
    | failed cause =>
        have name : afterToo.typeName instantiation = after.typeName instantiation := by
          simp only [Store.typeName, same.modules_eq]
        simp only [name]
        exact .raised same _ _
    | wait => exact .blocked same _

theorem call_unseen (target : BoundRoutine) (parameters : List Value) :
    Attempt.Resembles sight (call limit thread store target parameters below)
      (call limit thread other target parameters below) := by
  have same : ownerOf other target = ownerOf store target := by
    simp only [ownerOf, resembles.module_eq]
  rcases owned : ownerOf store target with trap | instantiation
  · simp only [call, same, owned]
    exact .raised resembles _ _
  · rw [call_eq owned, call_eq (same.trans owned)]
    exact acquire_unseen resembles fun after => entering_unseen after _ _ _

theorem proceedWith_unseen {moved movedToo : Except Trap (Store × Frame)}
    (moves : Moves sight moved movedToo) :
    Attempt.Resembles sight (proceedWith store frame below moved)
      (proceedWith other frame below movedToo) := by
  cases moves with
  | ok after next => exact .running after _
  | error trap => exact .raised resembles _ _

theorem accessField_unseen {reference : FieldRef}
    (named : ∀ place, frame.address store reference = .ok place → sight place)
    {use : Store → Address → Except Trap (Store × Frame)}
    (uses : ∀ {after afterToo : Store} {place : Address}, after.Resembles sight afterToo →
      sight place → Moves sight (use after place) (use afterToo place)) :
    Attempt.Resembles sight (accessField limit thread store frame below reference use)
      (accessField limit thread other frame below reference use) := by
  rcases located : frame.address store reference with trap | place
  · simp only [accessField, Frame.address_unseen resembles, located]
    exact .raised resembles _ _
  · simp only [accessField, Frame.address_unseen resembles, located]
    refine acquire_unseen resembles fun after => ?_
    exact proceedWith_unseen after (uses after (named place located))

end Attempts

theorem Attempt.Resembles.settle {tried triedToo : Attempt}
    (resembles : Attempt.Resembles sight tried triedToo) :
    Progress.Resembles sight tried.settle triedToo.settle := by
  cases resembles with
  | running same activations => exact .running same activations
  | blocked same activations => exact .blocked same activations
  | returned same result => exact .finished same _
  | raised same trap activations => exact unwind_unseen same trap activations

/-! ### Steps -/

/-- A frame whose values lead only to places in sight, and that names only such places where it
names a field. -/
structure Frame.Overlooks (scope : Scope) (store : Store) (frame : Frame) : Prop where
  within : frame.Within scope
  names : ∀ {instruction : Instruction} {reference : FieldRef} {place : Address},
    frame.instruction? = some instruction →
    instruction = .loadField reference ∨ instruction = .storeField reference ∨
      instruction = .loadFieldAddress reference →
    frame.address store reference = .ok place → scope.places place

section Steps

variable {scope : Scope} (resembles : store.Resembles scope.places other)
include resembles

/-- What an instruction of a frame leads to does not depend on what is out of sight. -/
theorem stepBody_unseen (overlooks : frame.Overlooks scope store) {instruction : Instruction}
    (current : frame.instruction? = some instruction) :
    Attempt.Resembles scope.places (stepBody limit thread store frame below instruction)
      (stepBody limit thread other frame below instruction) := by
  have immediate : Attempt.Resembles scope.places
      (proceedWith store frame below (frame.execute store instruction))
      (proceedWith other frame below (frame.execute other instruction)) :=
    proceedWith_unseen resembles (Frame.execute_unseen resembles overlooks.within instruction)
  cases instruction with
  | loadField reference =>
      refine accessField_unseen resembles
        (fun place located => overlooks.names current (.inl rfl) located) ?_
      intro after afterToo place same inSight
      rw [Frame.read_unseen same inSight]
      exact .bind _ fun value _ => .onto same _
  | loadFieldAddress reference =>
      refine accessField_unseen resembles
        (fun place located => overlooks.names current (.inr (.inr rfl)) located) ?_
      exact fun same _ => .onto same _
  | storeField reference =>
      simp only [stepBody]
      rcases frame.pop with trap | ⟨value, rest⟩
      · exact .raised resembles _ _
      · refine accessField_unseen resembles
          (fun place located => overlooks.names current (.inr (.inl rfl)) located) ?_
        exact fun same inSight => Frame.write_unseen same inSight _ _
  | call reference =>
      have prepares : prepareCall other frame reference = prepareCall store frame reference := by
        simp only [prepareCall, resembles.module_eq]
      simp only [stepBody, prepares]
      split
      · exact .raised resembles _ _
      · exact .running resembles _
  | invokeCallback =>
      simp only [stepBody]
      split
      · exact .raised resembles _ _
      · exact .running resembles _
  | ret =>
      simp only [stepBody]
      split
      · exact .raised resembles _ _
      · exact complete_unseen resembles _ _
  | _ => exact immediate

/-- What a step of a thread leads to does not depend on what is out of sight, and neither does what
it leaves in sight. -/
theorem step_unseen
    (overlooks : ∀ frame, .body frame ∈ activations → frame.Overlooks scope store) :
    Progress.Resembles scope.places (step limit thread store activations)
      (step limit thread other activations) := by
  suffices attempts : Attempt.Resembles scope.places (attempt limit thread store activations)
      (attempt limit thread other activations) from attempts.settle
  cases activations with
  | nil => exact .returned resembles _
  | cons activation below =>
      cases activation with
      | initializer instantiation => exact .running (resembles.publish _ _) _
      | targets listed =>
          cases listed with
          | nil => exact complete_unseen resembles _ _
          | cons target further => exact .running resembles _
      | call target parameters => exact call_unseen resembles _ _
      | access instantiation =>
          exact acquire_unseen resembles fun same => complete_unseen same _ _
      | body frame =>
          have known := overlooks frame (List.mem_cons_self ..)
          rcases current : frame.instruction? with _ | instruction
          · simp only [attempt, current]
            exact .raised resembles _ _
          · simp only [attempt, current]
            exact stepBody_unseen resembles known current

end Steps

end Rekindle.Machine
