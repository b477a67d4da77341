import Mathlib.Logic.Relation
import Rekindle.Machine.Host
import Rekindle.Proofs.Machine.Storage

/-!
# What steps change

A step of a thread changes the store in four ways only: it asks for an instantiation, makes known
how an initializer has ended, puts a value into a slot, or gives out the identity of a callback.
Whatever these leave true is true of every store that a machine comes to.
-/

namespace Rekindle.Machine

open Fallible

/-- The store that an attempt leads to. -/
def Attempt.store : Attempt → Store
  | .running store _ | .blocked store _ | .returned store _ | .raised store _ _ => store

/-- The store that a step leads to. -/
def Progress.store : Progress → Store
  | .running store _ | .blocked store _ | .finished store _ => store

namespace Store

/-- One change of the store by a thread. -/
inductive Change (thread : ThreadId) : Store → Store → Prop where
  | ask {store after : Store} {instantiation : Instantiation} {ticket : Ticket Trap}
      (asks : store.ask thread instantiation = .ok (after, ticket)) : Change thread store after
  | publish (store : Store) (instantiation : Instantiation) (outcome : Except Trap Unit) :
      Change thread store (store.publish instantiation outcome)
  | setSlot (store : Store) (place : Address) (value : Value) :
      Change thread store (store.setSlot place value)
  | issue (store : Store) :
      Change thread store { store with nextCallback := store.nextCallback + 1 }

abbrev Changes (thread : ThreadId) : Store → Store → Prop :=
  Relation.ReflTransGen (Change thread)

variable {thread : ThreadId} {store after : Store}

theorem Change.modules_eq (change : Change thread store after) : after.modules = store.modules := by
  cases change with
  | ask asks =>
      rcases ask_ok asks with ⟨storage, asked⟩
      exact asked.modules_eq
  | publish | setSlot | issue => rfl

theorem Changes.modules_eq (changes : Changes thread store after) :
    after.modules = store.modules := by
  induction changes with
  | refl => rfl
  | tail _ last ih => exact last.modules_eq.trans ih

/-- Threads ask for no garbage pass. -/
theorem Change.garbagePasses_eq (change : Change thread store after) :
    after.garbagePasses = store.garbagePasses := by
  cases change with
  | ask asks =>
      rcases bind_eq_ok_iff.mp asks with ⟨⟨grown, storage⟩, demanded, told⟩
      cases told
      rcases demand_ok demanded with ⟨_, rfl⟩ | ⟨_, _, _, _, _, _, rfl⟩ <;> rfl
  | publish | setSlot | issue => rfl

theorem Changes.garbagePasses_eq (changes : Changes thread store after) :
    after.garbagePasses = store.garbagePasses := by
  induction changes with
  | refl => rfl
  | tail _ last ih => exact last.garbagePasses_eq.trans ih

end Store

open Store

variable {thread : ThreadId} {store after : Store} {frame next : Frame}

/-! ### Frames -/

/-- A computation that leaves the store with changes of a thread at most, if it succeeds. -/
def Leaves (thread : ThreadId) (store : Store) (computation : Except Trap (Store × Frame)) : Prop :=
  ∀ after frame, computation = .ok (after, frame) → Changes thread store after

namespace Leaves

theorem bind {α : Type} {first : Except Trap α} {next : α → Except Trap (Store × Frame)}
    (goesOn : ∀ value, Leaves thread store (next value)) : Leaves thread store (first >>= next) := by
  intro after frame succeeds
  rcases bind_eq_ok_iff.mp succeeds with ⟨value, _, succeeds⟩
  exact goesOn value after frame succeeds

theorem error (trap : Trap) : Leaves thread store (.error trap) := nofun

theorem ok (changes : Changes thread store after) (frame : Frame) :
    Leaves thread store (.ok (after, frame)) := by
  rintro _ _ ⟨⟩
  exact changes

theorem still (frame : Frame) : Leaves thread store (.ok (store, frame)) := ok .refl frame

theorem onto (changes : Changes thread store after) (moves : Except Trap Frame) :
    Leaves thread store (moves >>= fun frame => pure (after, frame)) :=
  bind fun frame => ok changes frame

end Leaves

namespace Frame

theorem newCallback_leaves (frame : Frame) (store : Store) :
    Leaves thread store (frame.newCallback store) := by
  refine .bind fun ⟨target, pointer, rest⟩ => ?_
  dsimp only
  split
  · exact .onto (.single (.issue store)) _
  · exact .error _
  · exact .error _

theorem combineCallbacks_leaves (frame : Frame) (store : Store) :
    Leaves thread store (frame.combineCallbacks store) := by
  refine .bind fun ⟨first, second, rest⟩ => ?_
  dsimp only
  split
  · rename_i grown combined made
    simp only [Store.combine, Option.map_eq_some_iff, Prod.mk.injEq] at made
    rcases made with ⟨_, _, rfl, _⟩
    exact .onto (.single (.issue store)) _
  · exact .error _

theorem compareExchange_leaves (frame : Frame) (store : Store) :
    Leaves thread store (frame.compareExchange store) := by
  refine .bind fun ⟨value, expected, rest⟩ => .bind fun ⟨place, rest⟩ => ?_
  dsimp only
  split
  · exact .error _
  · split
    · exact .onto (.single (.setSlot store place value)) _
    · exact .onto .refl _

theorem write_changes {place : Address} {value : Value} (writes : store.write place value = .ok after) :
    Changes thread store after := by
  unfold Store.write at writes
  split at writes
  · cases writes
    exact .single (.setSlot store place value)
  · cases writes

theorem execute_leaves (frame : Frame) (store : Store) (instruction : Instruction) :
    Leaves thread store (frame.execute store instruction) := by
  cases instruction with
  | pop => exact .bind fun _ => .still _
  | dup => exact .bind fun _ => .bind fun _ => .onto .refl _
  | loadNull | loadInt32 | loadInt64 | loadFloat64 | loadString | loadRoutine =>
      exact .onto .refl _
  | loadLocal => exact .bind fun _ => .onto .refl _
  | storeLocal => exact .bind fun _ => .bind fun _ => .still _
  | loadArgument slot =>
      simp only [execute]
      split
      · exact .onto .refl _
      · exact .error _
  | storeDefault type =>
      refine .bind fun ⟨place, rest⟩ => ?_
      intro after frame succeeds
      rcases bind_eq_ok_iff.mp succeeds with ⟨written, writes, made⟩
      cases made
      exact write_changes writes
  | add | subtract | multiply => exact .onto .refl _
  | compareEqual => exact .bind fun _ => .onto .refl _
  | branch | nop | ret | loadField | storeField | loadFieldAddress | call | invokeCallback =>
      exact .still _
  | branchTrue | branchFalse | branchUnequal => exact .bind fun _ => .still _
  | newCallback => exact newCallback_leaves frame store
  | combineCallbacks => exact combineCallbacks_leaves frame store
  | compareExchange => exact compareExchange_leaves frame store
  | throw => exact .bind fun _ => .error _
  | leave =>
      simp only [execute]
      split
      · exact .error _
      · exact .still _
  | endFinally => exact .error _

end Frame

/-! ### Attempts -/

section Attempts

variable {activations below : List Activation} {instantiation : Instantiation}

theorem unwind_changes (thread : ThreadId) (store : Store) (trap : Trap)
    (activations : List Activation) :
    Changes thread store (unwind store trap activations).store := by
  induction activations generalizing trap with
  | nil => exact .refl
  | cons activation below ih =>
      cases activation with
      | body frame =>
          simp only [unwind]
          split
          · exact .refl
          · exact ih _
      | initializer instantiation => exact .single (.publish store instantiation _)
      | targets | call | access => exact ih trap

theorem complete_store (store : Store) (result : Option Value) (activations : List Activation) :
    (complete store result activations).store = store := by
  unfold complete
  split
  · rfl
  · split <;> rfl
  · rfl

theorem startInitializer_store (limit : Nat) (store : Store) (instantiation : Instantiation)
    (activations : List Activation) :
    (startInitializer limit store instantiation activations).store = store := by
  simp only [startInitializer]
  split
  · rfl
  · split <;> rfl

theorem acquire_changes (limit : Nat) (store : Store) (instantiation : Instantiation)
    (activations : List Activation) {proceed : Store → Attempt}
    (proceeds : ∀ ready, Changes thread ready (proceed ready).store) :
    Changes thread store (acquire limit thread store instantiation activations proceed).store := by
  unfold acquire
  split
  · exact .refl
  · rename_i ready asks
    exact (Relation.ReflTransGen.single (.ask asks)).trans (proceeds ready)
  · rename_i asked asks
    rw [startInitializer_store]
    exact .single (.ask asks)
  · rename_i asks
    exact .single (.ask asks)
  · rename_i asks
    exact .single (.ask asks)

theorem proceedWith_changes {moved : Except Trap (Store × Frame)} (leaves : Leaves thread store moved)
    (frame : Frame) (below : List Activation) :
    Changes thread store (proceedWith store frame below moved).store := by
  rcases moved with trap | ⟨after, next⟩
  · exact .refl
  · exact leaves after next rfl

theorem accessField_changes (limit : Nat) (store : Store) (frame : Frame) (below : List Activation)
    (reference : FieldRef) {use : Store → Address → Except Trap (Store × Frame)}
    (leaves : ∀ ready place, Leaves thread ready (use ready place)) :
    Changes thread store (accessField limit thread store frame below reference use).store := by
  unfold accessField
  split
  · exact .refl
  · apply acquire_changes
    intro ready
    exact proceedWith_changes (leaves ready _) frame below

theorem call_changes (limit : Nat) (thread : ThreadId) (store : Store) (target : BoundRoutine)
    (parameters : List Value) (below : List Activation) :
    Changes thread store (call limit thread store target parameters below).store := by
  unfold call
  split
  · exact .refl
  · apply acquire_changes
    intro ready
    split <;> exact .refl

theorem stepBody_changes (limit : Nat) (thread : ThreadId) (store : Store) (frame : Frame)
    (below : List Activation) (instruction : Instruction) :
    Changes thread store (stepBody limit thread store frame below instruction).store := by
  have leaves : Leaves thread store (frame.execute store instruction) :=
    frame.execute_leaves store instruction
  cases instruction with
  | loadField reference =>
      apply accessField_changes
      intro ready place
      exact .bind fun _ => .onto .refl _
  | storeField reference =>
      simp only [stepBody]
      split
      · exact .refl
      · apply accessField_changes
        intro ready place after next succeeds
        rcases bind_eq_ok_iff.mp succeeds with ⟨written, writes, made⟩
        cases made
        exact Frame.write_changes writes
  | loadFieldAddress reference =>
      apply accessField_changes
      intro ready place
      exact .onto .refl _
  | call reference =>
      simp only [stepBody]
      split <;> exact .refl
  | invokeCallback =>
      simp only [stepBody]
      split <;> exact .refl
  | ret =>
      simp only [stepBody]
      split
      · exact .refl
      · rw [complete_store]
  | _ => exact proceedWith_changes leaves frame below

theorem attempt_changes (limit : Nat) (thread : ThreadId) (store : Store)
    (activations : List Activation) :
    Changes thread store (attempt limit thread store activations).store := by
  cases activations with
  | nil => exact .refl
  | cons activation below =>
      cases activation with
      | body frame =>
          simp only [attempt]
          split
          · exact .refl
          · exact stepBody_changes limit thread store frame below _
      | initializer instantiation => exact .single (.publish store instantiation _)
      | targets targets =>
          cases targets with
          | nil => rw [attempt, complete_store]
          | cons target others => exact .refl
      | call target parameters => exact call_changes limit thread store target parameters below
      | access instantiation =>
          apply acquire_changes
          intro ready
          rw [complete_store]

theorem step_changes (limit : Nat) (thread : ThreadId) (store : Store)
    (activations : List Activation) :
    Changes thread store (step limit thread store activations).store := by
  have attempted := attempt_changes limit thread store activations
  rw [step]
  generalize attempt limit thread store activations = attempt at attempted
  cases attempt with
  | running | blocked | returned => exact attempted
  | raised after trap activations => exact attempted.trans (unwind_changes thread after trap _)

theorem run_changes {limit steps : Nat} {activations : List Activation}
    {result : Except Trap (Option Value)}
    (runs : run limit thread steps store activations = some (after, result)) :
    Changes thread store after := by
  induction steps generalizing store activations with
  | zero => cases runs
  | succ steps ih =>
      have stepped := step_changes limit thread store activations
      simp only [run] at runs
      rcases progress : step limit thread store activations with
        ⟨middle, next⟩ | ⟨middle, next⟩ | ⟨last, ended⟩
      · rw [progress] at stepped runs
        exact stepped.trans (ih runs)
      · rw [progress] at runs
        cases runs
      · rw [progress] at stepped runs
        cases runs
        exact stepped

end Attempts

/-! ### Stores that occur -/

/-- The stores that a machine comes to. It loads modules, a host writes slots, gets callbacks and
asks for garbage passes, and any number of threads take steps, whatever they are doing. -/
inductive Store.Occurs : Store → Prop where
  | fresh : Occurs .empty
  | loaded {store after : Store} {module : Module} {handle : ModuleHandle} (before : Occurs store)
      (loads : store.load module = .ok (after, handle)) : Occurs after
  | stepped {store : Store} (before : Occurs store) (limit : Nat) (thread : ThreadId)
      (activations : List Activation) : Occurs (step limit thread store activations).store
  | wrote {store : Store} (before : Occurs store) (place : Address) (value : Value) :
      Occurs (store.setSlot place value)
  | madeCallback {store : Store} (before : Occurs store) (targets : List BoundRoutine) :
      Occurs (store.newCallback targets).1
  | collected {store : Store} (before : Occurs store) : Occurs store.collectGarbage

theorem Store.Occurs.run (occurs : store.Occurs) {limit steps : Nat}
    {activations : List Activation} {result : Except Trap (Option Value)}
    (runs : run limit thread steps store activations = some (after, result)) : after.Occurs := by
  induction steps generalizing store activations with
  | zero => cases runs
  | succ steps ih =>
      have stepped := occurs.stepped limit thread activations
      rw [Machine.run] at runs
      rcases first : step limit thread store activations with
        ⟨middle, next⟩ | ⟨middle, next⟩ | ⟨last, ended⟩
      · simp only [first] at runs stepped
        exact ih stepped runs
      · simp only [first] at runs
        cases runs
      · simp only [first, Option.some.injEq, Prod.mk.injEq] at runs
        rcases runs with ⟨rfl, _⟩
        rw [first] at stepped
        exact stepped

/-- Every storage is that of a declared type of a loaded module, with a slot for each field that
the type lists. -/
def Store.Formed (store : Store) : Prop :=
  ∀ instantiation storage, store.storage? instantiation = some storage →
    ∃ module type, store.modules[instantiation.module.position]? = some module ∧
      module.type? instantiation.type = some type ∧ storage.slots.size = type.fields.length

namespace Store

theorem Formed.update (formed : store.Formed) (instantiation : Instantiation)
    {change : Storage → Storage}
    (keeps : ∀ storage, (change storage).slots.size = storage.slots.size) :
    (store.updateStorage instantiation change).Formed := by
  intro other storage found
  rw [storage?_updateStorage] at found
  split at found
  · rename_i same
    subst same
    rcases Option.map_eq_some_iff.mp found with ⟨before, present, rfl⟩
    rw [keeps]
    exact formed other before present
  · exact formed other storage found

theorem Formed.asked (formed : store.Formed) {instantiation : Instantiation} {ticket : Ticket Trap}
    (asks : store.ask thread instantiation = .ok (after, ticket)) : after.Formed := by
  rcases ask_ok asks with ⟨asked, told⟩
  intro other storage found
  rw [told.storage?_eq] at found
  rw [told.modules_eq]
  split at found
  · rename_i same
    subst same
    cases found
    rcases told.storage_eq with present | ⟨_, module, type, loaded, declared, fresh⟩
    · exact formed other asked present
    · refine ⟨module, type, loaded, declared, ?_⟩
      simp [fresh, freshStorage]
  · exact formed other storage found

theorem Formed.change (formed : store.Formed) (change : Change thread store after) :
    after.Formed := by
  cases change with
  | ask asks => exact formed.asked asks
  | publish instantiation outcome =>
      exact Formed.update formed instantiation fun _ => rfl
  | setSlot place value =>
      apply formed.update
      intro storage
      simp
  | issue => exact formed

theorem Formed.changes (formed : store.Formed) (changes : Changes thread store after) :
    after.Formed := by
  induction changes with
  | refl => exact formed
  | tail _ last ih => exact ih.change last

theorem Formed.load (formed : store.Formed) {module : Module} {handle : ModuleHandle}
    (loads : store.load module = .ok (after, handle)) : after.Formed := by
  rcases load_ok loads with ⟨_, rfl, _⟩
  intro instantiation storage found
  rcases formed instantiation storage found with ⟨other, type, loaded, declared, size⟩
  exact ⟨other, type, getElem?_push loaded module, declared, size⟩

theorem Occurs.formed (occurs : store.Occurs) : store.Formed := by
  induction occurs with
  | fresh => nofun
  | loaded _ loads ih => exact ih.load loads
  | stepped _ limit thread activations ih =>
      exact ih.changes (step_changes limit thread _ activations)
  | wrote _ place value ih => exact ih.change (Change.setSlot _ place value : Change hostThread _ _)
  | madeCallback _ targets ih => exact ih
  | collected _ ih => exact ih

/-- Nothing of a module that is not loaded has storage. -/
theorem Occurs.storage?_of_unloaded (occurs : store.Occurs) {instantiation : Instantiation}
    (unloaded : store.modules.size ≤ instantiation.module.position) :
    store.storage? instantiation = none := by
  by_contra present
  rcases Option.ne_none_iff_exists'.mp present with ⟨storage, found⟩
  rcases occurs.formed instantiation storage found with ⟨_, _, loaded, _⟩
  rw [Array.getElem?_eq_none unloaded] at loaded
  cases loaded

end Store

end Rekindle.Machine
