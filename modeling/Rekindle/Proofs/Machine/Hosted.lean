import Rekindle.Proofs.Machine.Balance

/-!
# Heights while a host works

Whatever a host asks of modules that it could load, the operands of every frame are as many as the
check of the module found for the current instruction. So no instruction misses an operand, a local,
an argument or a result, and control stays in the bodies.
-/

namespace Rekindle.Machine

open Validity

/-- The stores of a host that has loaded modules, called routines and used fields. -/
inductive Reached (limits : Limits) : Store → Prop where
  | fresh : Reached limits .empty
  | loaded {store after module handle} (before : Reached limits store)
      (loads : store.load module = .ok (after, handle)) : Reached limits after
  | invoked {store after steps handle routine arguments parameters result}
      (before : Reached limits store)
      (invokes : store.invoke limits steps handle routine arguments parameters =
        some (after, result)) : Reached limits after
  | readField {store after steps handle field arguments result} (before : Reached limits store)
      (reads : store.readField limits steps handle field arguments = some (after, result)) :
      Reached limits after
  | wroteField {store after steps handle field arguments value result}
      (before : Reached limits store)
      (writes : store.writeField limits steps handle field arguments value =
        some (after, result)) : Reached limits after
  | madeCallback {store} (before : Reached limits store) (targets : List BoundRoutine) :
      Reached limits (store.newCallback targets).1

/-- The states of a thread while it works for a host, where other threads may change everything but
the loaded modules between its steps. -/
inductive During (limits : Limits) (thread : ThreadId) : Store → List Activation → Prop where
  | invoking {store handle routine arguments target} (before : Reached limits store)
      (allowed : store.hostTarget handle routine arguments = .ok target)
      (parameters : List Value) : During limits thread store [.call target parameters]
  | usingField {store handle field arguments address} (before : Reached limits store)
      (allowed : store.hostAddress handle field arguments = .ok address) :
      During limits thread store [.access address.instantiation]
  | stepping {store activations after next} (before : During limits thread store activations)
      (steps : step limits.callDepth thread store activations = .running after next) :
      During limits thread after next
  | waiting {store activations after next} (before : During limits thread store activations)
      (steps : step limits.callDepth thread store activations = .blocked after next) :
      During limits thread after next
  | meanwhile {store activations after} (before : During limits thread store activations)
      (kept : after.modules = store.modules) : During limits thread after activations

theorem useField_modules {α : Type} {store : Store} {limits : Limits} {steps : Nat} {handle : ModuleHandle}
    {field : FieldId} {arguments : List ValueType}
    {use : Store → Address → Except Trap (Store × α)} {after : Store} {result : Except Trap α}
    (passed : AllPassed store.modules)
    (keeps : ∀ (before : Store) (address : Address) (result : Store × α),
      use before address = .ok result → result.1.modules = before.modules)
    (used : store.useField limits steps handle field arguments use = some (after, result)) :
    after.modules = store.modules := by
  unfold Store.useField at used
  rcases allowed : store.hostAddress handle field arguments with trap | address
  · rw [allowed] at used
    cases used
    rfl
  · simp only [allowed] at used
    rcases ran : run limits.callDepth hostThread steps store [.access address.instantiation] with
      _ | ⟨ready, outcome⟩
    · simp [ran] at used
    · have loaded := run_keeps passed rfl (.access .done) ran
      rcases outcome with trap | value
      · simp only [ran] at used
        cases used
        exact loaded
      · simp only [ran] at used
        rcases using_ : use ready address with trap | ⟨last, given⟩
        · simp only [using_] at used
          cases used
          exact loaded
        · simp only [using_] at used
          cases used
          exact (keeps _ _ _ using_).trans loaded

/-- A host can only load modules that pass the check, and nothing it asks for changes them. -/
theorem Reached.allPassed {limits : Limits} {store : Store} (reached : Reached limits store) :
    AllPassed store.modules := by
  induction reached with
  | fresh =>
      intro position module here
      simp [Store.empty] at here
  | loaded before loads ih => exact ih.load loads
  | @invoked store after steps handle routine arguments parameters result before invokes ih =>
      suffices kept : after.modules = store.modules by rwa [kept]
      unfold Store.invoke at invokes
      rcases allowed : store.hostTarget handle routine arguments with trap | target
      · rw [allowed] at invokes
        cases invokes
        rfl
      · rw [allowed] at invokes
        rcases exists_given store.modules target with ⟨given, gives⟩
        exact run_keeps ih rfl (.call .done gives) invokes
  | @readField store after steps handle field arguments result before reads ih =>
      suffices kept : after.modules = store.modules by rwa [kept]
      refine useField_modules ih (fun ready address result used => ?_) reads
      split at used <;> cases used
      rfl
  | @wroteField store after steps handle field arguments value result before writes ih =>
      suffices kept : after.modules = store.modules by rwa [kept]
      refine useField_modules ih (fun ready address result used => ?_) writes
      split at used <;> cases used
      rfl
  | madeCallback before targets ih => exact ih

/-- While a thread works for a host, every frame has the right height. -/
theorem During.sound {limits : Limits} {thread : ThreadId} {store : Store}
    {activations : List Activation} (during : During limits thread store activations) :
    AllPassed store.modules ∧ Sound store.modules .nothing activations := by
  induction during with
  | @invoking store handle routine arguments target before allowed parameters =>
      rcases exists_given store.modules target with ⟨given, gives⟩
      exact ⟨before.allPassed, .call .done gives⟩
  | usingField before allowed => exact ⟨before.allPassed, .access .done⟩
  | stepping before steps ih =>
      have keeps := step_keeps limits.callDepth thread ih.1 rfl ih.2
      rw [steps] at keeps
      exact ⟨keeps.1 ▸ ih.1, keeps.1 ▸ keeps.2⟩
  | waiting before steps ih =>
      have keeps := step_keeps limits.callDepth thread ih.1 rfl ih.2
      rw [steps] at keeps
      exact ⟨keeps.1 ▸ ih.1, keeps.1 ▸ keeps.2⟩
  | meanwhile before kept ih => exact kept ▸ ih

/-- Whatever a host asks of modules that it could load, a frame that executes an instruction has the
one height that the check found for it, and no instruction raises a trap because an operand, a
local, an argument or a result is missing or because control has left the body. -/
theorem During.heights_hold {limits : Limits} {thread : ThreadId} {store : Store}
    {activations : List Activation} (during : During limits thread store activations) :
    (∀ frame below, activations = .body frame :: below → ∃ module routine heights,
      store.modules[frame.module.position]? = some module ∧
        module.routine? frame.routine = some routine ∧ routine.body = some frame.body ∧
        stackHeights module (module.routineName frame.routine) routine frame.body =
          .ok heights ∧
        heights[frame.position]? = some (some frame.operands.height)) ∧
      ∀ after trap below, attempt limits.callDepth thread store activations =
        .raised after trap below → trap.isStackFault = false := by
  rcases during.sound with ⟨passed, sound⟩
  constructor
  · rintro frame below rfl
    cases sound with
    | executing level others =>
        rcases level with ⟨module, routine, heights, executes, level⟩
        refine ⟨module, routine, heights, executes.loaded, executes.declared, executes.hasBody,
          executes.found, ?_⟩
        unfold heightAt at level
        rcases entry : heights[frame.position]? with _ | height
        · simp [entry] at level
        · rw [entry] at level
          exact congrArg some level
  · intro after trap below attempted
    have keeps := attempt_keeps limits.callDepth thread passed rfl sound
    rw [attempted] at keeps
    exact keeps.2.1

/-! ### A body that catches -/

namespace Catcher

/-- A body that throws a number, catches it and drops it. -/
def body : Body where
  zeroesLocals := false
  locals := []
  instructions := #[.loadInt32 7, .throw, .pop, .ret]
  handlers := [{ kind := .catching, tryStart := 0, tryEnd := 2, handlerStart := 2, handlerEnd := 4 }]

def module : Module where
  name := "app"
  identity := Vector.replicate 16 0
  references := []
  types := #[{ TypeDecl.named "Program" with routines := [⟨0⟩] }]
  fields := #[]
  routines := #[RoutineDecl.static "main" .void body]
  topLevel := [⟨0⟩]

def store : Store := { Store.empty with modules := #[module] }

def target : BoundRoutine where
  module := ⟨0⟩
  routine := ⟨0⟩
  arguments := []

/-- The execution of the body at an instruction. -/
def frame (position : Nat) (operands : List Value) : Frame where
  module := ⟨0⟩
  routine := ⟨0⟩
  name := "Program::main"
  body
  returns := false
  arguments := []
  parameters := #[]
  locals := #[]
  operands := ⟨operands⟩
  position

/-- The store while the type of the routine is initialized, or when it has been. -/
def storeWith (status : Status Trap) : Store :=
  { store with
    storages := [({ module := ⟨0⟩, type := ⟨0⟩, arguments := [] }, { slots := #[], status })] }

theorem during_call : During {} hostThread store [.call target []] := by
  have loads : Store.empty.load module = .ok (store, ⟨0⟩) := by cbv
  have allowed : store.hostTarget ⟨0⟩ ⟨0⟩ [] = .ok target := by cbv
  exact .invoking (.loaded .fresh loads) allowed []

theorem during_handler :
    During {} hostThread (storeWith .done) [.body (frame 2 [.int32 7])] := by
  have ready : During {} hostThread (storeWith .done) [.call target []] :=
    .stepping (.stepping during_call (by rfl : _ = Progress.running (storeWith (.running hostThread))
      [.initializer ⟨⟨0⟩, ⟨0⟩, []⟩, .call target []])) rfl
  have entered : During {} hostThread (storeWith .done) [.body (frame 0 [])] :=
    .stepping ready rfl
  have throwing : During {} hostThread (storeWith .done) [.body (frame 1 [.int32 7])] :=
    .stepping entered rfl
  exact .stepping throwing rfl

end Catcher

/-- Where the handler of the example starts, the thrown value is the one operand, as the check
found. -/
theorem heights_hold_in_handler :
    ∃ heights, stackHeights Catcher.module "Program::main"
      (RoutineDecl.static "main" .void Catcher.body) Catcher.body = .ok heights ∧
        heights[2]? = some (some 1) := by
  have holds := (During.heights_hold Catcher.during_handler).1 _ _ rfl
  rcases holds with ⟨module, routine, heights, loaded, declared, hasBody, found, level⟩
  cases loaded
  cases declared
  exact ⟨heights, found, level⟩

end Rekindle.Machine
