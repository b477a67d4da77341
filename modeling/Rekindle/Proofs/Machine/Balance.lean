import Rekindle.Machine.Host
import Rekindle.Proofs.Machine.Safe
import Rekindle.Proofs.Validity.Valid

/-!
# Running balanced bodies

A thread whose modules passed the check never takes an operand that is not there. The frame on top
has the height that the check found for its current instruction; a frame that called something has
that height without what the call took; and a frame under the initialization of a type it needs is
about to try its instruction again. A trap that is caught leads to the start of a handler, whose
height the check assumed.
-/

namespace Rekindle.Machine

open Fallible Validity

/-- A frame that executes a routine of a loaded module that passed the check. The heights are those
that the check found. -/
structure Frame.Executes (modules : Array Module) (frame : Frame) (module : Module)
    (routine : RoutineDecl) (heights : Array (Option Nat)) : Prop where
  loaded : modules[frame.module.position]? = some module
  passed : checkModule module = .ok ()
  declared : module.routine? frame.routine = some routine
  hasBody : routine.body = some frame.body
  returns_eq : frame.returns = routine.returns
  parameterCount : frame.parameters.size = routine.parameters.length
  localCount : frame.locals.size = frame.body.locals.length
  found : stackHeights module (module.routineName frame.routine) routine frame.body = .ok heights

namespace Frame

variable {modules : Array Module} {frame after : Frame} {module : Module} {routine : RoutineDecl}
  {heights : Array (Option Nat)} {position height : Nat}

theorem Executes.moved (executes : Executes modules frame module routine heights)
    (moved : Moved frame after position height) :
    Executes modules after module routine heights where
  loaded := moved.module_eq ▸ executes.loaded
  passed := executes.passed
  declared := moved.routine_eq ▸ executes.declared
  hasBody := moved.body_eq ▸ executes.hasBody
  returns_eq := moved.returns_eq.trans executes.returns_eq
  parameterCount := moved.parameters_eq ▸ executes.parameterCount
  localCount := by rw [moved.localCount, executes.localCount, moved.body_eq]
  found := by rw [moved.routine_eq, moved.body_eq, executes.found]

theorem Executes.bodyFits (executes : Executes modules frame module routine heights) :
    ∃ arity, BodyFits module arity routine frame.body := by
  have valid := checkModule_eq_ok_iff.mp executes.passed
  rcases valid.routines _ _ executes.declared with ⟨owner, _, _, _, bodies⟩
  exact ⟨owner.arity, bodies _ executes.hasBody⟩

/-- An instruction with a height is there and finds what it needs. -/
theorem Executes.instruction (executes : Executes modules frame module routine heights)
    (level : heightAt heights frame.position = some height) :
    ∃ instruction, frame.instruction? = some instruction ∧ frame.Names instruction ∧
      Agrees module (resultHeight routine) (heightAt heights) instruction frame.position
        height := by
  rcases (stackHeights_ok executes.found).coherent _ _ level with ⟨instruction, current, agrees⟩
  refine ⟨instruction, current, ?_, agrees⟩
  rcases executes.bodyFits with ⟨arity, fits⟩
  have listed : instruction ∈ frame.body.instructions.toList := by
    rcases Array.getElem?_eq_some_iff.mp current with ⟨inside, rfl⟩
    exact Array.getElem_mem_toList inside
  have operand := (fits.instructions instruction listed).operand
  cases instruction with
  | loadLocal slot | storeLocal slot => exact Nat.lt_of_lt_of_eq operand executes.localCount.symm
  | loadArgument slot => exact Nat.lt_of_lt_of_eq operand executes.parameterCount.symm
  | _ => trivial

/-- A frame at an instruction for which the check found a height. -/
def AtHeight (modules : Array Module) (frame : Frame) (height : Nat) : Prop :=
  ∃ module routine heights, Executes modules frame module routine heights ∧
    heightAt heights frame.position = some height

/-- A frame that waits for what its current instruction called, which gives a value or not. -/
def Awaits (modules : Array Module) (frame : Frame) (given : Bool) : Prop :=
  ∃ module routine heights instruction, Executes modules frame module routine heights ∧
    frame.instruction? = some instruction ∧
    heightAt heights frame.position =
      some (frame.operands.height + pops module instruction) ∧
    (instruction = .invokeCallback ∨ ∃ reference, instruction = .call reference ∧
      ∀ callee, module.routine? reference.routine = some callee → callee.returns = given)

end Frame

/-- What the activations below expect of what is above them. -/
inductive Expectation where
  /-- To go on by themselves. -/
  | nothing
  /-- To be handed a result, with a value or not. -/
  | result (given : Bool)

/-- Activations whose frames all have the right height. -/
inductive Sound (modules : Array Module) : Expectation → List Activation → Prop where
  | done {expects} : Sound modules expects []
  | executing {frame below} (level : frame.AtHeight modules frame.operands.height)
      (others : Sound modules (.result frame.returns) below) :
      Sound modules .nothing (.body frame :: below)
  | waiting {frame given below} (waits : frame.Awaits modules given)
      (others : Sound modules (.result frame.returns) below) :
      Sound modules (.result given) (.body frame :: below)
  | initializer {expects instantiation below} (others : Sound modules .nothing below) :
      Sound modules expects (.initializer instantiation :: below)
  | targets {expects targets below} (others : Sound modules (.result false) below) :
      Sound modules expects (.targets targets :: below)
  | call {target parameters given below} (others : Sound modules (.result given) below)
      (gives : ∀ module routine, modules[target.module.position]? = some module →
        module.routine? target.routine = some routine → routine.returns = given) :
      Sound modules .nothing (.call target parameters :: below)
  | access {instantiation below} (others : Sound modules (.result false) below) :
      Sound modules .nothing (.access instantiation :: below)

/-! ### Frames that go on -/

namespace Frame

variable {modules : Array Module} {frame after : Frame} {module : Module} {routine : RoutineDecl}
  {heights : Array (Option Nat)} {store : Store} {instruction : Instruction}

/-- An instruction that arrives somewhere arrives at the height found for that place. -/
theorem Executes.arrives (executes : Executes modules frame module routine heights)
    (agrees : Agrees module (resultHeight routine) (heightAt heights) instruction frame.position
      frame.operands.height)
    {result : Store × Frame} (arrives : Arrives module store frame instruction result) :
    AtHeight modules result.2 result.2.operands.height ∧ result.2.returns = frame.returns := by
  rcases arrives with ⟨_, next, listed, moved⟩
  refine ⟨⟨module, routine, heights, executes.moved moved, ?_⟩, moved.returns_eq⟩
  rw [moved.position_eq, moved.height_eq]
  exact agrees.follows next listed

/-- A frame receives only thrown values, in the first clause that covers where it is, and goes on at
the handler of that clause. -/
theorem receive_ok {trap : Trap} (receives : frame.receive trap = .ok after) :
    ∃ value handler, trap = .thrown value ∧
      frame.body.handlers.find? (·.covers frame.position) = some handler ∧
      handler.kind = .catching ∧
      after = { frame with operands := ⟨[value]⟩ }.jump handler.handlerStart := by
  cases trap with
  | thrown value =>
      simp only [receive] at receives
      split at receives
      · rename_i handler covering
        split at receives
        · rename_i kind
          cases receives
          exact ⟨value, handler, rfl, covering, kind, rfl⟩
        · cases receives
      · cases receives
  | _ => cases receives

/-- A frame that receives a thrown value goes on at the height found for the handler. -/
theorem Executes.receives (executes : Executes modules frame module routine heights) {trap : Trap}
    (receives : frame.receive trap = .ok after) :
    AtHeight modules after after.operands.height ∧ after.returns = frame.returns := by
  rcases receive_ok receives with ⟨value, handler, _, covering, kind, rfl⟩
  have listed : (handler.handlerStart.toNat, 1) ∈ entries frame.body := by
    refine List.mem_append_left _ (List.mem_reverse.mpr (List.mem_map.mpr ?_))
    exact ⟨handler, List.mem_of_find?_eq_some covering, by simp [kind, entryHeight]⟩
  have moved : Moved frame ({ frame with operands := ⟨[value]⟩ }.jump handler.handlerStart)
      handler.handlerStart.toNat 1 := ⟨rfl, rfl, rfl, rfl, rfl, rfl, rfl, rfl, rfl⟩
  exact ⟨⟨module, routine, heights, executes.moved moved,
    (stackHeights_ok executes.found).entered _ listed⟩, rfl⟩

/-- A frame that is handed the result it waits for goes on at the height found for the next
instruction. -/
theorem Awaits.resumes {given : Bool} (waits : Awaits modules frame given)
    (loaded : store.modules = modules) {result : Option Value} (gives : result.isSome = given) :
    Safe (frame.resume store result) fun after =>
      AtHeight modules after after.operands.height ∧ after.returns = frame.returns := by
  rcases waits with ⟨module, routine, heights, instruction, executes, current, level, called⟩
  rcases executes.instruction level with ⟨same, currentAgain, _, agrees⟩
  rw [current] at currentAgain
  cases currentAgain
  have arrived : ∀ {after : Frame} {height : Nat},
      Moved frame after (frame.position + 1) height →
      successors instruction frame.position (frame.operands.height + pushes module instruction) =
        [(frame.position + 1, height)] →
      AtHeight modules after after.operands.height ∧ after.returns = frame.returns := by
    intro after height moved falls
    have follows := agrees.follows
    rw [Nat.add_sub_cancel, falls] at follows
    refine ⟨⟨module, routine, heights, executes.moved moved, ?_⟩, moved.returns_eq⟩
    rw [moved.position_eq, moved.height_eq]
    exact follows _ (List.mem_singleton_self _)
  have still : Moved frame frame frame.position frame.operands.height :=
    ⟨rfl, rfl, rfl, rfl, rfl, rfl, rfl, rfl, rfl⟩
  rcases called with rfl | ⟨reference, rfl, returns⟩
  · simp only [resume, current]
    exact arrived still.advance rfl
  · have loadedHere : store.modules[frame.module.position]? = some module := by
      rw [loaded]
      exact executes.loaded
    simp only [resume, current, calleeReturns, loadedHere]
    rcases found : module.routine? reference.routine with _ | callee
    · exact arrived still.advance (by simp [successors, pushes, found])
    · have gives := gives.trans (returns callee found).symm
      rcases leaves : callee.returns with _ | _
      · simp only [leaves]
        exact arrived still.advance (by simp [successors, pushes, found, leaves])
      · rw [leaves] at gives
        rcases Option.isSome_iff_exists.mp gives with ⟨value, rfl⟩
        simp only [leaves]
        refine (yield_safe value).mono fun after moved => ?_
        exact arrived moved (by simp [successors, pushes, found, leaves])

end Frame

/-! ### Steps -/

/-- An attempt that keeps every frame at the right height, and whose trap is not about operands. -/
def Attempt.Keeps (modules : Array Module) : Attempt → Prop
  | .running store activations | .blocked store activations =>
    store.modules = modules ∧ Sound modules .nothing activations
  | .returned store _ => store.modules = modules
  | .raised store trap activations =>
    store.modules = modules ∧ trap.isStackFault = false ∧ ∃ expects, Sound modules expects activations

/-- A step that keeps every frame at the right height. -/
def Progress.Keeps (modules : Array Module) : Progress → Prop
  | .running store activations | .blocked store activations =>
    store.modules = modules ∧ Sound modules .nothing activations
  | .finished store _ => store.modules = modules

variable {modules : Array Module} {store : Store} {limit : Nat} {thread : ThreadId}
  {activations below : List Activation} {frame : Frame} {instantiation : Instantiation}

theorem unwind_keeps {expects : Expectation} (sound : Sound modules expects activations)
    (loaded : store.modules = modules) (trap : Trap) :
    (unwind store trap activations).Keeps modules := by
  induction sound generalizing trap with
  | done => exact loaded
  | @executing frame below level others ih =>
      simp only [unwind]
      rcases level with ⟨module, routine, heights, executes, _⟩
      rcases receives : frame.receive trap with other | after
      · exact ih other
      · rcases executes.receives receives with ⟨height, returns⟩
        exact ⟨loaded, .executing height (returns ▸ others)⟩
  | @waiting frame given below waits others ih =>
      simp only [unwind]
      rcases waits with ⟨module, routine, heights, _, executes, _⟩
      rcases receives : frame.receive trap with other | after
      · exact ih other
      · rcases executes.receives receives with ⟨height, returns⟩
        exact ⟨loaded, .executing height (returns ▸ others)⟩
  | initializer others => exact ⟨loaded, others⟩
  | targets others ih => exact ih trap
  | call others gives ih => exact ih trap
  | access others ih => exact ih trap

/-- What is handed to those who expect it lets them go on. -/
theorem complete_keeps {given : Bool} (sound : Sound modules (.result given) activations)
    (loaded : store.modules = modules) {result : Option Value} (gives : result.isSome = given) :
    (complete store result activations).Keeps modules := by
  cases sound with
  | done => exact loaded
  | @waiting frame given below waits others =>
      have resumes := waits.resumes loaded gives
      simp only [complete]
      rcases resumed : frame.resume store result with trap | after
      · rw [resumed] at resumes
        exact ⟨loaded, resumes, _, .waiting waits others⟩
      · rw [resumed] at resumes
        exact ⟨loaded, .executing resumes.1 (resumes.2 ▸ others)⟩
  | initializer others => exact ⟨loaded, .initializer others⟩
  | targets others => exact ⟨loaded, .targets others⟩

/-! ### Lookups that fail -/

theorem module_safe (store : Store) (handle : ModuleHandle) :
    Safe (store.module handle) fun module =>
      store.modules[handle.position]? = some module := by
  unfold Store.module
  rcases loaded : store.modules[handle.position]? with _ | module <;> rfl

theorem ask_safe (store : Store) (thread : ThreadId) (instantiation : Instantiation) :
    Safe (store.ask thread instantiation) fun told => told.1.modules = store.modules := by
  have demanding : Safe (store.demand instantiation) fun _ => True := by
    unfold Store.demand
    split
    · trivial
    · refine (module_safe store instantiation.module).bind fun module _ => ?_
      split
      · rfl
      · trivial
  rcases asked : store.ask thread instantiation with trap | ⟨after, ticket⟩
  · rcases bind_eq_error_iff.mp asked with missing | ⟨demanded, _, impossible⟩
    · rwa [missing] at demanding
    · cases impossible
  · rcases Store.ask_ok asked with ⟨storage, told⟩
    exact told.modules_eq

theorem ownerOf_safe (store : Store) (target : BoundRoutine) :
    Safe (ownerOf store target) fun _ => True := by
  refine (module_safe store target.module).bind fun module _ => ?_
  split
  · rfl
  · trivial

theorem address_safe (frame : Frame) (store : Store) (reference : FieldRef) :
    Safe (frame.address store reference) fun _ => True := by
  refine (module_safe store frame.module).bind fun module _ => ?_
  rcases declared : module.field? reference.field with _ | field
  · rfl
  · have placing : Safe (Store.slotOf module reference.field) fun _ => True := by
      simp only [Store.slotOf, declared]
      split <;> trivial
    exact placing.bind fun slot _ => trivial

/-! ### What needs a type to be ready -/

/-- Whether all loaded modules passed the check. -/
def AllPassed (modules : Array Module) : Prop :=
  ∀ (position : Nat) (module : Module),
    modules[position]? = some module → checkModule module = .ok ()

/-- A machine loads only modules that pass the check. -/
theorem AllPassed.load {store after : Store} {module : Module} {handle : ModuleHandle}
    (passed : AllPassed store.modules) (loads : store.load module = .ok (after, handle)) :
    AllPassed after.modules := by
  rcases Store.load_ok loads with ⟨accepted, rfl, _⟩
  intro position other loaded
  rw [Array.getElem?_push] at loaded
  split at loaded
  · cases loaded
    exact accepted
  · exact passed position other loaded

/-- A body starts without operands, which is what the check assumed. -/
theorem start_atHeight {module : Module} {routine : RoutineDecl} {body : Body}
    {target : BoundRoutine} {parameters : List Value}
    (loaded : modules[target.module.position]? = some module)
    (passed : checkModule module = .ok ()) (declared : module.routine? target.routine = some routine)
    (hasBody : routine.body = some body) (count : parameters.length = routine.parameters.length) :
    (Frame.start module target routine body parameters).AtHeight modules 0 := by
  rcases (checkModule_eq_ok_iff.mp passed).routines _ _ declared with ⟨owner, _, _, _, bodies⟩
  rcases (bodies body hasBody).balanced with ⟨wanted, balanced⟩
  rcases stackHeights_succeeds balanced (module.routineName target.routine) with ⟨heights, found⟩
  refine ⟨module, routine, heights, ⟨loaded, passed, declared, hasBody, rfl, ?_, ?_, found⟩, ?_⟩
  · simpa [Frame.start] using count
  · simp [Frame.start]
  · exact (stackHeights_ok found).entered _ (List.mem_append_right _ (List.mem_singleton_self _))

theorem enter_safe (limit : Nat) (passed : AllPassed modules) (loaded : store.modules = modules) (depth : Nat)
    (target : BoundRoutine) (parameters : List Value) :
    Safe (Frame.enter limit depth store target parameters) fun frame =>
      frame.AtHeight modules frame.operands.height ∧
        ∃ module routine, modules[target.module.position]? = some module ∧
          module.routine? target.routine = some routine ∧ routine.returns = frame.returns := by
  unfold Frame.enter
  split
  · rfl
  · unfold Store.module
    rw [loaded]
    rcases here : modules[target.module.position]? with _ | module
    · rfl
    · simp only [ok_bind]
      rcases declared : module.routine? target.routine with _ | routine
      · rfl
      · rcases hasBody : routine.body with _ | body
        · simp only [hasBody]
          rfl
        · by_cases count : parameters.length = routine.parameters.length
          · simp only [hasBody, count, if_true]
            exact ⟨start_atHeight here (passed _ _ here) declared hasBody count,
              module, routine, rfl, declared, rfl⟩
          · simp only [hasBody, count, if_false]
            rfl

theorem startInitializer_keeps (passed : AllPassed modules) (loaded : store.modules = modules)
    (sound : Sound modules .nothing activations) :
    (startInitializer limit store instantiation activations).Keeps modules := by
  unfold startInitializer
  rcases initializerOf store instantiation with _ | target
  · exact ⟨loaded, .initializer sound⟩
  · have entering := enter_safe limit passed loaded (depth activations + 1) target []
    simp only
    rcases entered : Frame.enter limit (depth activations + 1) store target [] with trap | frame
    · rw [entered] at entering
      exact ⟨loaded, entering, .nothing, .initializer sound⟩
    · rw [entered] at entering
      exact ⟨loaded, .executing entering.1 (.initializer sound)⟩

theorem acquire_keeps (passed : AllPassed modules) (loaded : store.modules = modules)
    (sound : Sound modules .nothing activations) {proceed : Store → Attempt}
    (proceeds : ∀ after : Store, after.modules = modules → (proceed after).Keeps modules) :
    (acquire limit thread store instantiation activations proceed).Keeps modules := by
  have asking := ask_safe store thread instantiation
  unfold acquire
  rcases asked : store.ask thread instantiation with trap | ⟨after, ticket⟩
  · rw [asked] at asking
    exact ⟨loaded, asking, _, sound⟩
  · rw [asked] at asking
    have loadedAfter : after.modules = modules := asking.trans loaded
    cases ticket with
    | ready => exact proceeds after loadedAfter
    | run => exact startInitializer_keeps passed loadedAfter sound
    | wait => exact ⟨loadedAfter, sound⟩
    | failed cause => exact ⟨loadedAfter, rfl, _, sound⟩

theorem call_keeps (passed : AllPassed modules) (loaded : store.modules = modules)
    {target : BoundRoutine} {parameters : List Value} {given : Bool}
    (others : Sound modules (.result given) below)
    (gives : ∀ module routine, modules[target.module.position]? = some module →
      module.routine? target.routine = some routine → routine.returns = given) :
    (call limit thread store target parameters below).Keeps modules := by
  unfold call
  rcases owner : ownerOf store target with trap | instantiation
  · have looking := ownerOf_safe store target
    rw [owner] at looking
    exact ⟨loaded, looking, _, others⟩
  · refine acquire_keeps passed loaded (.call others gives) fun after loadedAfter => ?_
    have entering := enter_safe limit passed loadedAfter (depth below + 1) target
      parameters
    rcases entered : Frame.enter limit (depth below + 1) after target parameters with trap | frame
    · rw [entered] at entering
      exact ⟨loadedAfter, entering, _, others⟩
    · rw [entered] at entering
      rcases entering with ⟨level, module, routine, here, declared, returns⟩
      have same := (gives module routine here declared).symm.trans returns
      exact ⟨loadedAfter, .executing level (same ▸ others)⟩

/-- A frame that goes on arrives where the others expect it, or raises a trap in them. -/
theorem proceedWith_keeps (loaded : store.modules = modules)
    (sound : Sound modules .nothing (.body frame :: below))
    {outcome : Except Trap (Store × Frame)}
    (safe : Safe outcome fun result => result.1.modules = modules ∧
      result.2.AtHeight modules result.2.operands.height ∧ result.2.returns = frame.returns) :
    (proceedWith store frame below outcome).Keeps modules := by
  rcases outcome with trap | ⟨after, next⟩
  · exact ⟨loaded, safe, _, sound⟩
  · cases sound with
    | executing level others =>
        rcases safe with ⟨loadedAfter, levelAfter, returns⟩
        exact ⟨loadedAfter, .executing levelAfter (returns ▸ others)⟩

theorem accessField_keeps (passed : AllPassed modules) (loaded : store.modules = modules)
    (sound : Sound modules .nothing (.body frame :: below)) (reference : FieldRef)
    {use : Store → Address → Except Trap (Store × Frame)}
    (safe : ∀ (after : Store) (address : Address), after.modules = modules →
      Safe (use after address) fun result => result.1.modules = modules ∧
        result.2.AtHeight modules result.2.operands.height ∧ result.2.returns = frame.returns) :
    (accessField limit thread store frame below reference use).Keeps modules := by
  unfold accessField
  rcases placed : frame.address store reference with trap | address
  · have placing := address_safe frame store reference
    rw [placed] at placing
    exact ⟨loaded, placing, _, sound⟩
  · exact acquire_keeps passed loaded sound fun after loadedAfter =>
      proceedWith_keeps loadedAfter sound (safe after address loadedAfter)

/-! ### Instructions -/

section Instructions

variable {module : Module} {routine : RoutineDecl} {heights : Array (Option Nat)}
  {instruction : Instruction}

/-- A frame that has handed over what its call takes waits for the result. -/
theorem Frame.Executes.awaits (executes : Frame.Executes modules frame module routine heights)
    (current : frame.instruction? = some instruction)
    (level : heightAt heights frame.position = some frame.operands.height) {rest : Frame}
    {height : Nat} (moved : Frame.Moved frame rest frame.position height)
    (taken : frame.operands.height = height + pops module instruction) {given : Bool}
    (called : instruction = .invokeCallback ∨ ∃ reference, instruction = .call reference ∧
      ∀ callee, module.routine? reference.routine = some callee → callee.returns = given) :
    rest.Awaits modules given := by
  refine ⟨module, routine, heights, instruction, executes.moved moved, ?_, ?_, called⟩
  · rw [Frame.instruction?, moved.body_eq, moved.position_eq]
    exact current
  · rw [moved.position_eq, moved.height_eq, ← taken]
    exact level

theorem stepBody_call_keeps {reference : RoutineRef} (loaded : store.modules = modules)
    (executes : Frame.Executes modules frame module routine heights)
    (current : frame.instruction? = some (.call reference))
    (level : heightAt heights frame.position = some frame.operands.height)
    (enough : pops module (.call reference) ≤ frame.operands.height)
    (others : Sound modules (.result frame.returns) below) :
    (stepBody limit thread store frame below (.call reference)).Keeps modules := by
  have sound : Sound modules .nothing (.body frame :: below) :=
    .executing ⟨module, routine, heights, executes, level⟩ others
  have loadedHere : store.module frame.module = .ok module := by
    simp [Store.module, loaded, executes.loaded]
  rcases declared : module.routine? reference.routine with _ | callee
  · simp only [stepBody, prepareCall, loadedHere, ok_bind, declared, throw_eq_error]
    exact ⟨loaded, rfl, _, sound⟩
  · have takes : pops module (.call reference) = callee.parameters.length := by
      simp [pops, declared]
    rcases Nat.exists_eq_add_of_le' enough with ⟨height, taken⟩
    have popping := Frame.popMany_safe callee.parameters.length (takes ▸ taken)
    simp only [stepBody, prepareCall, loadedHere, ok_bind, declared]
    rcases popped : frame.popMany callee.parameters.length with trap | ⟨parameters, rest⟩
    · rw [popped] at popping
      exact ⟨loaded, popping, _, sound⟩
    · rw [popped] at popping
      have waits : rest.Awaits modules callee.returns := by
        refine executes.awaits current level popping taken (.inr ⟨reference, rfl, ?_⟩)
        intro other declaredAgain
        rw [declared] at declaredAgain
        cases declaredAgain
        rfl
      refine ⟨loaded, .call (.waiting waits (popping.returns_eq ▸ others)) ?_⟩
      · intro other declaredThere here declaredAgain
        have same : some module = some other := executes.loaded.symm.trans here
        cases same
        have sameRoutine : some callee = some declaredThere := declared.symm.trans declaredAgain
        cases sameRoutine
        rfl

theorem stepBody_invokeCallback_keeps (loaded : store.modules = modules)
    (executes : Frame.Executes modules frame module routine heights)
    (current : frame.instruction? = some .invokeCallback)
    (level : heightAt heights frame.position = some frame.operands.height)
    (enough : pops module .invokeCallback ≤ frame.operands.height)
    (others : Sound modules (.result frame.returns) below) :
    (stepBody limit thread store frame below .invokeCallback).Keeps modules := by
  have sound : Sound modules .nothing (.body frame :: below) :=
    .executing ⟨module, routine, heights, executes, level⟩ others
  rcases Nat.exists_eq_add_of_le' enough with ⟨height, taken⟩
  have preparing : Safe (prepareInvoke frame) fun prepared =>
      Frame.Moved frame prepared.2 frame.position height := by
    refine (Frame.pop_safe taken).bind fun popped moved => ?_
    rcases popped with ⟨value, rest⟩
    cases value with
    | callback object => exact moved
    | _ => rfl
  simp only [stepBody]
  rcases prepared : prepareInvoke frame with trap | ⟨targets, rest⟩
  · rw [prepared] at preparing
    exact ⟨loaded, preparing, _, sound⟩
  · rw [prepared] at preparing
    refine ⟨loaded, .targets (.waiting ?_ (preparing.returns_eq ▸ others))⟩
    exact executes.awaits current level preparing taken (.inl rfl)

theorem stepBody_ret_keeps (loaded : store.modules = modules)
    (executes : Frame.Executes modules frame module routine heights)
    (level : heightAt heights frame.position = some frame.operands.height)
    (returns : frame.operands.height = resultHeight routine)
    (others : Sound modules (.result frame.returns) below) :
    (stepBody limit thread store frame below .ret).Keeps modules := by
  have sound : Sound modules .nothing (.body frame :: below) :=
    .executing ⟨module, routine, heights, executes, level⟩ others
  have results : Safe (resultOf frame) fun result => result.isSome = frame.returns := by
    unfold resultOf
    rcases gives : frame.returns with _ | _
    · rfl
    · rw [resultHeight, ← executes.returns_eq, gives] at returns
      have popping : Safe frame.pop fun popped =>
        Frame.Moved frame popped.2 frame.position 0 := Frame.pop_safe returns
      rcases popped : frame.pop with trap | ⟨value, rest⟩
      · rwa [popped] at popping
      · rfl
  simp only [stepBody]
  rcases result : resultOf frame with trap | value
  · rw [result] at results
    exact ⟨loaded, results, _, sound⟩
  · rw [result] at results
    exact complete_keeps others loaded results

/-- Every instruction of a frame at the right height leads to the right height. -/
theorem stepBody_keeps (passed : AllPassed modules) (loaded : store.modules = modules)
    (executes : Frame.Executes modules frame module routine heights)
    (current : frame.instruction? = some instruction) (named : frame.Names instruction)
    (level : heightAt heights frame.position = some frame.operands.height)
    (agrees : Agrees module (resultHeight routine) (heightAt heights) instruction frame.position
      frame.operands.height)
    (others : Sound modules (.result frame.returns) below) :
    (stepBody limit thread store frame below instruction).Keeps modules := by
  have sound : Sound modules .nothing (.body frame :: below) :=
    .executing ⟨module, routine, heights, executes, level⟩ others
  have arrived : ∀ {after : Store} {outcome : Except Trap (Store × Frame)},
      after.modules = modules → Safe outcome (Frame.Arrives module after frame instruction) →
      Safe outcome fun result => result.1.modules = modules ∧
        result.2.AtHeight modules result.2.operands.height ∧ result.2.returns = frame.returns := by
    intro after outcome loadedAfter safe
    refine safe.mono fun result arrives => ?_
    exact ⟨arrives.1.trans loadedAfter, executes.arrives agrees arrives⟩
  have immediate : Frame.Immediate instruction →
      (proceedWith store frame below (frame.execute store instruction)).Keeps modules :=
    fun isImmediate => proceedWith_keeps loaded sound
      (arrived loaded (Frame.execute_safe agrees.enough named isImmediate))
  cases instruction with
  | ret => exact stepBody_ret_keeps loaded executes level (agrees.returns rfl) others
  | call reference =>
      exact stepBody_call_keeps loaded executes current level agrees.enough others
  | invokeCallback =>
      exact stepBody_invokeCallback_keeps loaded executes current level agrees.enough others
  | loadField reference =>
      refine accessField_keeps passed loaded sound reference fun after address loadedAfter => ?_
      refine arrived loadedAfter ?_
      rcases found : after.slot? address with _ | value
      · simp only [Store.read, found]
        rfl
      · simp only [Store.read, found, ok_bind]
        exact Frame.load_safe value rfl rfl fun _ => rfl
  | loadFieldAddress reference =>
      refine accessField_keeps passed loaded sound reference fun after address loadedAfter => ?_
      exact arrived loadedAfter (Frame.load_safe (.address address) rfl rfl fun _ => rfl)
  | storeField reference =>
      rcases Nat.exists_eq_add_of_le' agrees.enough with ⟨height, taken⟩
      have popping : Safe frame.pop fun popped =>
        Frame.Moved frame popped.2 frame.position height := Frame.pop_safe taken
      simp only [stepBody]
      rcases popped : frame.pop with trap | ⟨value, rest⟩
      · rw [popped] at popping
        exact ⟨loaded, popping, _, sound⟩
      · rw [popped] at popping
        refine accessField_keeps passed loaded sound reference fun after address loadedAfter => ?_
        refine arrived loadedAfter ?_
        rcases found : after.slot? address with _ | held
        · simp only [Store.write, found]
          rfl
        · simp only [Store.write, found, ok_bind, pure_eq_ok]
          exact Frame.arrives_next rfl popping.advance (fun _ => rfl) (by rw [taken]; rfl)
  | _ => exact immediate trivial

end Instructions

/-! ### Threads -/

theorem exists_given (modules : Array Module) (target : BoundRoutine) :
    ∃ given, ∀ module routine, modules[target.module.position]? = some module →
      module.routine? target.routine = some routine → routine.returns = given := by
  rcases loaded : modules[target.module.position]? with _ | module
  · exact ⟨false, nofun⟩
  · rcases declared : module.routine? target.routine with _ | routine
    · refine ⟨false, fun other routine same found => ?_⟩
      cases same
      rw [declared] at found
      cases found
    · refine ⟨routine.returns, fun other another same found => ?_⟩
      cases same
      rw [declared] at found
      cases found
      rfl

/-- What a thread attempts keeps every frame at the right height. -/
theorem attempt_keeps (limit : Nat) (thread : ThreadId) (passed : AllPassed modules) (loaded : store.modules = modules)
    (sound : Sound modules .nothing activations) :
    (attempt limit thread store activations).Keeps modules := by
  cases sound with
  | done => exact loaded
  | executing level others =>
      rcases level with ⟨module, routine, heights, executes, level⟩
      rcases executes.instruction level with ⟨instruction, current, named, agrees⟩
      simp only [attempt, current]
      exact stepBody_keeps passed loaded executes current named level agrees others
  | initializer others => exact ⟨loaded, others⟩
  | @targets _ targets below others =>
      cases targets with
      | nil => exact complete_keeps others loaded rfl
      | cons target targets =>
          rcases exists_given modules target with ⟨given, gives⟩
          exact ⟨loaded, .call (.targets others) gives⟩
  | call others gives => exact call_keeps passed loaded others gives
  | @access instantiation below others =>
      refine acquire_keeps passed loaded (.access others) fun after loadedAfter => ?_
      exact complete_keeps others loadedAfter rfl

theorem step_keeps (limit : Nat) (thread : ThreadId) (passed : AllPassed modules) (loaded : store.modules = modules)
    (sound : Sound modules .nothing activations) :
    (step limit thread store activations).Keeps modules := by
  have keeps := attempt_keeps limit thread passed loaded sound
  unfold step
  rcases attempted : attempt limit thread store activations with _ | _ | _ | ⟨after, trap, raised⟩ <;>
    rw [attempted] at keeps
  · exact keeps
  · exact keeps
  · exact keeps
  · rcases keeps with ⟨loadedAfter, _, expects, soundAfter⟩
    exact unwind_keeps soundAfter loadedAfter trap

theorem run_keeps (passed : AllPassed modules) (loaded : store.modules = modules)
    (sound : Sound modules .nothing activations) {steps : Nat} {after : Store}
    {result : Except Trap (Option Value)}
    (ran : run limit thread steps store activations = some (after, result)) :
    after.modules = modules := by
  induction steps generalizing store activations with
  | zero => cases ran
  | succ steps ih =>
      have keeps := step_keeps limit thread passed loaded sound
      rw [run] at ran
      rcases stepped : step limit thread store activations with _ | _ | _ <;>
        rw [stepped] at ran keeps
      · exact ih keeps.1 keeps.2 ran
      · cases ran
      · cases ran
        exact keeps

end Rekindle.Machine
