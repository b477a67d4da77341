import Rekindle.Proofs.Loading.Renaming
import Rekindle.Proofs.Machine.Changing
import Rekindle.Proofs.Transparency.Leading

/-!
# Lockstep

A body does the same whether it was called by a frame that has nothing left to do but return, or
stands alone: the two threads take the same steps on the same stores, one activation apart.
-/

namespace Rekindle.Machine

open Fallible Store

/-- A trap without the name of the routine that raised it. -/
def Trap.nameless : Trap → Trap
  | .stackUnderflow _ => .stackUnderflow ""
  | .badReference _ operand => .badReference "" operand
  | .controlLeftBody _ => .controlLeftBody ""
  | trap => trap

theorem Trap.nameless_named (alias? : Option Alias) (trap : Trap) :
    (trap.named alias?).nameless = trap.nameless := by
  cases alias? with
  | none => rfl
  | some other => cases trap <;> rfl

/-- A frame that waits for a call and returns after it, whatever that hands over. -/
structure Frame.Concludes (frame : Frame) (modules : Array Module) : Prop where
  resumes : ∀ (store : Store) (result : Option Value), store.modules = modules →
    frame.resume store result = .ok frame.advance
  handlers_eq : frame.body.handlers = []
  silent : frame.returns = false
  last : frame.advance.instruction? = some .ret

/-- The activations of a thread with a caller at the bottom and those of one without it. The body
right above the caller goes by an alias where it stands alone. -/
inductive Alongside (caller : Frame) (other : Alias) :
    List Activation → List Activation → Prop where
  | last (frame : Frame) :
      Alongside caller other [.body frame, .body caller] [.body (frame.named (some other))]
  | on {left right : List Activation} (activation : Activation)
      (alongside : Alongside caller other left right) :
      Alongside caller other (activation :: left) (activation :: right)

/-- What is below two bodies of which the second goes by an alias or by none. -/
inductive Under (caller : Frame) (other : Alias) :
    Option Alias → List Activation → List Activation → Prop where
  | caller : Under caller other (some other) [.body caller] []
  | on {left right : List Activation} (alongside : Alongside caller other left right) :
      Under caller other none left right

/-- Attempts that come to the same. -/
inductive Tallies (caller : Frame) (other : Alias) : Attempt → Attempt → Prop where
  | running (store : Store) {left right : List Activation}
      (alongside : Alongside caller other left right) :
      Tallies caller other (.running store left) (.running store right)
  | blocked (store : Store) {left right : List Activation}
      (alongside : Alongside caller other left right) :
      Tallies caller other (.blocked store left) (.blocked store right)
  | returned (store : Store) (result : Option Value) :
      Tallies caller other (.running store [.body caller.advance]) (.returned store result)
  | raised (store : Store) (trap : Trap) {left right : List Activation}
      (alongside : Alongside caller other left right) :
      Tallies caller other (.raised store trap left) (.raised store trap right)
  | raisedUnder (store : Store) (trap : Trap) (frame : Frame) {alias? : Option Alias}
      {left right : List Activation} (under : Under caller other alias? left right) :
      Tallies caller other (.raised store trap (.body frame :: left))
        (.raised store (trap.named alias?) (.body (frame.named alias?) :: right))

/-- Steps that come to the same. -/
inductive Paces (caller : Frame) (other : Alias) : Progress → Progress → Prop where
  | running (store : Store) {left right : List Activation}
      (alongside : Alongside caller other left right) :
      Paces caller other (.running store left) (.running store right)
  | blocked (store : Store) {left right : List Activation}
      (alongside : Alongside caller other left right) :
      Paces caller other (.blocked store left) (.blocked store right)
  | returned (store : Store) (result : Option Value) :
      Paces caller other (.running store [.body caller.advance]) (.finished store (.ok result))
  | failed (store : Store) {trap another : Trap} (same : another.nameless = trap.nameless) :
      Paces caller other (.finished store (.error trap)) (.finished store (.error another))

variable {modules : Array Module} {caller frame : Frame} {other : Alias} {alias? : Option Alias}
  {left right : List Activation} {limit : Nat} {thread : ThreadId} {store : Store}

theorem Under.carries (under : Under caller other alias? left right) (frame : Frame) :
    Alongside caller other (.body frame :: left) (.body (frame.named alias?) :: right) := by
  cases under with
  | caller => exact .last frame
  | on alongside => exact .on _ alongside

theorem Alongside.depth_eq (alongside : Alongside caller other left right) :
    depth left = depth right + 1 := by
  induction alongside with
  | last => rfl
  | on activation _ ih =>
      simp only [depth, List.countP_cons] at ih ⊢
      omega

/-! ### Unwinding and completing -/

theorem Frame.Concludes.receive (concludes : caller.Concludes modules) (trap : Trap) :
    caller.receive trap = .error trap :=
  receive_of_unguarded concludes.handlers_eq trap

theorem Alongside.unwind (concludes : caller.Concludes modules)
    (alongside : Alongside caller other left right) (store : Store) (trap : Trap) :
    Paces caller other (unwind store trap left) (unwind store trap right) := by
  induction alongside generalizing trap with
  | last frame =>
      simp only [Machine.unwind, frame.receive_named]
      rcases frame.receive trap with passed | caught
      · simp only [concludes.receive]
        exact .failed store rfl
      · exact .running store (.last caught)
  | on activation alongside ih =>
      cases activation with
      | body frame =>
          simp only [Machine.unwind]
          rcases frame.receive trap with passed | caught
          · exact ih passed
          · exact .running store (.on _ alongside)
      | initializer instantiation => exact .running _ alongside
      | targets | call | access => exact ih trap

/-- A trap that tells a name is not received. -/
theorem Frame.receive_of_named {trap : Trap} (named : trap.named alias? ≠ trap) (frame : Frame) :
    frame.receive trap = .error trap := by
  cases trap with
  | thrown value => cases alias? <;> exact absurd rfl named
  | _ => rfl

theorem Under.unwind (concludes : caller.Concludes modules)
    (under : Under caller other alias? left right) (store : Store) (trap : Trap) (frame : Frame) :
    Paces caller other (unwind store trap (.body frame :: left))
      (unwind store (trap.named alias?) (.body (frame.named alias?) :: right)) := by
  by_cases same : trap.named alias? = trap
  · rw [same]
    exact (under.carries frame).unwind concludes store trap
  · have passes := frame.receive_of_named same
    cases under with
    | on alongside => exact absurd rfl same
    | caller =>
        have passesToo : (frame.named (some other)).receive (trap.named (some other)) =
            .error (trap.named (some other)) := by
          cases trap with
          | thrown value => exact absurd rfl same
          | _ => rfl
        simp only [Machine.unwind, passes, passesToo, concludes.receive]
        exact .failed store (Trap.nameless_named _ trap)

theorem Under.resumes (under : Under caller other alias? left right) (store : Store)
    (frame : Frame) (result : Option Value) :
    Tallies caller other (complete store result (.body frame :: left))
      (complete store result (.body (frame.named alias?) :: right)) := by
  have resumes := frame.resume_named alias? store result
  simp only [complete]
  generalize frame.resume store result = first at resumes ⊢
  generalize (frame.named alias?).resume store result = second at resumes ⊢
  cases resumes with
  | ok next => exact .running store (under.carries next)
  | error trap => exact .raisedUnder store trap frame under

theorem Alongside.complete (alongside : Alongside caller other left right) (store : Store)
    (result : Option Value) :
    Tallies caller other (complete store result left) (complete store result right) := by
  cases alongside with
  | last frame => exact Under.caller.resumes store frame result
  | on activation alongside =>
      cases activation with
      | body frame => exact (Under.on alongside).resumes store frame result
      | initializer | targets | call | access => exact .running store (.on _ alongside)

theorem Under.complete (concludes : caller.Concludes modules)
    (under : Under caller other alias? left right) (loaded : store.modules = modules)
    (result : Option Value) :
    Tallies caller other (complete store result left) (complete store result right) := by
  cases under with
  | caller =>
      simp only [Machine.complete, concludes.resumes store result loaded]
      exact .returned store result
  | on alongside => exact alongside.complete store result

theorem Tallies.settle (concludes : caller.Concludes modules) {attempt another : Attempt}
    (tallies : Tallies caller other attempt another) :
    Paces caller other attempt.settle another.settle := by
  cases tallies with
  | running store alongside => exact .running store alongside
  | blocked store alongside => exact .blocked store alongside
  | returned store result => exact .returned store result
  | raised store trap alongside => exact alongside.unwind concludes store trap
  | raisedUnder store trap frame under => exact under.unwind concludes store trap frame

/-! ### Entering -/

theorem enter_eq_of_depth {depth more : Nat} (less : depth ≤ more) (enough : ¬limit < more)
    (store : Store) (target : BoundRoutine) (parameters : List Value) :
    Frame.enter limit depth store target parameters =
      Frame.enter limit more store target parameters := by
  rw [Frame.enter, Frame.enter, if_neg enough, if_neg (by omega)]

theorem Alongside.entering (alongside : Alongside caller other left right) (store : Store)
    (target : BoundRoutine) (parameters : List Value)
    (shallow : (entering limit store target parameters left).meetsLimit = false) :
    Tallies caller other (entering limit store target parameters left)
      (entering limit store target parameters right) := by
  have deeper := alongside.depth_eq
  have enough : ¬limit < depth left + 1 := by
    intro tooDeep
    rw [Machine.entering, Frame.enter, if_pos tooDeep] at shallow
    cases shallow
  have same : Frame.enter limit (depth right + 1) store target parameters =
      Frame.enter limit (depth left + 1) store target parameters :=
    enter_eq_of_depth (by omega) enough store target parameters
  simp only [Machine.entering, same]
  split
  · exact .running store (.on _ alongside)
  · exact .raised store _ alongside

theorem Alongside.startInitializer (alongside : Alongside caller other left right) (store : Store)
    (instantiation : Instantiation)
    (shallow : (startInitializer limit store instantiation left).meetsLimit = false) :
    Tallies caller other (startInitializer limit store instantiation left)
      (startInitializer limit store instantiation right) := by
  have waiting := alongside.on (.initializer instantiation)
  rcases found : initializerOf store instantiation with _ | target
  · simp only [Machine.startInitializer, found]
    exact .running store waiting
  · rw [startInitializer_eq found] at shallow
    rw [startInitializer_eq found, startInitializer_eq found]
    exact waiting.entering store target [] shallow

theorem Alongside.acquire (alongside : Alongside caller other left right)
    (instantiation : Instantiation) {proceed follow : Store → Attempt}
    (shallow : (acquire limit thread store instantiation left proceed).meetsLimit = false)
    (goesOn : ∀ ready : Store, ready.modules = store.modules →
      (proceed ready).meetsLimit = false → Tallies caller other (proceed ready) (follow ready)) :
    Tallies caller other (acquire limit thread store instantiation left proceed)
      (acquire limit thread store instantiation right follow) := by
  rcases asks : store.ask thread instantiation with trap | ⟨ready, ticket⟩
  · simp only [Machine.acquire, asks]
    exact .raised store trap alongside
  · rcases ask_ok asks with ⟨_, asked⟩
    cases ticket with
    | run =>
        simp only [Machine.acquire, asks] at shallow ⊢
        exact alongside.startInitializer ready instantiation shallow
    | ready =>
        simp only [Machine.acquire, asks] at shallow ⊢
        exact goesOn ready asked.modules_eq shallow
    | failed cause =>
        simp only [Machine.acquire, asks]
        exact .raised ready _ alongside
    | wait =>
        simp only [Machine.acquire, asks]
        exact .blocked ready alongside

/-! ### Bodies -/

theorem Under.proceedWith (under : Under caller other alias? left right) (store : Store)
    (frame : Frame) {moved another : Except Trap (Store × Frame)}
    (renamed : Renamed alias? (Prod.map id (Frame.named alias?)) moved another) :
    Tallies caller other (proceedWith store frame left moved)
      (proceedWith store (frame.named alias?) right another) := by
  cases renamed with
  | ok result => exact .running result.1 (under.carries result.2)
  | error trap => exact .raisedUnder store trap frame under

theorem Under.accessField (under : Under caller other alias? left right) (frame : Frame)
    (reference : FieldRef) {use another : Store → Address → Except Trap (Store × Frame)}
    (shallow : (accessField limit thread store frame left reference use).meetsLimit = false)
    (renamed : ∀ store place, Renamed alias? (Prod.map id (Frame.named alias?)) (use store place)
      (another store place)) :
    Tallies caller other (accessField limit thread store frame left reference use)
      (accessField limit thread store (frame.named alias?) right reference another) := by
  unfold Machine.accessField at shallow ⊢
  rw [frame.named_address]
  rcases addressed : frame.address store reference with trap | place
  · exact .raised store trap (under.carries frame)
  · rw [addressed] at shallow
    apply (under.carries frame).acquire place.instantiation shallow
    intro ready _ _
    exact under.proceedWith ready frame (renamed ready place)

theorem read_nameless (alias? : Option Alias) (store : Store) (place : Address) :
    Renamed alias? id (store.read place) (store.read place) := by
  unfold Store.read
  split
  · exact .ok _
  · apply Renamed.nameless
    cases alias? <;> rfl

theorem Under.stepBody (concludes : caller.Concludes modules)
    (under : Under caller other alias? left right) (loaded : store.modules = modules)
    (frame : Frame) (instruction : Instruction)
    (shallow : (stepBody limit thread store frame left instruction).meetsLimit = false) :
    Tallies caller other (stepBody limit thread store frame left instruction)
      (stepBody limit thread store (frame.named alias?) right instruction) := by
  have executed := under.proceedWith store frame (frame.execute_named alias? store instruction)
  cases instruction with
  | loadField reference =>
      apply under.accessField frame reference shallow
      intro ready place
      refine (read_nameless alias? ready place).bind fun value => ?_
      exact Frame.onto_named alias? (frame.yield_named alias? value) ready
  | storeField reference =>
      have popped := frame.pop_named alias?
      simp only [Machine.stepBody] at shallow ⊢
      generalize frame.pop = first at popped shallow ⊢
      generalize (frame.named alias?).pop = second at popped ⊢
      cases popped with
      | error trap => exact .raisedUnder store trap frame under
      | ok result =>
          rcases result with ⟨value, rest⟩
          apply under.accessField frame reference shallow
          intro ready place
          refine (Frame.write_nameless alias? ready place value).bind fun written => ?_
          rw [Frame.named_advance]
          exact .ok (written, rest.advance)
  | loadFieldAddress reference =>
      apply under.accessField frame reference shallow
      intro ready place
      exact Frame.onto_named alias? (frame.yield_named alias? _) ready
  | call reference =>
      have prepared := prepareCall_named alias? frame store reference
      simp only [Machine.stepBody, frame.named_bound] at shallow ⊢
      generalize prepareCall store frame reference = first at prepared shallow ⊢
      generalize prepareCall store (frame.named alias?) reference = second at prepared ⊢
      cases prepared with
      | error trap => exact .raisedUnder store trap frame under
      | ok result => exact .running store (.on _ (under.carries result.2))
  | invokeCallback =>
      have prepared := prepareInvoke_named alias? frame
      simp only [Machine.stepBody] at shallow ⊢
      generalize prepareInvoke frame = first at prepared shallow ⊢
      generalize prepareInvoke (frame.named alias?) = second at prepared ⊢
      cases prepared with
      | error trap => exact .raisedUnder store trap frame under
      | ok result => exact .running store (.on _ (under.carries result.2))
  | ret =>
      have results := resultOf_named alias? frame
      simp only [Machine.stepBody] at shallow ⊢
      generalize resultOf frame = first at results shallow ⊢
      generalize resultOf (frame.named alias?) = second at results ⊢
      cases results with
      | error trap => exact .raisedUnder store trap frame under
      | ok result => exact under.complete concludes loaded result
  | _ => exact executed

theorem Under.body (concludes : caller.Concludes modules)
    (under : Under caller other alias? left right) (loaded : store.modules = modules)
    (frame : Frame)
    (shallow : (attempt limit thread store (.body frame :: left)).meetsLimit = false) :
    Tallies caller other (attempt limit thread store (.body frame :: left))
      (attempt limit thread store (.body (frame.named alias?) :: right)) := by
  simp only [attempt, frame.named_instruction?] at shallow ⊢
  split
  · have named : (Trap.controlLeftBody frame.name).named alias? =
        .controlLeftBody (frame.named alias?).name := by
      cases alias? <;> rfl
    rw [← named]
    exact .raisedUnder store _ frame under
  · rename_i instruction current
    rw [current] at shallow
    exact under.stepBody concludes loaded frame instruction shallow

/-! ### Attempts, steps and runs -/

theorem Alongside.call (alongside : Alongside caller other left right) (target : BoundRoutine)
    (parameters : List Value)
    (shallow : (call limit thread store target parameters left).meetsLimit = false) :
    Tallies caller other (call limit thread store target parameters left)
      (call limit thread store target parameters right) := by
  rcases owned : ownerOf store target with trap | instantiation
  · simp only [Machine.call, owned]
    exact .raised store trap alongside
  · rw [call_eq owned] at shallow
    rw [call_eq owned, call_eq owned]
    apply (alongside.on (.call target parameters)).acquire instantiation shallow
    intro ready _ shallowReady
    exact alongside.entering ready target parameters shallowReady

theorem Alongside.attempt (concludes : caller.Concludes modules)
    (alongside : Alongside caller other left right) (loaded : store.modules = modules)
    (shallow : (attempt limit thread store left).meetsLimit = false) :
    Tallies caller other (attempt limit thread store left) (attempt limit thread store right) := by
  cases alongside with
  | last frame => exact Under.caller.body concludes loaded frame shallow
  | on activation alongside =>
      cases activation with
      | body frame => exact (Under.on alongside).body concludes loaded frame shallow
      | initializer instantiation => exact .running _ alongside
      | targets targets =>
          cases targets with
          | nil => exact alongside.complete store none
          | cons target others => exact .running store (.on _ (.on _ alongside))
      | call target parameters => exact alongside.call target parameters shallow
      | access instantiation =>
          apply (alongside.on (.access instantiation)).acquire instantiation shallow
          intro ready _ _
          exact alongside.complete ready none

theorem Alongside.step (concludes : caller.Concludes modules)
    (alongside : Alongside caller other left right) (loaded : store.modules = modules)
    (shallow : Shallow limit thread store left) :
    Paces caller other (step limit thread store left) (step limit thread store right) :=
  (alongside.attempt concludes loaded shallow.here).settle concludes

/-- The trap that ended a computation, if one did, without a name. -/
def trapOf : Except Trap (Option Value) → Option Trap
  | .ok _ => none
  | .error trap => some trap.nameless

/-- What a thread comes to that runs to its end: a store, and a trap if one ended it. -/
def Ends (limit : Nat) (thread : ThreadId) (store : Store) (activations : List Activation)
    (after : Store) (trap? : Option Trap) : Prop :=
  ∃ steps result, run limit thread steps store activations = some (after, result) ∧
    trapOf result = trap?

section Ends

variable {after middle : Store} {activations next : List Activation} {trap? : Option Trap}

theorem ends_of_running (running : step limit thread store activations = .running middle next) :
    Ends limit thread store activations after trap? ↔ Ends limit thread middle next after trap? := by
  constructor
  · rintro ⟨steps, result, runs, same⟩
    cases steps with
    | zero => cases runs
    | succ steps =>
        simp only [run, running] at runs
        exact ⟨steps, result, runs, same⟩
  · rintro ⟨steps, result, runs, same⟩
    refine ⟨steps + 1, result, ?_, same⟩
    simp only [run, running]
    exact runs

theorem ends_of_leads (leads : Leads limit thread store activations middle next) :
    Ends limit thread store activations after trap? ↔ Ends limit thread middle next after trap? := by
  induction leads with
  | refl => exact Iff.rfl
  | step first _ ih => exact (ends_of_running first).trans ih

theorem ends_of_finished {result : Except Trap (Option Value)}
    (finished : step limit thread store activations = .finished middle result) :
    Ends limit thread store activations after trap? ↔ after = middle ∧ trap? = trapOf result := by
  constructor
  · rintro ⟨steps, ended, runs, rfl⟩
    cases steps with
    | zero => cases runs
    | succ steps =>
        simp only [run, finished, Option.some.injEq, Prod.mk.injEq] at runs
        rcases runs with ⟨rfl, rfl⟩
        exact ⟨rfl, rfl⟩
  · rintro ⟨rfl, rfl⟩
    refine ⟨1, result, ?_, rfl⟩
    simp only [run, finished]

end Ends

/-- A caller that has nothing left to do but return. -/
theorem Frame.Concludes.ends (concludes : caller.Concludes modules) {after : Store}
    {trap? : Option Trap} :
    Ends limit thread store [.body caller.advance] after trap? ↔ after = store ∧ trap? = none := by
  have silent : caller.advance.returns = false := concludes.silent
  have returns : resultOf caller.advance = .ok none := by
    simp [resultOf, silent]
  have finished : step limit thread store [.body caller.advance] = .finished store (.ok none) := by
    simp only [step, attempt, concludes.last, stepBody, returns]
    rfl
  exact ends_of_finished finished

theorem modules_of_running {activations next : List Activation} {after : Store}
    (running : step limit thread store activations = .running after next) :
    after.modules = store.modules := by
  have changes := step_changes limit thread store activations
  rw [running] at changes
  exact changes.modules_eq

/-- What a thread with the caller comes to, the thread without it comes to. -/
theorem Alongside.follows (concludes : caller.Concludes modules) {steps : Nat} {after : Store}
    {result : Except Trap (Option Value)} (alongside : Alongside caller other left right)
    (loaded : store.modules = modules) (shallow : Shallow limit thread store left)
    (runs : run limit thread steps store left = some (after, result)) :
    Ends limit thread store right after (trapOf result) := by
  induction steps generalizing store left right with
  | zero => cases runs
  | succ steps ih =>
      have paces := alongside.step concludes loaded shallow
      rw [run] at runs
      generalize first : Machine.step limit thread store left = progress at paces runs
      generalize second : Machine.step limit thread store right = another at paces
      cases paces with
      | running middle alongside =>
          have kept := modules_of_running first
          rw [ends_of_running second]
          exact ih alongside (kept.trans loaded) (shallow.leads (.step first .refl)) runs
      | blocked => cases runs
      | returned middle value =>
          rw [ends_of_finished second]
          exact concludes.ends.mp ⟨steps, result, runs, rfl⟩
      | failed middle same =>
          cases runs
          rw [ends_of_finished second]
          exact ⟨rfl, congrArg some same.symm⟩

/-- What a thread without the caller comes to, the thread with it comes to. -/
theorem Alongside.precedes (concludes : caller.Concludes modules) {steps : Nat} {after : Store}
    {result : Except Trap (Option Value)} (alongside : Alongside caller other left right)
    (loaded : store.modules = modules) (shallow : Shallow limit thread store left)
    (runs : run limit thread steps store right = some (after, result)) :
    Ends limit thread store left after (trapOf result) := by
  induction steps generalizing store left right with
  | zero => cases runs
  | succ steps ih =>
      have paces := alongside.step concludes loaded shallow
      rw [run] at runs
      generalize first : Machine.step limit thread store left = progress at paces
      generalize second : Machine.step limit thread store right = another at paces runs
      cases paces with
      | running middle alongside =>
          have kept := modules_of_running first
          rw [ends_of_running first]
          exact ih alongside (kept.trans loaded) (shallow.leads (.step first .refl)) runs
      | blocked => cases runs
      | returned middle value =>
          cases runs
          rw [ends_of_running first]
          exact concludes.ends.mpr ⟨rfl, rfl⟩
      | failed middle same =>
          cases runs
          rw [ends_of_finished first]
          exact ⟨rfl, congrArg some same⟩

/-- A body comes to the same whether it was called by a frame that has nothing left to do, or
stands alone. -/
theorem Alongside.ends (concludes : caller.Concludes modules)
    (alongside : Alongside caller other left right) (loaded : store.modules = modules)
    (shallow : Shallow limit thread store left) {after : Store} {trap? : Option Trap} :
    Ends limit thread store left after trap? ↔ Ends limit thread store right after trap? := by
  constructor
  · rintro ⟨steps, result, runs, rfl⟩
    exact alongside.follows concludes loaded shallow runs
  · rintro ⟨steps, result, runs, rfl⟩
    exact alongside.precedes concludes loaded shallow runs

end Rekindle.Machine
