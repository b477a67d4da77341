import Rekindle.Proofs.Isolation.Instructions
import Rekindle.Proofs.Transparency.Leading

/-!
# Steps of a module alone

A thread that is inside one module takes the same steps where the module is alone. All it ever
executes, calls and asks for belongs to the module, so the other modules are spared.
-/

namespace Rekindle.Machine

open Fallible

section Definitions

variable (home : ModuleHandle)

def Activation.relocate : Activation → Activation
  | .body frame => .body (frame.relocate home)
  | .initializer instantiation => .initializer (instantiation.relocate home)
  | .targets routines => .targets (routines.map (BoundRoutine.relocate home))
  | .call target parameters =>
    .call (target.relocate home) (parameters.map (Value.relocate home))
  | .access instantiation => .access (instantiation.relocate home)

/-- What a thread does inside a module. -/
def Activation.Inside : Activation → Prop
  | .body frame => frame.Inside home
  | .initializer instantiation | .access instantiation => instantiation.module = home
  | .targets routines => ∀ target ∈ routines, target.module = home
  | .call target parameters =>
    target.module = home ∧ ∀ value ∈ parameters, value.Within home.reach

/-- What a computation comes to where a module is alone. -/
def relocateResult {α : Type} (change : α → α) (result : Except Trap α) : Except Trap α :=
  (result.mapError (Trap.relocate home)).map change

/-- What comes of an attempt inside a module, and what comes of it where the module is alone. -/
inductive Attempt.Corresponds (store : Store) : Attempt → Attempt → Prop where
  | running {after : Store} {activations : List Activation} (spares : store.Spares home after)
      (inside : ∀ activation ∈ activations, activation.Inside home) :
      Corresponds store (.running after activations)
        (.running (after.alone home) (activations.map (Activation.relocate home)))
  | blocked {after : Store} {activations : List Activation} :
      Corresponds store (.blocked after activations)
        (.blocked (after.alone home) (activations.map (Activation.relocate home)))
  | returned {after : Store} {result : Option Value} (spares : store.Spares home after) :
      Corresponds store (.returned after result)
        (.returned (after.alone home) (result.map (Value.relocate home)))
  | raised {after : Store} {trap : Trap} {activations : List Activation}
      (spares : store.Spares home after) (known : trap.Within home.reach)
      (inside : ∀ activation ∈ activations, activation.Inside home) :
      Corresponds store (.raised after trap activations)
        (.raised (after.alone home) (trap.relocate home)
          (activations.map (Activation.relocate home)))

/-- What a step inside a module leads to, and what it leads to where the module is alone. -/
inductive Progress.Corresponds (store : Store) : Progress → Progress → Prop where
  | running {after : Store} {activations : List Activation} (spares : store.Spares home after)
      (inside : ∀ activation ∈ activations, activation.Inside home) :
      Corresponds store (.running after activations)
        (.running (after.alone home) (activations.map (Activation.relocate home)))
  | blocked {after : Store} {activations : List Activation} :
      Corresponds store (.blocked after activations)
        (.blocked (after.alone home) (activations.map (Activation.relocate home)))
  | finished {after : Store} {result : Except Trap (Option Value)}
      (spares : store.Spares home after) :
      Corresponds store (.finished after result)
        (.finished (after.alone home) (relocateResult home (Option.map (Value.relocate home)) result))

end Definitions

variable {home : ModuleHandle} {limit : Nat} {thread : ThreadId} {store after : Store}
  {instantiation : Instantiation} {activations below : List Activation} {frame : Frame}
  {target : BoundRoutine} {parameters : List Value} {trap : Trap} {result : Option Value}

theorem depth_relocate (activations : List Activation) :
    depth (activations.map (Activation.relocate home)) = depth activations := by
  simp only [depth, List.countP_map]
  apply List.countP_congr
  intro activation _
  cases activation <;> rfl

theorem Attempt.Corresponds.since {one other : Attempt} (spares : store.Spares home after)
    (corresponds : Attempt.Corresponds home after one other) :
    Attempt.Corresponds home store one other := by
  cases corresponds with
  | running more inside => exact .running (spares.trans more) inside
  | blocked => exact .blocked
  | returned more => exact .returned (spares.trans more)
  | raised more known inside => exact .raised (spares.trans more) known inside

theorem Progress.Corresponds.since {one other : Progress} (spares : store.Spares home after)
    (corresponds : Progress.Corresponds home after one other) :
    Progress.Corresponds home store one other := by
  cases corresponds with
  | running more inside => exact .running (spares.trans more) inside
  | blocked => exact .blocked
  | finished more => exact .finished (spares.trans more)

/-! ### Calls and returns -/

theorem relocate_start (module : Module) (target : BoundRoutine) (routine : RoutineDecl)
    (body : Body) (parameters : List Value) :
    (Frame.start module target routine body parameters).relocate home =
      .start module (target.relocate home) routine body
        (parameters.map (Value.relocate home)) := by
  simp [Frame.relocate, Frame.start, BoundRoutine.relocate, Operands.empty, Function.comp_def]

/-- The initializer of a type belongs to the module of the type. -/
theorem module_of_initializerOf (found : initializerOf store instantiation = some target) :
    target.module = instantiation.module := by
  rcases initializerOf_eq_some_iff.mp found with ⟨_, _, _, _, rfl⟩
  rfl

theorem initializerOf_alone (store : Store) (own : instantiation.module = home) :
    initializerOf (store.alone home) (instantiation.relocate home) =
      (initializerOf store instantiation).map (BoundRoutine.relocate home) := by
  have module_eq : (instantiation.relocate home).module = home.relocate home :=
    congrArg (ModuleHandle.relocate · home) own
  have type_eq : (instantiation.relocate home).type = instantiation.type := rfl
  simp only [initializerOf, module_eq, type_eq, Store.modules_alone, own]
  split
  · rfl
  · split <;> rfl

section Calls

variable (encloses : store.Encloses home)
  (inside : ∀ activation ∈ activations, activation.Inside home)
include encloses inside

theorem unwind_corresponds (known : trap.Within home.reach) :
    Progress.Corresponds home store (unwind store trap activations)
      (unwind (store.alone home) (trap.relocate home)
        (activations.map (Activation.relocate home))) := by
  induction activations generalizing trap with
  | nil => exact .finished encloses.spares
  | cons activation below ih =>
      rcases List.forall_mem_cons.mp inside with ⟨first, others⟩
      cases activation with
      | initializer instantiation =>
          simp only [List.map_cons, Activation.relocate, unwind]
          have published := Store.alone_publish store first (.error trap)
          simp only [Except.mapError] at published
          rw [← published]
          exact .running (encloses.publish first _) others
      | body frame =>
          rcases (Frame.Inside.receive first known).outcome with
            ⟨next, one, other, frames⟩ | ⟨passed, one, other, known⟩
          · simp only [List.map_cons, Activation.relocate, unwind, one, other]
            exact .running encloses.spares (List.forall_mem_cons.mpr ⟨frames, others⟩)
          · simp only [List.map_cons, Activation.relocate, unwind, one, other]
            exact ih others known
      | targets | call | access => exact ih others known

theorem complete_corresponds (known : ∀ value ∈ result, value.Within home.reach) :
    Attempt.Corresponds home store (complete store result activations)
      (complete (store.alone home) (result.map (Value.relocate home))
        (activations.map (Activation.relocate home))) := by
  have spares := encloses.spares
  rcases activations with _ | ⟨activation, below⟩
  · exact .returned spares
  · rcases List.forall_mem_cons.mp inside with ⟨first, others⟩
    cases activation with
    | body frame =>
        rcases (Frame.Inside.resume first store known).outcome with
          ⟨next, one, other, frames⟩ | ⟨trap, one, other, raised⟩
        · simp only [complete, List.map_cons, Activation.relocate, one, other]
          exact .running spares (List.forall_mem_cons.mpr ⟨frames, others⟩)
        · simp only [complete, List.map_cons, Activation.relocate, one, other]
          exact .raised spares raised inside
    | initializer | targets | call | access => exact .running spares inside

/-- A routine of the module is entered alike where the module is alone. -/
theorem entering_corresponds (own : target.module = home)
    (known : ∀ value ∈ parameters, value.Within home.reach) :
    Attempt.Corresponds home store (entering limit store target parameters activations)
      (entering limit (store.alone home) (target.relocate home)
        (parameters.map (Value.relocate home)) (activations.map (Activation.relocate home))) := by
  have enters : Relocates home (Frame.relocate home) (Frame.Inside home)
      (Frame.enter limit (depth activations + 1) store target parameters)
      (Frame.enter limit (depth activations + 1) (store.alone home) (target.relocate home)
        (parameters.map (Value.relocate home))) := by
    have module_eq : (target.relocate home).module = home.relocate home :=
      congrArg (ModuleHandle.relocate · home) own
    have routine_eq : (target.relocate home).routine = target.routine := rfl
    simp only [Frame.enter, own, module_eq, routine_eq, List.length_map]
    split
    · exact .error trivial
    · refine (Store.relocates_module store home).bind fun module _ => ?_
      simp only [id, throw_eq_error, pure_eq_ok]
      rcases module.routine? target.routine with _ | routine
      · exact .error trivial
      · simp only
        split
        · exact .error trivial
        · rename_i body _
          split
          · refine .ok_of_eq ⟨own, start_within module target routine body known⟩ ?_
            exact relocate_start module target routine body parameters
          · exact .error trivial
  have spares := encloses.spares
  simp only [entering, depth_relocate]
  rcases enters.outcome with ⟨frame, one, other, frames⟩ | ⟨trap, one, other, raised⟩
  · simp only [one, other]
    exact .running spares (List.forall_mem_cons.mpr ⟨frames, inside⟩)
  · simp only [one, other]
    exact .raised spares raised inside

theorem startInitializer_corresponds (own : instantiation.module = home) :
    Attempt.Corresponds home store (startInitializer limit store instantiation activations)
      (startInitializer limit (store.alone home) (instantiation.relocate home)
        (activations.map (Activation.relocate home))) := by
  have waiting : ∀ activation ∈ .initializer instantiation :: activations,
      activation.Inside home := List.forall_mem_cons.mpr ⟨own, inside⟩
  have initializer_eq := initializerOf_alone store own
  rcases found : initializerOf store instantiation with _ | target
  · rw [found] at initializer_eq
    simp only [startInitializer, found, initializer_eq]
    exact .running encloses.spares waiting
  · rw [found] at initializer_eq
    rw [startInitializer_eq found, startInitializer_eq initializer_eq]
    have targetOwn : target.module = home := (module_of_initializerOf found).trans own
    exact entering_corresponds encloses waiting targetOwn (List.forall_mem_nil _)

theorem acquire_corresponds (own : instantiation.module = home) {proceed follow : Store → Attempt}
    (goesOn : ∀ after, store.Spares home after →
      Attempt.Corresponds home after (proceed after) (follow (after.alone home))) :
    Attempt.Corresponds home store
      (acquire limit thread store instantiation activations proceed)
      (acquire limit thread (store.alone home) (instantiation.relocate home)
        (activations.map (Activation.relocate home)) follow) := by
  rcases (encloses.relocates_ask thread own).outcome with
    ⟨⟨after, ticket⟩, one, other, spares⟩ | ⟨trap, one, other, known⟩
  · simp only [acquire, one, other, Prod.map]
    cases ticket with
    | ready => exact (goesOn after spares).since spares
    | run => exact (startInitializer_corresponds spares.encloses inside own).since spares
    | failed cause =>
        simp only [Ticket.relocate, Store.typeName_alone after own]
        exact .raised spares trivial inside
    | wait => exact .blocked
  · simp only [acquire, one, other]
    exact .raised encloses.spares known inside

theorem call_corresponds (own : target.module = home)
    (known : ∀ value ∈ parameters, value.Within home.reach) :
    Attempt.Corresponds home store (call limit thread store target parameters activations)
      (call limit thread (store.alone home) (target.relocate home)
        (parameters.map (Value.relocate home)) (activations.map (Activation.relocate home))) := by
  have owns : Relocates home (Instantiation.relocate home) (fun owner => owner.module = home)
      (ownerOf store target) (ownerOf (store.alone home) (target.relocate home)) := by
    have module_eq : (target.relocate home).module = home.relocate home :=
      congrArg (ModuleHandle.relocate · home) own
    have routine_eq : (target.relocate home).routine = target.routine := rfl
    simp only [ownerOf, own, module_eq, routine_eq]
    refine (Store.relocates_module store home).bind fun module _ => ?_
    simp only [id]
    rcases module.routine? target.routine with _ | routine
    · exact .error trivial
    · exact .ok rfl
  rcases owns.outcome with ⟨owner, one, other, ownerOwn⟩ | ⟨trap, one, other, raised⟩
  · rw [call_eq one, call_eq other]
    have waiting : ∀ activation ∈ .call target parameters :: activations,
        activation.Inside home := List.forall_mem_cons.mpr ⟨⟨own, known⟩, inside⟩
    refine acquire_corresponds encloses waiting ownerOwn fun after spares => ?_
    exact entering_corresponds spares.encloses inside own known
  · simp only [call, one, other]
    exact .raised encloses.spares raised inside

end Calls

theorem Attempt.Corresponds.settle {one other : Attempt}
    (corresponds : Attempt.Corresponds home store one other) :
    Progress.Corresponds home store one.settle other.settle := by
  cases corresponds with
  | running spares inside => exact .running spares inside
  | blocked => exact .blocked
  | returned spares => exact .finished spares
  | raised spares known inside =>
      exact (unwind_corresponds spares.encloses inside known).since spares

/-! ### Bodies -/

section Bodies

variable (encloses : store.Encloses home) (frames : frame.Inside home)
  (others : ∀ activation ∈ below, activation.Inside home)
include encloses frames others

theorem proceedWith_corresponds {moved other : Except Trap (Store × Frame)}
    (relocates : Relocates home (Frame.alone home) (Frame.Minds home store) moved other) :
    Attempt.Corresponds home store (proceedWith store frame below moved)
      (proceedWith (store.alone home) (frame.relocate home)
        (below.map (Activation.relocate home)) other) := by
  cases relocates with
  | ok known => exact .running known.1 (List.forall_mem_cons.mpr ⟨known.2, others⟩)
  | error known =>
      exact .raised encloses.spares known (List.forall_mem_cons.mpr ⟨frames, others⟩)

theorem accessField_corresponds {reference : FieldRef}
    {use another : Store → Address → Except Trap (Store × Frame)}
    (uses : ∀ after place, after.Encloses home → place.instantiation.module = home →
      Relocates home (Frame.alone home) (Frame.Minds home after) (use after place)
        (another (after.alone home) (place.relocate home))) :
    Attempt.Corresponds home store (accessField limit thread store frame below reference use)
      (accessField limit thread (store.alone home) (frame.relocate home)
        (below.map (Activation.relocate home)) reference another) := by
  have here : ∀ activation ∈ .body frame :: below, activation.Inside home :=
    List.forall_mem_cons.mpr ⟨frames, others⟩
  rcases (frames.address store reference).outcome with
    ⟨place, one, other, own⟩ | ⟨trap, one, other, known⟩
  · simp only [accessField, one, other]
    refine acquire_corresponds encloses here own fun after spares => ?_
    exact proceedWith_corresponds spares.encloses frames others
      (uses after place spares.encloses own)
  · simp only [accessField, one, other]
    exact .raised encloses.spares known here

theorem stepBody_corresponds (instruction : Instruction) :
    Attempt.Corresponds home store (stepBody limit thread store frame below instruction)
      (stepBody limit thread (store.alone home) (frame.relocate home)
        (below.map (Activation.relocate home)) instruction) := by
  have spares := encloses.spares
  have here : ∀ activation ∈ .body frame :: below, activation.Inside home :=
    List.forall_mem_cons.mpr ⟨frames, others⟩
  have immediate := proceedWith_corresponds encloses frames others
    (frames.execute encloses instruction)
  cases instruction with
  | loadField reference =>
      refine accessField_corresponds encloses frames others fun after place encloses own => ?_
      refine (Store.relocates_read encloses own).bind fun value known => ?_
      exact Frame.goes_on_alone encloses.spares (frames.yield known)
  | loadFieldAddress reference =>
      refine accessField_corresponds encloses frames others fun after place encloses own => ?_
      have known : (Value.address place).Within home.reach := own
      exact Frame.goes_on_alone encloses.spares (frames.yield known)
  | storeField reference =>
      simp only [stepBody]
      rcases frames.pop.outcome with ⟨⟨value, rest⟩, one, other, known⟩ | ⟨trap, one, other, known⟩
      · simp only [one, other, Prod.map]
        refine accessField_corresponds encloses frames others fun after place encloses own => ?_
        refine (Store.relocates_write encloses own known.1).bind fun written spares => ?_
        exact .ok ⟨spares, known.2.advance⟩
      · simp only [one, other]
        exact .raised spares known here
  | call reference =>
      simp only [stepBody]
      rcases (frames.prepareCall store reference).outcome with
        ⟨⟨parameters, rest⟩, one, other, known⟩ | ⟨trap, one, other, known⟩
      · simp only [one, other, Prod.map]
        refine .running spares (List.forall_mem_cons.mpr ⟨⟨frames.module_eq, known.1⟩, ?_⟩)
        exact List.forall_mem_cons.mpr ⟨known.2, others⟩
      · simp only [one, other]
        exact .raised spares known here
  | invokeCallback =>
      simp only [stepBody]
      rcases frames.prepareInvoke.outcome with
        ⟨⟨targets, rest⟩, one, other, known⟩ | ⟨trap, one, other, known⟩
      · simp only [one, other, Prod.map]
        refine .running spares (List.forall_mem_cons.mpr ⟨known.1, ?_⟩)
        exact List.forall_mem_cons.mpr ⟨known.2, others⟩
      · simp only [one, other]
        exact .raised spares known here
  | ret =>
      simp only [stepBody]
      rcases frames.resultOf.outcome with ⟨result, one, other, known⟩ | ⟨trap, one, other, known⟩
      · simp only [one, other]
        exact complete_corresponds encloses others known
      · simp only [one, other]
        exact .raised spares known here
  | _ => exact immediate

end Bodies

/-! ### Steps and runs -/

section Runs

variable (encloses : store.Encloses home)
  (inside : ∀ activation ∈ activations, activation.Inside home)
include encloses inside

theorem attempt_corresponds :
    Attempt.Corresponds home store (attempt limit thread store activations)
      (attempt limit thread (store.alone home) (activations.map (Activation.relocate home))) := by
  have spares := encloses.spares
  cases activations with
  | nil => exact .returned spares
  | cons activation below =>
      rcases List.forall_mem_cons.mp inside with ⟨first, others⟩
      cases activation with
      | initializer instantiation =>
          simp only [List.map_cons, Activation.relocate, attempt]
          have published := Store.alone_publish store first (.ok ())
          simp only [Except.mapError] at published
          rw [← published]
          exact .running (encloses.publish first _) others
      | targets targets =>
          cases targets with
          | nil => exact complete_corresponds encloses others (by simp)
          | cons target targets =>
              rcases List.forall_mem_cons.mp first with ⟨next, later⟩
              refine .running spares (List.forall_mem_cons.mpr ⟨⟨next, List.forall_mem_nil _⟩, ?_⟩)
              exact List.forall_mem_cons.mpr ⟨later, others⟩
      | call target parameters => exact call_corresponds encloses others first.1 first.2
      | access instantiation =>
          refine acquire_corresponds encloses inside first fun after spares => ?_
          exact complete_corresponds spares.encloses others (by simp)
      | body frame =>
          have instruction_eq : (frame.relocate home).instruction? = frame.instruction? := rfl
          simp only [List.map_cons, Activation.relocate, attempt, instruction_eq]
          rcases frame.instruction? with _ | instruction
          · exact .raised spares trivial inside
          · exact stepBody_corresponds encloses first others instruction

/-- A thread inside a module takes the same step where the module is alone. -/
theorem step_corresponds :
    Progress.Corresponds home store (step limit thread store activations)
      (step limit thread (store.alone home) (activations.map (Activation.relocate home))) :=
  (attempt_corresponds encloses inside).settle

variable (limit thread) in
/-- A thread inside a module runs to the same end where the module is alone, and spares the other
modules on its way. -/
theorem run_corresponds (steps : Nat) :
    run limit thread steps (store.alone home) (activations.map (Activation.relocate home)) =
        (run limit thread steps store activations).map
          (Prod.map (Store.alone home)
            (relocateResult home (Option.map (Value.relocate home)))) ∧
      ∀ after result, run limit thread steps store activations = some (after, result) →
        store.Spares home after := by
  induction steps generalizing store activations with
  | zero => exact ⟨rfl, by simp [run]⟩
  | succ steps ih =>
      have stepped : Progress.Corresponds home store (step limit thread store activations)
        (step limit thread (store.alone home) (activations.map (Activation.relocate home))) :=
        step_corresponds encloses inside
      simp only [run]
      generalize step limit thread store activations = progress at stepped
      generalize step limit thread (store.alone home) _ = other at stepped
      cases stepped with
      | running spares inside =>
          rcases ih spares.encloses inside with ⟨same, later⟩
          refine ⟨same, ?_⟩
          intro after result runs
          exact spares.trans (later after result runs)
      | blocked => exact ⟨rfl, by simp⟩
      | finished spares =>
          refine ⟨rfl, ?_⟩
          rintro after result ⟨⟩
          exact spares

end Runs

end Rekindle.Machine
