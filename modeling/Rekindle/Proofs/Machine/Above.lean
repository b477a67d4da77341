import Rekindle.Proofs.Transparency.Leading

/-!
# Above what waits

What a thread does above activations that wait does not depend on what they are, only on the number
of bodies among them, which count for the depth of calls. Each step is made above them, and they
are resumed or unwound only when everything above has ended.
-/

namespace Rekindle.Machine

/-! ### Attempts above what waits -/

/-- An attempt whose activations are above some that wait. -/
def Attempt.over (waiting : List Activation) : Attempt → Attempt
  | .running store activations => .running store (activations ++ waiting)
  | .blocked store activations => .blocked store (activations ++ waiting)
  | .returned store result => complete store result waiting
  | .raised store trap activations => .raised store trap (activations ++ waiting)

/-- A step whose activations are above some that wait. -/
def Progress.over (waiting : List Activation) : Progress → Progress
  | .running store activations => .running store (activations ++ waiting)
  | .blocked store activations => .blocked store (activations ++ waiting)
  | .finished store (.ok result) => (complete store result waiting).settle
  | .finished store (.error trap) => unwind store trap waiting

/-- Activations of which the last one is no initializer. They end by returning or by a trap. -/
inductive Whole : List Activation → Prop where
  | single {activation : Activation}
      (returns : ∀ instantiation, activation ≠ .initializer instantiation) : Whole [activation]
  | cons (activation : Activation) {activations : List Activation} (whole : Whole activations) :
      Whole (activation :: activations)

/-- No activations, or some of which the last one is no initializer. -/
def Hollow (activations : List Activation) : Prop := activations = [] ∨ Whole activations

/-- What comes of whole activations. -/
def Attempt.Whole : Attempt → Prop
  | .running _ activations => Machine.Whole activations
  | .raised _ _ activations => Hollow activations
  | .blocked _ _ | .returned _ _ => True

def Progress.Whole : Progress → Prop
  | .running _ activations => Machine.Whole activations
  | .blocked _ _ | .finished _ _ => True

section Wholes

variable {activation other : Activation} {activations : List Activation}

theorem Whole.hollow (whole : Whole activations) : Hollow activations := .inr whole

theorem Whole.tail (whole : Whole (activation :: activations)) : Hollow activations := by
  cases whole with
  | single => exact .inl rfl
  | cons _ whole => exact .inr whole

theorem Hollow.cons (hollow : Hollow activations)
    (returns : ∀ instantiation, activation ≠ .initializer instantiation) :
    Whole (activation :: activations) := by
  rcases hollow with rfl | whole
  · exact .single returns
  · exact .cons activation whole

theorem Hollow.body (hollow : Hollow activations) (frame : Frame) :
    Whole (.body frame :: activations) :=
  hollow.cons (by simp)

theorem whole_call (target : BoundRoutine) (parameters : List Value) :
    Whole [.call target parameters] :=
  .single (by simp)

theorem depth_append (upper lower : List Activation) :
    depth (upper ++ lower) = depth upper + depth lower :=
  List.countP_append

theorem depth_body (frame : Frame) (below : List Activation) :
    depth (.body frame :: below) = depth below + 1 :=
  List.countP_cons_of_pos rfl

end Wholes

/-- Attempts above waiting activations with a number of bodies are one attempt, whatever waits. -/
def Based (level : Nat) (attempts : List Activation → Attempt) : Prop :=
  ∃ outcome : Attempt, outcome.Whole ∧
    ∀ waiting, depth waiting = level → attempts waiting = outcome.over waiting

variable {limit level : Nat} {thread : ThreadId} {store : Store}
  {activations below : List Activation}

namespace Based

theorem running (store : Store) (whole : Whole activations) :
    Based level fun waiting => .running store (activations ++ waiting) :=
  ⟨.running store activations, whole, fun _ _ => rfl⟩

theorem blocked (store : Store) (activations : List Activation) :
    Based level fun waiting => .blocked store (activations ++ waiting) :=
  ⟨.blocked store activations, trivial, fun _ _ => rfl⟩

theorem raised (store : Store) (trap : Trap) (hollow : Hollow activations) :
    Based level fun waiting => .raised store trap (activations ++ waiting) :=
  ⟨.raised store trap activations, hollow, fun _ _ => rfl⟩

theorem complete (store : Store) (result : Option Value) (hollow : Hollow below) :
    Based level fun waiting => Machine.complete store result (below ++ waiting) := by
  rcases below with _ | ⟨activation, others⟩
  · exact ⟨.returned store result, trivial, fun _ _ => rfl⟩
  · have whole := hollow.resolve_left (List.cons_ne_nil _ _)
    cases activation with
    | body frame =>
        rcases resumed : frame.resume store result with trap | frame
        · simp only [List.cons_append, Machine.complete, resumed]
          exact raised store trap whole.hollow
        · simp only [List.cons_append, Machine.complete, resumed]
          exact running store (whole.tail.body frame)
    | initializer | targets | call | access => exact running store whole

theorem entering (store : Store) (target : BoundRoutine) (parameters : List Value)
    (hollow : Hollow below) :
    Based level fun waiting => entering limit store target parameters (below ++ waiting) := by
  rcases entered : Frame.enter limit (depth below + level + 1) store target parameters with
    trap | frame
  · refine ⟨.raised store trap below, hollow, fun waiting same => ?_⟩
    simp only [Machine.entering, depth_append, same, entered]
    rfl
  · refine ⟨.running store (.body frame :: below), hollow.body frame, fun waiting same => ?_⟩
    simp only [Machine.entering, depth_append, same, entered]
    rfl

theorem startInitializer (store : Store) (instantiation : Instantiation)
    (whole : Whole activations) : Based level fun waiting =>
      startInitializer limit store instantiation (activations ++ waiting) := by
  rcases found : initializerOf store instantiation with _ | target
  · simp only [Machine.startInitializer, found]
    exact running store (.cons (.initializer instantiation) whole)
  · simp only [startInitializer_eq found]
    exact entering store target [] (Whole.cons (.initializer instantiation) whole).hollow

theorem acquire (store : Store) (instantiation : Instantiation) (whole : Whole activations)
    {proceed : List Activation → Store → Attempt}
    (proceeds : ∀ ready, Based level fun waiting => proceed waiting ready) :
    Based level fun waiting =>
      acquire limit thread store instantiation (activations ++ waiting) (proceed waiting) := by
  rcases asks : store.ask thread instantiation with trap | ⟨ready, ticket⟩
  · simp only [Machine.acquire, asks]
    exact raised store trap whole.hollow
  · cases ticket with
    | run =>
        simp only [Machine.acquire, asks]
        exact startInitializer ready instantiation whole
    | ready =>
        simp only [Machine.acquire, asks]
        exact proceeds ready
    | failed cause =>
        simp only [Machine.acquire, asks]
        exact raised ready _ whole.hollow
    | wait =>
        simp only [Machine.acquire, asks]
        exact blocked ready activations

theorem proceedWith (store : Store) (frame : Frame) (hollow : Hollow below)
    (moved : Except Trap (Store × Frame)) :
    Based level fun waiting => proceedWith store frame (below ++ waiting) moved := by
  rcases moved with trap | ⟨after, next⟩
  · exact raised store trap (hollow.body frame).hollow
  · exact running after (hollow.body next)

theorem accessField (store : Store) (frame : Frame) (hollow : Hollow below)
    (reference : FieldRef) (use : Store → Address → Except Trap (Store × Frame)) :
    Based level fun waiting =>
      accessField limit thread store frame (below ++ waiting) reference use := by
  unfold Machine.accessField
  rcases frame.address store reference with trap | place
  · exact raised store trap (hollow.body frame).hollow
  · exact acquire store place.instantiation (hollow.body frame) fun ready =>
      proceedWith ready frame hollow (use ready place)

theorem call (store : Store) (target : BoundRoutine) (parameters : List Value)
    (hollow : Hollow below) :
    Based level fun waiting => call limit thread store target parameters (below ++ waiting) := by
  rcases owned : ownerOf store target with trap | instantiation
  · simp only [Machine.call, owned]
    exact raised store trap hollow
  · simp only [call_eq owned]
    have whole : Whole (.call target parameters :: below) := hollow.cons (by simp)
    exact acquire store instantiation whole fun ready => entering ready target parameters hollow

theorem stepBody (store : Store) (frame : Frame) (hollow : Hollow below)
    (instruction : Instruction) : Based level fun waiting =>
      stepBody limit thread store frame (below ++ waiting) instruction := by
  have trapped (trap : Trap) : Based level fun waiting =>
      .raised store trap (.body frame :: (below ++ waiting)) :=
    raised store trap (hollow.body frame).hollow
  have executed : Based level fun waiting =>
      Machine.proceedWith store frame (below ++ waiting) (frame.execute store instruction) :=
    proceedWith store frame hollow _
  cases instruction with
  | loadField | loadFieldAddress => exact accessField store frame hollow _ _
  | storeField reference =>
      simp only [Machine.stepBody]
      rcases frame.pop with trap | ⟨value, rest⟩
      · exact trapped trap
      · exact accessField store frame hollow reference _
  | call reference =>
      simp only [Machine.stepBody]
      rcases prepareCall store frame reference with trap | ⟨parameters, rest⟩
      · exact trapped trap
      · exact running store (.cons (.call (frame.bound reference) parameters) (hollow.body rest))
  | invokeCallback =>
      simp only [Machine.stepBody]
      rcases prepareInvoke frame with trap | ⟨targets, rest⟩
      · exact trapped trap
      · exact running store (.cons (.targets targets) (hollow.body rest))
  | ret =>
      simp only [Machine.stepBody]
      rcases resultOf frame with trap | result
      · exact trapped trap
      · exact complete store result hollow
  | _ => exact executed

theorem attempt (limit : Nat) (thread : ThreadId) (store : Store) (whole : Whole activations) :
    Based level fun waiting => attempt limit thread store (activations ++ waiting) := by
  rcases activations with _ | ⟨activation, below⟩
  · cases whole
  · have hollow := whole.tail
    cases activation with
    | body frame =>
        simp only [List.cons_append, Machine.attempt]
        rcases frame.instruction? with _ | instruction
        · exact raised store _ whole.hollow
        · exact stepBody store frame hollow instruction
    | initializer instantiation =>
        cases whole with
        | single returns => exact absurd rfl (returns instantiation)
        | cons _ whole => exact running _ whole
    | targets targets =>
        cases targets with
        | nil => exact complete store none hollow
        | cons target others =>
            have whole : Whole (.targets others :: below) := hollow.cons (by simp)
            exact running store (.cons (.call target []) whole)
    | call target parameters => exact call store target parameters hollow
    | access instantiation =>
        exact acquire store instantiation whole fun ready => complete ready none hollow

end Based

/-! ### Steps above what waits -/

theorem unwind_append (store : Store) (trap : Trap) (activations waiting : List Activation) :
    unwind store trap (activations ++ waiting) = (unwind store trap activations).over waiting := by
  induction activations generalizing trap with
  | nil => rfl
  | cons activation others ih =>
      cases activation with
      | body frame =>
          simp only [List.cons_append, unwind]
          rcases frame.receive trap with passed | frame
          · exact ih passed
          · rfl
      | initializer => rfl
      | targets | call | access => exact ih trap

theorem settle_over (outcome : Attempt) (waiting : List Activation) :
    (outcome.over waiting).settle = outcome.settle.over waiting := by
  cases outcome with
  | running | blocked | returned => rfl
  | raised store trap activations => exact unwind_append store trap activations waiting

theorem unwind_whole (store : Store) (trap : Trap) (hollow : Hollow activations) :
    (unwind store trap activations).Whole := by
  induction activations generalizing store trap with
  | nil => trivial
  | cons activation others ih =>
      have whole := hollow.resolve_left (List.cons_ne_nil _ _)
      cases activation with
      | body frame =>
          simp only [unwind]
          rcases frame.receive trap with passed | frame
          · exact ih store passed whole.tail
          · exact whole.tail.body frame
      | initializer instantiation =>
          cases whole with
          | single returns => exact absurd rfl (returns instantiation)
          | cons _ whole => exact whole
      | targets | call | access => exact ih store trap whole.tail

/-- A step above what waits is the same step, whatever waits. -/
theorem exists_step (limit level : Nat) (thread : ThreadId) (store : Store)
    (whole : Whole activations) : ∃ progress : Progress, progress.Whole ∧
      ∀ waiting, depth waiting = level →
        step limit thread store (activations ++ waiting) = progress.over waiting := by
  have based : Based level fun waiting => attempt limit thread store (activations ++ waiting) :=
    .attempt limit thread store whole
  rcases based with ⟨outcome, stays, attempts⟩
  refine ⟨outcome.settle, ?_, fun waiting same => ?_⟩
  · cases outcome with
    | running | blocked | returned => exact stays
    | raised store trap activations => exact unwind_whole store trap stays
  · have attempted : attempt limit thread store (activations ++ waiting) = outcome.over waiting :=
      attempts waiting same
    rw [step, attempted, settle_over]

/-! ### Runs above what waits -/

/-- A run that goes on after a step. -/
def Progress.run (limit : Nat) (thread : ThreadId) (steps : Nat) :
    Progress → Option (Store × Except Trap (Option Value))
  | .running store activations => Machine.run limit thread steps store activations
  | .blocked _ _ => none
  | .finished store result => some (store, result)

theorem run_succ (limit : Nat) (thread : ThreadId) (steps : Nat) (store : Store)
    (activations : List Activation) : run limit thread (steps + 1) store activations =
      (step limit thread store activations).run limit thread steps := by
  rw [run]
  cases step limit thread store activations <;> rfl

/-- What activations above a number of waiting bodies end with, and the store then. -/
inductive Settles (limit : Nat) (thread : ThreadId) (level : Nat) :
    Store → List Activation → Store → Except Trap (Option Value) → Prop where
  | finished {store after : Store} {activations : List Activation}
      {result : Except Trap (Option Value)}
      (ends : ∀ waiting, depth waiting = level →
        step limit thread store (activations ++ waiting) =
          (Progress.finished after result).over waiting) :
      Settles limit thread level store activations after result
  | running {store middle after : Store} {activations next : List Activation}
      {result : Except Trap (Option Value)}
      (first : ∀ waiting, depth waiting = level →
        step limit thread store (activations ++ waiting) =
          (Progress.running middle next).over waiting)
      (others : Settles limit thread level middle next after result) :
      Settles limit thread level store activations after result

variable {after : Store} {final : Store × Except Trap (Option Value)}
  {result : Except Trap (Option Value)} {waiting : List Activation}

/-- A run above what waits comes to the end of what is above, and goes on from there. -/
theorem exists_settles {steps : Nat} (whole : Whole activations)
    (runs : run limit thread steps store (activations ++ waiting) = some final) :
    ∃ middle passed fewer, fewer < steps ∧
      Settles limit thread (depth waiting) store activations middle passed ∧
      ((Progress.finished middle passed).over waiting).run limit thread fewer = some final := by
  induction steps generalizing store activations with
  | zero => cases runs
  | succ steps ih =>
      rcases exists_step limit (depth waiting) thread store whole with ⟨progress, stays, stepped⟩
      rw [run_succ, stepped waiting rfl] at runs
      rcases progress with ⟨middle, next⟩ | ⟨middle, next⟩ | ⟨middle, passed⟩
      · rcases ih stays runs with ⟨last, passed, fewer, less, settles, runsLast⟩
        exact ⟨last, passed, fewer, Nat.lt_succ_of_lt less, .running stepped settles, runsLast⟩
      · cases runs
      · exact ⟨middle, passed, steps, Nat.lt_succ_self steps, .finished stepped, runs⟩

/-- What goes on after the end of what is above goes on from above. -/
theorem Settles.run (settles : Settles limit thread (depth waiting) store activations after result)
    {steps : Nat}
    (runs : ((Progress.finished after result).over waiting).run limit thread steps = some final) :
    ∃ more, run limit thread more store (activations ++ waiting) = some final := by
  induction settles with
  | finished ends => exact ⟨steps + 1, by rw [run_succ, ends waiting rfl, runs]⟩
  | running first _ ih =>
      rcases ih runs with ⟨more, runsFirst⟩
      exact ⟨more + 1, by rw [run_succ, first waiting rfl]; exact runsFirst⟩

/-- What is above leads to what it ends with below. -/
theorem Settles.leads
    (settles : Settles limit thread (depth waiting) store activations after result)
    {middle : Store} {next : List Activation}
    (resumes : (Progress.finished after result).over waiting = .running middle next) :
    Leads limit thread store (activations ++ waiting) middle next := by
  induction settles with
  | finished ends => exact .step ((ends waiting rfl).trans resumes) .refl
  | running first _ ih => exact .step (first waiting rfl) (ih resumes)

end Rekindle.Machine
