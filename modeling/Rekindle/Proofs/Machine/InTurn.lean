import Rekindle.Proofs.Machine.Above
import Rekindle.Proofs.Machine.Changing

/-!
# Calls in turn

What a call comes to when a number of bodies wait for it, and what calls come to that are made one
after the other until one fails. A list of targets comes to what calls of them come to in turn.
-/

namespace Rekindle.Machine

/-! ### What activations come to -/

/-- A body in execution that waits for a call and has nothing left to do then but return. -/
def Frame.resting : Frame where
  module := ⟨0⟩
  routine := ⟨0⟩
  name := ""
  body := { zeroesLocals := false, locals := [], instructions := #[.nop, .ret], handlers := [] }
  returns := false
  arguments := []
  parameters := #[]
  locals := #[]
  operands := .empty
  position := 0

def resting (level : Nat) : List Activation := List.replicate level (.body .resting)

/-- The trap that a computation ended by, if it did. -/
def failure : Except Trap (Option Value) → Option Trap
  | .ok _ => none
  | .error trap => some trap

/-- A thread comes to its end, with a store and a trap if one ended it. -/
def Progress.Ends (limit : Nat) (thread : ThreadId) (progress : Progress) (after : Store)
    (trap? : Option Trap) : Prop :=
  ∃ steps result, progress.run limit thread steps = some (after, result) ∧ failure result = trap?

/-- What activations come to above a number of bodies that only wait for them. -/
def EndsAbove (limit : Nat) (thread : ThreadId) (level : Nat) (store : Store)
    (activations : List Activation) : Store → Option Trap → Prop :=
  (Progress.running store (activations ++ resting level)).Ends limit thread

/-- Calls that are made one after the other, until one fails. -/
inductive InTurn (limit : Nat) (thread : ThreadId) (level : Nat) :
    Store → List BoundRoutine → Store → Option Trap → Prop where
  | done (store : Store) : InTurn limit thread level store [] store none
  | next {store middle after : Store} {target : BoundRoutine} {targets : List BoundRoutine}
      {trap? : Option Trap}
      (returns : EndsAbove limit thread level store [.call target []] middle none)
      (others : InTurn limit thread level middle targets after trap?) :
      InTurn limit thread level store (target :: targets) after trap?
  | fails {store after : Store} {target : BoundRoutine} {trap : Trap}
      (fails : EndsAbove limit thread level store [.call target []] after (some trap))
      (targets : List BoundRoutine) :
      InTurn limit thread level store (target :: targets) after (some trap)

variable {limit level : Nat} {thread : ThreadId} {store middle after : Store}
  {activations lower : List Activation} {result : Except Trap (Option Value)}
  {trap? : Option Trap}

namespace Progress

theorem ends_running_iff : (running store activations).Ends limit thread after trap? ↔
    (step limit thread store activations).Ends limit thread after trap? := by
  constructor
  · rintro ⟨steps, result, runs, same⟩
    cases steps with
    | zero => cases runs
    | succ steps =>
        refine ⟨steps, result, ?_, same⟩
        rw [← run_succ]
        exact runs
  · rintro ⟨steps, result, runs, same⟩
    refine ⟨steps + 1, result, ?_, same⟩
    rw [← run_succ] at runs
    exact runs

theorem ends_finished_iff : (finished store result).Ends limit thread after trap? ↔
    after = store ∧ trap? = failure result := by
  constructor
  · rintro ⟨steps, ended, runs, rfl⟩
    cases runs
    exact ⟨rfl, rfl⟩
  · rintro ⟨rfl, rfl⟩
    exact ⟨0, result, rfl, rfl⟩

theorem ends_of_settle (running : attempt limit thread store activations = .running middle lower) :
    (Progress.running store activations).Ends limit thread after trap? ↔
      (Progress.running middle lower).Ends limit thread after trap? := by
  rw [ends_running_iff, step_of_running running]

theorem ends_of_leads (leads : Leads limit thread store activations middle lower) :
    (Progress.running store activations).Ends limit thread after trap? ↔
      (Progress.running middle lower).Ends limit thread after trap? := by
  induction leads with
  | refl => exact Iff.rfl
  | step first _ ih =>
      rw [ends_running_iff, first]
      exact ih

end Progress

open Progress

/-! ### Bodies that only wait -/

theorem depth_resting (level : Nat) : depth (resting level) = level := by
  induction level with
  | zero => rfl
  | succ level ih =>
      simp only [depth, resting, List.replicate_succ, List.countP_cons] at ih ⊢
      rw [ih]
      rfl

theorem complete_resting (store : Store) (result : Option Value) (level : Nat) :
    (complete store result (resting level)).settle.Ends limit thread after trap? ↔
      after = store ∧ trap? = none := by
  induction level generalizing result with
  | zero => exact ends_finished_iff
  | succ level ih =>
      have resumed : complete store result (resting (level + 1)) =
          .running store (.body Frame.resting.advance :: resting level) := rfl
      have returned : step limit thread store (.body Frame.resting.advance :: resting level) =
          (complete store none (resting level)).settle := rfl
      rw [resumed, Attempt.settle, ends_running_iff, returned]
      exact ih none

theorem unwind_resting (store : Store) (trap : Trap) (level : Nat) :
    unwind store trap (resting level) = .finished store (.error trap) := by
  induction level with
  | zero => rfl
  | succ level ih =>
      have passes : Frame.resting.receive trap = .error trap := receive_of_unguarded rfl trap
      simp only [resting, List.replicate_succ, unwind, passes]
      exact ih

theorem over_resting (store : Store) (result : Except Trap (Option Value)) (level : Nat) :
    ((finished store result).over (resting level)).Ends limit thread after trap? ↔
      after = store ∧ trap? = failure result := by
  rcases result with trap | value
  · simp only [Progress.over, unwind_resting]
    exact ends_finished_iff
  · exact complete_resting store value level

/-! ### What is above and what is below -/

/-- Activations come to one thing only. -/
theorem EndsAbove.unique {last : Store} {other? : Option Trap}
    (ends : EndsAbove limit thread level store activations after trap?)
    (endsToo : EndsAbove limit thread level store activations last other?) :
    after = last ∧ trap? = other? := by
  rcases ends with ⟨steps, result, runs, rfl⟩
  rcases endsToo with ⟨more, other, runsToo, rfl⟩
  cases run_unique runs runsToo
  exact ⟨rfl, rfl⟩

/-- Activations come to what they settle. -/
theorem endsAbove_iff_settles (whole : Whole activations) :
    EndsAbove limit thread level store activations after trap? ↔
      ∃ result, Settles limit thread level store activations after result ∧
        failure result = trap? := by
  constructor
  · rintro ⟨steps, ended, runs, rfl⟩
    rcases exists_settles whole runs with ⟨middle, result, fewer, _, settles, runsLast⟩
    rcases (over_resting middle result level).mp ⟨fewer, ended, runsLast, rfl⟩ with ⟨rfl, same⟩
    rw [depth_resting] at settles
    exact ⟨result, settles, same.symm⟩
  · rintro ⟨result, settles, rfl⟩
    have rests : ((finished after result).over (resting level)).Ends limit thread after
        (failure result) := (over_resting after result level).mpr ⟨rfl, rfl⟩
    rcases rests with ⟨steps, ended, runs, same⟩
    rw [← depth_resting level] at settles
    rcases settles.run runs with ⟨more, runsFirst⟩
    exact ⟨more, ended, runsFirst, same⟩

theorem EndsAbove.modules_eq (ends : EndsAbove limit thread level store activations after trap?) :
    after.modules = store.modules := by
  rcases ends with ⟨steps, result, runs, _⟩
  exact (run_changes runs).modules_eq

theorem EndsAbove.garbagePasses_eq
    (ends : EndsAbove limit thread level store activations after trap?) :
    after.garbagePasses = store.garbagePasses := by
  rcases ends with ⟨steps, result, runs, _⟩
  exact (run_changes runs).garbagePasses_eq

theorem InTurn.garbagePasses_eq {targets : List BoundRoutine}
    (turn : InTurn limit thread level store targets after trap?) :
    after.garbagePasses = store.garbagePasses := by
  induction turn with
  | done => rfl
  | next returns _ ih => rw [ih, returns.garbagePasses_eq]
  | fails fails => exact fails.garbagePasses_eq

/-- What goes on when activations have ended above some that wait, by a trap or not. -/
def resumption (store : Store) (waiting : List Activation) : Option Trap → Progress
  | none => (complete store none waiting).settle
  | some trap => unwind store trap waiting

/-- Activations that wait and make nothing of a result. -/
def Heedless (modules : Array Module) (waiting : List Activation) : Prop :=
  ∀ (store : Store) (result : Option Value), store.modules = modules →
    complete store result waiting = complete store none waiting

theorem over_eq_resumption {waiting : List Activation}
    (heedless : Heedless store.modules waiting) (kept : middle.modules = store.modules) :
    (finished middle result).over waiting = resumption middle waiting (failure result) := by
  rcases result with trap | value
  · rfl
  · simp only [Progress.over, failure, resumption, heedless middle value kept]

/-- What is above others comes to something first, above the others too, and the others then go
on. -/
theorem endsAbove_append (whole : Whole activations)
    (heedless : Heedless store.modules (lower ++ resting level)) :
    EndsAbove limit thread level store (activations ++ lower) after trap? ↔
      ∃ middle passed?,
        EndsAbove limit thread (level + depth lower) store activations middle passed? ∧
          (resumption middle (lower ++ resting level) passed?).Ends limit thread after trap? := by
  have deep : depth (lower ++ resting level) = level + depth lower := by
    rw [depth_append, depth_resting, Nat.add_comm]
  constructor
  · rintro ⟨steps, ended, runs, same⟩
    rw [List.append_assoc] at runs
    rcases exists_settles whole runs with ⟨middle, result, fewer, _, settles, runsLast⟩
    rw [deep] at settles
    have ends := (endsAbove_iff_settles whole).mpr ⟨result, settles, rfl⟩
    rw [over_eq_resumption heedless ends.modules_eq] at runsLast
    exact ⟨middle, failure result, ends, fewer, ended, runsLast, same⟩
  · rintro ⟨middle, passed?, ends, steps, ended, runs, same⟩
    rcases (endsAbove_iff_settles whole).mp ends with ⟨result, settles, rfl⟩
    rw [← over_eq_resumption heedless ends.modules_eq] at runs
    rw [← deep] at settles
    rcases settles.run runs with ⟨more, runsFirst⟩
    rw [← List.append_assoc] at runsFirst
    exact ⟨more, ended, runsFirst, same⟩

/-! ### Targets -/

theorem inTurn_nil_iff : InTurn limit thread level store [] after trap? ↔
    after = store ∧ trap? = none := by
  constructor
  · intro turn
    cases turn with
    | done => exact ⟨rfl, rfl⟩
  · rintro ⟨rfl, rfl⟩
    exact .done after

theorem inTurn_cons_iff {target : BoundRoutine} {targets : List BoundRoutine} :
    InTurn limit thread level store (target :: targets) after trap? ↔
      ∃ middle passed?, EndsAbove limit thread level store [.call target []] middle passed? ∧
        match passed? with
        | none => InTurn limit thread level middle targets after trap?
        | some trap => after = middle ∧ trap? = some trap := by
  constructor
  · intro turn
    cases turn with
    | next returns others => exact ⟨_, none, returns, others⟩
    | fails fails => exact ⟨after, some _, fails, rfl, rfl⟩
  · rintro ⟨middle, passed?, ends, others⟩
    cases passed? with
    | none => exact .next ends others
    | some trap =>
        rcases others with ⟨rfl, rfl⟩
        exact .fails ends targets

/-- A list of targets comes to what calls of them come to in turn. -/
theorem endsAbove_targets (targets : List BoundRoutine) :
    EndsAbove limit thread level store [.targets targets] after trap? ↔
      InTurn limit thread level store targets after trap? := by
  induction targets generalizing store with
  | nil =>
      have completes : step limit thread store (.targets [] :: resting level) =
          (complete store none (resting level)).settle := rfl
      rw [inTurn_nil_iff, EndsAbove, List.singleton_append, ends_running_iff, completes]
      exact complete_resting store none level
  | cons target others ih =>
      have calls : attempt limit thread store ([.targets (target :: others)] ++ resting level) =
          .running store ([.call target []] ++ [.targets others] ++ resting level) := rfl
      have heedless : Heedless store.modules ([.targets others] ++ resting level) :=
        fun _ _ _ => rfl
      rw [EndsAbove, ends_of_settle calls, inTurn_cons_iff]
      refine (endsAbove_append (whole_call target []) heedless).trans ?_
      refine exists_congr fun middle => exists_congr fun passed? => and_congr_right fun _ => ?_
      cases passed? with
      | none => exact ih
      | some trap =>
          have unwinds : resumption middle ([.targets others] ++ resting level) (some trap) =
              .finished middle (.error trap) := unwind_resting middle trap level
          rw [unwinds]
          exact ends_finished_iff

end Rekindle.Machine
