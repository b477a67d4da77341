import Rekindle.Proofs.Transparency.Frames
import Rekindle.Proofs.Transparency.Wrapping

/-!
# Alike activations

The activations of two machines of which one runs a module and the other its woven form. They are
alike one by one, except that under the copy of an initializer stands the wrapper that called it,
where the first machine has the initializer itself.
-/

namespace Rekindle.Machine

open Fallible Reload Validity

namespace Weave

variable (weave : Weave)

/-- A frame of a wrapper that has called the copy and waits for its end. -/
structure Wraps (wrapper : Frame) : Prop where
  ahead : ∃ arity copy load unload declared,
    wrapper.Ahead firstModule (.call (ownRoutine arity copy) ::
      (registration arity weave.dispatcher.registerLoad load ++
        registration arity weave.dispatcher.registerUnload unload ++ [.ret])) ∧
    weave.woven.routine? copy = some declared ∧ declared.returns = false

/-- The activations of a machine with the module and those of one with its woven form. -/
inductive Stacked (names : List Nat) : List Activation → List Activation → Prop where
  | nil : Stacked names [] []
  | body {given : Bool} {left right : Frame} {below other : List Activation}
      (frames : left.Alike weave.module names given right) (others : Stacked names below other) :
      Stacked names (.body left :: below) (.body right :: other)
  | wrapped {left right wrapper : Frame} {below other : List Activation}
      (frames : left.Alike weave.module names false right) (wraps : weave.Wraps wrapper)
      (others : Stacked names below other) :
      Stacked names (.body left :: below) (.body right :: .body wrapper :: other)
  | initializer {instantiation : Instantiation} {below other : List Activation}
      (placed : instantiation.Placed weave.module) (others : Stacked names below other) :
      Stacked names (.initializer instantiation :: below) (.initializer instantiation :: other)
  | targets {targets : List BoundRoutine} {below other : List Activation}
      (known : ∀ target ∈ targets, target.Known weave.module) (others : Stacked names below other) :
      Stacked names (.targets targets :: below) (.targets targets :: other)
  | call {target : BoundRoutine} {parameters counterparts : List Value}
      {below other : List Activation} (known : target.Known weave.module)
      (values : List.Forall₂ (Value.Alike weave.module names) parameters counterparts)
      (others : Stacked names below other) :
      Stacked names (.call target parameters :: below) (.call target counterparts :: other)
  | access {instantiation : Instantiation} {below other : List Activation}
      (placed : instantiation.Placed weave.module) (others : Stacked names below other) :
      Stacked names (.access instantiation :: below) (.access instantiation :: other)

/-- Attempts that come to the same, under the names there were and perhaps more. -/
inductive Attempts (thread : ThreadId) (names : List Nat) : Attempt → Attempt → Prop where
  | running {more : List Nat} {plain woven : Store} {left right : List Activation}
      (grown : names <+: more) (stores : weave.Stores thread more plain woven)
      (stacked : weave.Stacked more left right) :
      Attempts thread names (.running plain left) (.running woven right)
  | returned {plain woven : Store} {result other : Option Value}
      (stores : weave.Stores thread names plain woven)
      (results : Results weave.module names result other) :
      Attempts thread names (.returned plain result) (.returned woven other)
  | raised {plain woven : Store} {trap other : Trap} {left right : List Activation}
      (stores : weave.Stores thread names plain woven)
      (traps : trap.Alike weave.module names other) (stacked : weave.Stacked names left right) :
      Attempts thread names (.raised plain trap left) (.raised woven other right)

/-- Steps that come to the same, under the names there were and perhaps more. -/
inductive Progresses (thread : ThreadId) (names : List Nat) : Progress → Progress → Prop where
  | running {more : List Nat} {plain woven : Store} {left right : List Activation}
      (grown : names <+: more) (stores : weave.Stores thread more plain woven)
      (stacked : weave.Stacked more left right) :
      Progresses thread names (.running plain left) (.running woven right)
  | finished {plain woven : Store} {result other : Except Trap (Option Value)}
      (stores : weave.Stores thread names plain woven)
      (results : Mirrored weave.module names (Results weave.module names) result other) :
      Progresses thread names (.finished plain result) (.finished woven other)

end Weave

namespace Weave

variable {weave : Weave} {thread : ThreadId} {names more : List Nat} {plain woven : Store}
  {left right : List Activation} {wrapper : Frame}

theorem Stacked.mono (grown : names <+: more) (stacked : weave.Stacked names left right) :
    weave.Stacked more left right := by
  induction stacked with
  | nil => exact .nil
  | body frames _ ih => exact .body (frames.mono grown) ih
  | wrapped frames wraps _ ih => exact .wrapped (frames.mono grown) wraps ih
  | initializer placed _ ih => exact .initializer placed ih
  | targets known _ ih => exact .targets known ih
  | call known values _ ih =>
      exact .call known (List.Forall₂.imp (fun _ _ alike => alike.mono grown) values) ih
  | access placed _ ih => exact .access placed ih

/-- The woven form is at least as deep in calls. -/
theorem Stacked.depth_le (stacked : weave.Stacked names left right) : depth left ≤ depth right := by
  induction stacked with
  | nil => exact Nat.le_refl _
  | body _ _ ih =>
      simp only [depth, List.countP_cons, Activation.isBody] at ih ⊢
      omega
  | wrapped _ _ _ ih =>
      simp only [depth, List.countP_cons, Activation.isBody] at ih ⊢
      omega
  | initializer _ _ ih | targets _ _ ih | call _ _ _ ih | access _ _ ih =>
      simp only [depth, List.countP_cons, Activation.isBody] at ih ⊢
      omega

theorem Wraps.receive (wraps : weave.Wraps wrapper) (trap : Trap) :
    wrapper.receive trap = .error trap := by
  rcases wraps.ahead with ⟨_, _, _, _, _, ahead, _⟩
  cases trap with
  | thrown value => simp [Frame.receive, ahead.handlers_eq]
  | _ => rfl

/-- A wrapper has its registrations ahead after the call of the copy. -/
theorem Wraps.advance (wraps : weave.Wraps wrapper) :
    ∃ arity load unload,
      wrapper.advance.Ahead firstModule (registration arity weave.dispatcher.registerLoad load ++
        registration arity weave.dispatcher.registerUnload unload ++ [.ret]) := by
  rcases wraps.ahead with ⟨arity, _, load, unload, _, ahead, _⟩
  exact ⟨arity, load, unload, ahead.advance⟩

/-- The end of the copy takes a wrapper to its registrations. -/
theorem Wraps.complete (wraps : weave.Wraps wrapper) (prepared : weave.Prepared woven)
    (below : List Activation) :
    complete woven none (.body wrapper :: below) =
      .running woven (.body wrapper.advance :: below) := by
  rcases wraps.ahead with ⟨arity, copy, _, _, declared, ahead, found, silent⟩
  have loaded : woven.modules[wrapper.module.position]? = some weave.woven :=
    prepared.loaded ahead.module_eq
  have current : wrapper.instruction? = some (.call (ownRoutine arity copy)) := ahead.instruction?
  have resumes : wrapper.resume woven none = .ok wrapper.advance := by
    simp only [Frame.resume, current, Frame.calleeReturns, loaded]
    simp [ownRoutine, found, silent]
  simp only [Machine.complete, resumes]

/-! ### Frames on top -/

/-- Whatever alike frames are on top, the activations are alike. -/
def Carries (weave : Weave) (names : List Nat) (given : Bool) (below other : List Activation) :
    Prop :=
  ∀ more left right, names <+: more → left.Alike weave.module more given right →
    weave.Stacked more (.body left :: below) (.body right :: other)

section Carries

variable {given : Bool} {frame counterpart : Frame} {below other : List Activation}

theorem Stacked.carries (stacked : weave.Stacked names below other) :
    weave.Carries names given below other :=
  fun _ _ _ grown frames => .body frames (stacked.mono grown)

theorem Stacked.carries_wrapped (stacked : weave.Stacked names below other)
    (wraps : weave.Wraps wrapper) :
    weave.Carries names false below (.body wrapper :: other) :=
  fun _ _ _ grown frames => .wrapped frames wraps (stacked.mono grown)

theorem Carries.here (carries : weave.Carries names given below other)
    (frames : frame.Alike weave.module names given counterpart) :
    weave.Stacked names (.body frame :: below) (.body counterpart :: other) :=
  carries names frame counterpart (List.prefix_refl names) frames

theorem Carries.unwind (carries : weave.Carries names given below other)
    (stores : weave.Stores thread names plain woven)
    (frames : frame.Alike weave.module names given counterpart) {trap another : Trap}
    (traps : trap.Alike weave.module names another)
    (falls : ∀ trap another, trap.Alike weave.module names another →
      weave.Progresses thread names (unwind plain trap below) (unwind woven another other)) :
    weave.Progresses thread names (unwind plain trap (.body frame :: below))
      (unwind woven another (.body counterpart :: other)) := by
  rcases (receive_alike frames traps).outcome with
    ⟨one, two, received, otherReceived, caught⟩ | ⟨trap, another, received, otherReceived, traps⟩
  · simp only [Machine.unwind, received, otherReceived]
    exact .running (List.prefix_refl names) stores (carries.here caught)
  · simp only [Machine.unwind, received, otherReceived]
    exact falls trap another traps

theorem Carries.complete (carries : weave.Carries names given below other)
    (stores : weave.Stores thread names plain woven)
    (frames : frame.Alike weave.module names given counterpart) {result another : Option Value}
    (results : Results weave.module names result another) :
    weave.Attempts thread names (complete plain result (.body frame :: below))
      (complete woven another (.body counterpart :: other)) := by
  rcases (resume_alike stores frames results).outcome with
    ⟨one, two, resumed, otherResumed, resumes⟩ | ⟨trap, another, resumed, otherResumed, traps⟩
  · simp only [Machine.complete, resumed, otherResumed]
    exact .running (List.prefix_refl names) stores (carries.here resumes)
  · simp only [Machine.complete, resumed, otherResumed]
    exact .raised stores traps (carries.here frames)

end Carries

/-! ### Unwinding and completing -/

/-- A trap takes away alike activations, up to frames that receive it alike. -/
theorem Stacked.unwind (stacked : weave.Stacked names left right)
    (stores : weave.Stores thread names plain woven) {trap other : Trap}
    (traps : trap.Alike weave.module names other) :
    weave.Progresses thread names (unwind plain trap left) (unwind woven other right) := by
  induction stacked generalizing trap other with
  | nil => exact .finished stores (.error traps)
  | body frames others ih =>
      apply others.carries.unwind stores frames traps
      intro trap another traps
      exact ih traps
  | wrapped frames wraps others ih =>
      apply (others.carries_wrapped wraps).unwind stores frames traps
      intro trap another traps
      -- what the copy does not receive, the wrapper below it does not receive either
      simp only [Machine.unwind, wraps.receive]
      exact ih traps
  | initializer placed others ih =>
      exact .running (List.prefix_refl names) (stores.publish placed (.failed traps)) others
  | targets _ _ ih | call _ _ _ ih | access _ _ ih => exact ih traps

/-- Handing over alike results comes to the same. -/
theorem Stacked.complete (stacked : weave.Stacked names left right)
    (stores : weave.Stores thread names plain woven) {result other : Option Value}
    (results : Results weave.module names result other) :
    weave.Attempts thread names (complete plain result left) (complete woven other right) := by
  cases stacked with
  | nil => exact .returned stores results
  | body frames others => exact others.carries.complete stores frames results
  | wrapped frames wraps others =>
      exact (others.carries_wrapped wraps).complete stores frames results
  | initializer placed others =>
      exact .running (List.prefix_refl names) stores (.initializer placed others)
  | targets known others => exact .running (List.prefix_refl names) stores (.targets known others)
  | call known values others =>
      exact .running (List.prefix_refl names) stores (.call known values others)
  | access placed others => exact .running (List.prefix_refl names) stores (.access placed others)

theorem Progresses.outcome {progress other : Progress}
    (progresses : weave.Progresses thread names progress other) :
    (∃ more plain woven left right, progress = .running plain left ∧
      other = .running woven right ∧ names <+: more ∧ weave.Stores thread more plain woven ∧
      weave.Stacked more left right) ∨
    ∃ plain woven result counterpart, progress = .finished plain result ∧
      other = .finished woven counterpart ∧ weave.Stores thread names plain woven ∧
      Mirrored weave.module names (Results weave.module names) result counterpart := by
  cases progresses with
  | running grown stores stacked =>
      exact .inl ⟨_, _, _, _, _, rfl, rfl, grown, stores, stacked⟩
  | finished stores results => exact .inr ⟨_, _, _, _, rfl, rfl, stores, results⟩

theorem Attempts.settle {attempt other : Attempt}
    (attempts : weave.Attempts thread names attempt other) :
    weave.Progresses thread names attempt.settle other.settle := by
  cases attempts with
  | running grown stores stacked => exact .running grown stores stacked
  | returned stores results => exact .finished stores (.ok results)
  | raised stores traps stacked => exact stacked.unwind stores traps

end Weave

end Rekindle.Machine
