import Rekindle.Proofs.Transparency.Entering

/-!
# The simulation

Whatever one machine attempts with the module, the other comes to attempt with the woven form. So a
run of one machine ends when and as a run of the other does.
-/

namespace Rekindle.Machine

open Fallible Reload Validity

namespace Weave

variable {weave : Weave} {limit : Nat} {thread : ThreadId} {names : List Nat}
  {plain woven before : Store} {top left right : List Activation}
  {instantiation : Instantiation}

/-! ### Types that are made ready -/

theorem initializerOf_of_some (stores : weave.Stores thread names plain woven)
    (placed : instantiation.Placed weave.module) {id : RoutineId}
    (found : weave.module.initializer instantiation.type = .ok (some id)) :
    initializerOf plain instantiation = some ⟨instantiation.module, id, instantiation.arguments⟩ ∧
      initializerOf woven instantiation =
        some ⟨instantiation.module, id, instantiation.arguments⟩ := by
  have kept := weave.reloadable.woven.initializers _ id found
  constructor
  · simp only [initializerOf, stores.loaded placed.module_eq, found]
  · simp only [initializerOf, stores.prepared.loaded placed.module_eq, kept]

/-- An initializer that the woven form alone has runs to its end. -/
theorem made_leads {id : RoutineId} {declared : RoutineDecl} {arity : Nat}
    {load unload : Option RoutineId} (stores : weave.Stores thread names plain woven)
    (placed : instantiation.Placed weave.module)
    (found : weave.woven.initializer instantiation.type = .ok (some id))
    (isDeclared : weave.woven.routine? id = some declared)
    (hasBody : declared.body =
      some (Hook.straightLine (wrapperLine arity weave.dispatcher none load unload)))
    (takesNone : declared.parameters = []) (silent : declared.returns = false)
    (starts : attempt limit thread before top =
      startInitializer limit woven instantiation right)
    (shallow : Shallow limit thread before top) :
    ∃ after last, Leads limit thread before top after last ∧
      attempt limit thread after last = .running after (.initializer instantiation :: right) ∧
      weave.Aside woven after := by
  have target : initializerOf woven instantiation =
      some ⟨instantiation.module, id, instantiation.arguments⟩ := by
    simp only [initializerOf, stores.prepared.loaded placed.module_eq, found]
  rw [startInitializer_eq target] at starts
  have first : (BoundRoutine.mk instantiation.module id instantiation.arguments).module =
      firstModule := placed.module_eq
  have enough := shallow.enough starts
  rcases line_entered stores.prepared first isDeclared hasBody takesNone silent enough
    with ⟨frame, entered, ahead, _⟩
  rw [entered] at starts
  have toFrame := Leads.of_running starts
  rcases stores.prepared.wrapper_leads ahead (shallow.leads toFrame) with
    ⟨after, last, toLast, completes, aside⟩
  exact ⟨after, _, toFrame.trans toLast, completes, aside⟩

theorem startInitializer_follows (stores : weave.Stores thread names plain woven)
    (placed : instantiation.Placed weave.module) (stacked : weave.Stacked names left right)
    (active : woven.IsActive thread instantiation)
    (starts : attempt limit thread before top =
      startInitializer limit woven instantiation right)
    (shallow : Shallow limit thread before top) :
    weave.Follows limit thread names (startInitializer limit plain instantiation left) before
      top := by
  rcases placed.declared with ⟨type, declared, arity_eq⟩
  have waiting := Stacked.initializer placed stacked
  rcases initializer_of_valid weave.reloadable.valid instantiation.type with ⟨found?, found, owned⟩
  rcases found? with _ | id
  · have none_eq : initializerOf plain instantiation = none := by
      simp only [initializerOf, stores.loaded placed.module_eq, found]
    have plainStarts : startInitializer limit plain instantiation left =
        .running plain (.initializer instantiation :: left) := by
      simp only [startInitializer, none_eq]
    rw [plainStarts]
    cases weave.reloadable.woven.uninitialized _ type declared found with
    | still absent =>
        have stillNone : initializerOf woven instantiation = none := by
          simp only [initializerOf, stores.prepared.loaded placed.module_eq, absent]
        apply Follows.here
        rw [starts, startInitializer, stillNone]
        exact .running (List.prefix_refl names) stores waiting
    | made _ _ _ made isDeclared =>
        rcases made_leads stores placed made isDeclared rfl rfl rfl starts shallow with
          ⟨after, last, toLast, completes, aside⟩
        refine .later toLast (.here ?_)
        rw [completes]
        exact .running (List.prefix_refl names) (stores.aside aside) waiting
  · rcases owned id rfl with ⟨routine, isDeclared, _, owns⟩
    rcases initializerOf_of_some stores placed found with ⟨target, otherTarget⟩
    rw [startInitializer_eq target]
    rw [startInitializer_eq otherTarget] at starts
    rw [← owns] at declared
    refine entering_follows stores
      ⟨placed.module_eq, routine, isDeclared, type, declared, arity_eq⟩ isDeclared .nil waiting ?_
      starts shallow
    rw [owns, ← placed.module_eq]
    exact active

/-- What needs a type comes to the same: the type can be used, is initialized first, or has
failed. -/
theorem acquire_follows (stores : weave.Stores thread names plain woven)
    (placed : instantiation.Placed weave.module) (stacked : weave.Stacked names left right)
    {proceed otherProceed : Store → Attempt}
    (acquires : attempt limit thread before top =
      acquire limit thread woven instantiation right otherProceed)
    (shallow : Shallow limit thread before top)
    (goesOn : ∀ plainAfter wovenAfter, weave.Stores thread names plainAfter wovenAfter →
      wovenAfter.IsActive thread instantiation →
      attempt limit thread before top = otherProceed wovenAfter →
      weave.Follows limit thread names (proceed plainAfter) before top) :
    weave.Follows limit thread names (acquire limit thread plain instantiation left proceed) before
      top := by
  rcases stores.ask placed with
    ⟨plainAfter, wovenAfter, ticket, other, asks, asksToo, storesAfter, tickets, active⟩
  cases tickets with
  | run =>
      simp only [acquire, asks]
      simp only [acquire, asksToo] at acquires
      exact startInitializer_follows storesAfter placed stacked (active (.inl rfl)) acquires shallow
  | ready =>
      simp only [acquire, asks]
      simp only [acquire, asksToo] at acquires
      exact goesOn plainAfter wovenAfter storesAfter (active (.inr rfl)) acquires
  | failed causes =>
      simp only [acquire, asks]
      simp only [acquire, asksToo] at acquires
      apply Follows.here
      rw [acquires, storesAfter.typeName_eq placed]
      exact .raised storesAfter (.failed causes) stacked

/-! ### Instructions -/

section Bodies

variable {given : Bool} {frame counterpart wrapper : Frame} {below other : List Activation}
  {instruction : Instruction}

theorem proceedWith_attempts (stores : weave.Stores thread names plain woven)
    (carries : weave.Carries names given below other)
    (frames : frame.Alike weave.module names given counterpart)
    {moved otherMoved : Except Trap (Store × Frame)}
    (alike : Mirrored weave.module names (weave.Onward thread names given) moved otherMoved) :
    weave.Attempts thread names (proceedWith plain frame below moved)
      (proceedWith woven counterpart other otherMoved) := by
  rcases alike.outcome with
    ⟨⟨plainAfter, one⟩, ⟨wovenAfter, two⟩, rfl, rfl, more, grown, storesAfter, framesAfter⟩ |
    ⟨trap, another, rfl, rfl, traps⟩
  · exact .running grown storesAfter (carries more one two grown framesAfter)
  · exact .raised stores traps (carries.here frames)

theorem accessField_follows (stores : weave.Stores thread names plain woven)
    (carries : weave.Carries names given below other)
    (frames : frame.Alike weave.module names given counterpart) {arity : Nat}
    {reference : FieldRef} (fits : FieldRefFits weave.module arity reference)
    {use otherUse : Store → Address → Except Trap (Store × Frame)}
    (uses : ∀ plainAfter wovenAfter place, weave.Stores thread names plainAfter wovenAfter →
      place.instantiation.Placed weave.module →
      Mirrored weave.module names (weave.Onward thread names given) (use plainAfter place)
        (otherUse wovenAfter place))
    (attempted : attempt limit thread before top =
      accessField limit thread woven counterpart other reference otherUse)
    (shallow : Shallow limit thread before top) :
    weave.Follows limit thread names
      (accessField limit thread plain frame below reference use) before top := by
  rcases address_alike stores frames fits with ⟨place, address, otherAddress, placed⟩
  simp only [accessField, address]
  simp only [accessField, otherAddress] at attempted
  refine acquire_follows stores placed (carries.here frames) attempted shallow ?_
  intro plainAfter wovenAfter storesAfter _ goesOn
  apply Follows.here
  rw [goesOn]
  exact proceedWith_attempts storesAfter carries frames
    (uses plainAfter wovenAfter place storesAfter placed)

theorem call_follows (stores : weave.Stores thread names plain woven)
    (carries : weave.Carries names given below other)
    (frames : frame.Alike weave.module names given counterpart) {arity : Nat}
    {reference : RoutineRef} (fits : RoutineRefFits weave.module arity reference) :
    weave.Attempts thread names (stepBody limit thread plain frame below (.call reference))
      (stepBody limit thread woven counterpart other (.call reference)) := by
  have known := frames.bound_known fits
  rcases (prepareCall_alike stores frames fits).outcome with
    ⟨⟨parameters, rest⟩, ⟨counterparts, otherRest⟩, taken, otherTaken, values, restAlike⟩ |
    ⟨trap, another, taken, otherTaken, traps⟩
  · simp only [stepBody, taken, otherTaken, frames.bound_eq]
    exact .running (List.prefix_refl names) stores (.call known values (carries.here restAlike))
  · simp only [stepBody, taken, otherTaken]
    exact .raised stores traps (carries.here frames)

theorem invoke_follows (stores : weave.Stores thread names plain woven)
    (carries : weave.Carries names given below other)
    (frames : frame.Alike weave.module names given counterpart) :
    weave.Attempts thread names (stepBody limit thread plain frame below .invokeCallback)
      (stepBody limit thread woven counterpart other .invokeCallback) := by
  rcases (prepareInvoke_alike frames).outcome with
    ⟨⟨targets, rest⟩, ⟨others, otherRest⟩, taken, otherTaken, ⟨rfl, known⟩, restAlike⟩ |
    ⟨trap, another, taken, otherTaken, traps⟩
  · simp only [stepBody, taken, otherTaken]
    exact .running (List.prefix_refl names) stores (.targets known (carries.here restAlike))
  · simp only [stepBody, taken, otherTaken]
    exact .raised stores traps (carries.here frames)

/-- Every instruction but a return, which depends on what is below. -/
theorem stepBody_follows (stores : weave.Stores thread names plain woven)
    (carries : weave.Carries names given below other)
    (frames : frame.Alike weave.module names given counterpart)
    (current : frame.instruction? = some instruction) (stays : instruction ≠ .ret)
    (attempted : attempt limit thread before top =
      stepBody limit thread woven counterpart other instruction)
    (shallow : Shallow limit thread before top) :
    weave.Follows limit thread names (stepBody limit thread plain frame below instruction) before
      top := by
  have executes := execute_alike stores frames current
  rcases frames.operandFits current with ⟨_, operand⟩
  cases instruction with
  | ret => exact absurd rfl stays
  | loadField reference =>
      refine accessField_follows stores carries frames operand ?_ attempted shallow
      intro plainAfter wovenAfter place storesAfter placed
      apply (storesAfter.read placed).bind
      intro value another values
      exact storesAfter.onward (frames.yield values)
  | storeField reference =>
      rcases frames.pop.outcome with
        ⟨⟨value, rest⟩, ⟨another, otherRest⟩, taken, otherTaken, values, restAlike⟩ |
        ⟨trap, another, taken, otherTaken, traps⟩
      · simp only [stepBody, taken]
        simp only [stepBody, otherTaken] at attempted
        refine accessField_follows stores carries frames operand ?_ attempted shallow
        intro plainAfter wovenAfter place storesAfter placed
        apply (storesAfter.write placed values).bind
        intro plainLast wovenLast storesLast
        exact .ok (.still storesLast restAlike.advance)
      · simp only [stepBody, taken]
        simp only [stepBody, otherTaken] at attempted
        apply Follows.here
        rw [attempted]
        exact .raised stores traps (carries.here frames)
  | loadFieldAddress reference =>
      refine accessField_follows stores carries frames operand ?_ attempted shallow
      intro plainAfter wovenAfter place storesAfter placed
      exact storesAfter.onward (frames.yield (.address placed))
  | call reference =>
      apply Follows.here
      rw [attempted]
      exact call_follows stores carries frames operand
  | invokeCallback =>
      apply Follows.here
      rw [attempted]
      exact invoke_follows stores carries frames
  | _ =>
      apply Follows.here
      rw [attempted]
      exact proceedWith_attempts stores carries frames executes

theorem return_follows (stores : weave.Stores thread names plain woven)
    (stacked : weave.Stacked names below other)
    (frames : frame.Alike weave.module names given counterpart) :
    weave.Attempts thread names (stepBody limit thread plain frame below .ret)
      (stepBody limit thread woven counterpart other .ret) := by
  rcases (resultOf_alike frames).outcome with
    ⟨result, another, returns, otherReturns, results⟩ | ⟨trap, another, fails, otherFails, traps⟩
  · simp only [stepBody, returns, otherReturns]
    exact stacked.complete stores results
  · simp only [stepBody, fails, otherFails]
    exact .raised stores traps (.body frames stacked)

/-- When a copy returns, its wrapper goes on with the registrations and returns as well. -/
theorem return_wrapped_follows (stores : weave.Stores thread names plain woven)
    (stacked : weave.Stacked names below other) (wraps : weave.Wraps wrapper)
    (frames : frame.Alike weave.module names false counterpart)
    (attempted : attempt limit thread before top =
      stepBody limit thread woven counterpart (.body wrapper :: other) .ret)
    (shallow : Shallow limit thread before top) :
    weave.Follows limit thread names (stepBody limit thread plain frame below .ret) before
      top := by
  have silent : resultOf frame = .ok none := by
    simp [resultOf, frames.returns_eq]
  have otherSilent : resultOf counterpart = .ok none := by
    simp [resultOf, frames.other_returns_eq]
  -- below the copy the wrapper resumes, with nothing but the registrations ahead
  simp only [stepBody, otherSilent, wraps.complete stores.prepared] at attempted
  simp only [stepBody, silent]
  rcases wraps.advance with ⟨arity, load, unload, ahead⟩
  have toWrapper := Leads.of_running attempted
  rcases stores.prepared.wrapper_leads ahead (shallow.leads toWrapper) with
    ⟨after, last, toLast, completes, aside⟩
  refine .later (toWrapper.trans toLast) (.here ?_)
  rw [completes]
  exact stacked.complete (stores.aside aside) .none

theorem body_follows (stores : weave.Stores thread names plain woven)
    (carries : weave.Carries names given below other)
    (frames : frame.Alike weave.module names given counterpart)
    (returns : attempt limit thread woven (.body counterpart :: other) =
        stepBody limit thread woven counterpart other .ret →
      weave.Follows limit thread names (stepBody limit thread plain frame below .ret) woven
        (.body counterpart :: other))
    (shallow : Shallow limit thread woven (.body counterpart :: other)) :
    weave.Follows limit thread names (attempt limit thread plain (.body frame :: below)) woven
      (.body counterpart :: other) := by
  have otherCurrent := frames.instruction?_eq
  rcases current : frame.instruction? with _ | instruction
  · rw [current] at otherCurrent
    apply Follows.here
    simp only [attempt, current, otherCurrent]
    exact .raised stores .leftBody (carries.here frames)
  · rw [current] at otherCurrent
    have attempted : attempt limit thread woven (.body counterpart :: other) =
        stepBody limit thread woven counterpart other instruction := by
      simp only [attempt, otherCurrent]
    have plainAttempts : attempt limit thread plain (.body frame :: below) =
        stepBody limit thread plain frame below instruction := by
      simp only [attempt, current]
    rw [plainAttempts]
    by_cases leaves : instruction = .ret
    · subst leaves
      exact returns attempted
    · exact stepBody_follows stores carries frames current leaves attempted shallow

end Bodies

/-! ### Attempts -/

theorem routine_call_follows (stores : weave.Stores thread names plain woven)
    {target : BoundRoutine} {parameters counterparts : List Value} {below other : List Activation}
    (known : target.Known weave.module)
    (values : List.Forall₂ (Value.Alike weave.module names) parameters counterparts)
    (stacked : weave.Stacked names below other)
    (shallow : Shallow limit thread woven (.call target counterparts :: other)) :
    weave.Follows limit thread names (attempt limit thread plain (.call target parameters :: below))
      woven (.call target counterparts :: other) := by
  rcases known.declared with ⟨routine, found, type, declared, arity_eq⟩
  rcases routine_kept found with ⟨body, kept⟩
  have owned : ownerOf plain target = .ok ⟨target.module, routine.owner, target.arguments⟩ := by
    simp only [ownerOf, stores.module_eq known.module_eq, ok_bind, found, pure_eq_ok]
  have otherOwned :
      ownerOf woven target = .ok ⟨target.module, routine.owner, target.arguments⟩ := by
    simp only [ownerOf, stores.prepared.module_eq known.module_eq, ok_bind, kept, pure_eq_ok]
  have placed : Instantiation.Placed weave.module
      ⟨target.module, routine.owner, target.arguments⟩ :=
    ⟨known.module_eq, type, declared, arity_eq⟩
  simp only [attempt, call_eq owned]
  refine acquire_follows stores placed (.call known values stacked) (call_eq otherOwned) shallow ?_
  intro plainAfter wovenAfter storesAfter active enters
  rw [known.module_eq] at active
  exact entering_follows storesAfter known found values stacked active enters shallow

/-- Whatever one machine attempts, the other comes to attempt. -/
theorem attempt_follows (stores : weave.Stores thread names plain woven)
    (stacked : weave.Stacked names left right) (shallow : Shallow limit thread woven right) :
    weave.Follows limit thread names (attempt limit thread plain left) woven right := by
  cases stacked with
  | nil => exact .here (.returned stores .none)
  | body frames others =>
      refine body_follows stores others.carries frames ?_ shallow
      intro attempted
      apply Follows.here
      rw [attempted]
      exact return_follows stores others frames
  | wrapped frames wraps others =>
      refine body_follows stores (others.carries_wrapped wraps) frames ?_ shallow
      intro attempted
      exact return_wrapped_follows stores others wraps frames attempted shallow
  | initializer placed others =>
      exact .here (.running (List.prefix_refl names) (stores.publish placed .done) others)
  | @targets targets below other known others =>
      apply Follows.here
      rcases targets with _ | ⟨target, rest⟩
      · exact others.complete stores .none
      · have first : target.Known weave.module := known target (List.mem_cons_self ..)
        have later : ∀ routine ∈ rest, routine.Known weave.module := by
          intro routine listed
          exact known routine (List.mem_cons_of_mem target listed)
        exact .running (List.prefix_refl names) stores (.call first .nil (.targets later others))
  | call known values others => exact routine_call_follows stores known values others shallow
  | access placed others =>
      refine acquire_follows stores placed (.access placed others) rfl shallow ?_
      intro plainAfter wovenAfter storesAfter _ goesOn
      apply Follows.here
      rw [goesOn]
      exact others.complete storesAfter .none

/-! ### Runs -/

/-- Outcomes that are alike, under the names there were and perhaps more. -/
def Ends (weave : Weave) (thread : ThreadId) (names : List Nat) {α β : Type}
    (agree : List Nat → α → β → Prop) (one : Store × Except Trap α) (other : Store × Except Trap β) :
    Prop :=
  ∃ more, names <+: more ∧ weave.Stores thread more one.1 other.1 ∧
    Mirrored weave.module more (agree more) one.2 other.2

theorem Ends.map {α β γ δ : Type} {agree : List Nat → α → β → Prop}
    {further : List Nat → γ → δ → Prop} {one : Store × Except Trap α} {other : Store × Except Trap β}
    {change : α → γ} {otherChange : β → δ} (ends : weave.Ends thread names agree one other)
    (changed : ∀ more first second, agree more first second →
      further more (change first) (otherChange second)) :
    weave.Ends thread names further (one.1, one.2.map change)
      (other.1, other.2.map otherChange) := by
  rcases one with ⟨plain, result⟩
  rcases other with ⟨woven, counterpart⟩
  rcases ends with ⟨more, grown, stores, results⟩
  refine ⟨more, grown, stores, ?_⟩
  rcases results.outcome with ⟨_, _, rfl, rfl, agrees⟩ | ⟨_, _, rfl, rfl, traps⟩
  · exact .ok (changed more _ _ agrees)
  · exact .error traps

theorem step_follows (stores : weave.Stores thread names plain woven)
    (stacked : weave.Stacked names left right) (shallow : Shallow limit thread woven right) :
    ∃ after last, Leads limit thread woven right after last ∧
      weave.Progresses thread names (step limit thread plain left)
        (step limit thread after last) := by
  rcases attempt_follows stores stacked shallow with ⟨after, last, leads, attempts⟩
  exact ⟨after, last, leads, attempts.settle⟩

/-- A run of the module that ends makes one of the woven form end alike. -/
theorem run_follows (stores : weave.Stores thread names plain woven)
    (stacked : weave.Stacked names left right) (shallow : Shallow limit thread woven right)
    {steps : Nat} {result : Store × Except Trap (Option Value)}
    (runs : run limit thread steps plain left = some result) :
    ∃ others other, run limit thread others woven right = some other ∧
      weave.Ends thread names (Results weave.module) result other := by
  induction steps generalizing names plain woven left right with
  | zero => cases runs
  | succ steps ih =>
      rcases step_follows stores stacked shallow with ⟨after, last, leads, progresses⟩
      rw [run] at runs
      rcases progresses.outcome with
        ⟨more, plainAfter, wovenAfter, next, otherNext, steps_eq, otherSteps_eq, grown,
          storesAfter, stackedAfter⟩ |
        ⟨plainAfter, wovenAfter, ended, otherEnded, steps_eq, otherSteps_eq, storesAfter, results⟩
      · simp only [steps_eq] at runs
        have onward := leads.trans (.step otherSteps_eq .refl)
        rcases ih storesAfter stackedAfter (shallow.leads onward) runs with
          ⟨others, other, otherRuns, more', grownMore, ends⟩
        rcases onward.run_first otherRuns with ⟨all, runsAll⟩
        exact ⟨all, other, runsAll, more', grown.trans grownMore, ends⟩
      · simp only [steps_eq, Option.some.injEq] at runs
        subst runs
        have lastRuns : run limit thread 1 after last = some (wovenAfter, otherEnded) := by
          simp only [run, otherSteps_eq]
        rcases leads.run_first lastRuns with ⟨all, runsAll⟩
        exact ⟨all, _, runsAll, names, List.prefix_refl names, storesAfter, results⟩

/-- A run of the woven form that ends makes one of the module end alike. The induction is on the
length of the run, as the woven form takes at least one step for each step of the module. -/
theorem run_precedes {steps : Nat} (stores : weave.Stores thread names plain woven)
    (stacked : weave.Stacked names left right) (shallow : Shallow limit thread woven right)
    {other : Store × Except Trap (Option Value)}
    (runs : run limit thread steps woven right = some other) :
    ∃ fewer result, run limit thread fewer plain left = some result ∧
      weave.Ends thread names (Results weave.module) result other := by
  induction steps using Nat.strong_induction_on generalizing names plain woven left right with
  | _ steps ih =>
      rcases step_follows stores stacked shallow with ⟨after, last, leads, progresses⟩
      rcases leads.run_last runs with ⟨remaining, below, lastRuns⟩
      -- the step that answers is still to be taken, so what follows it is a shorter run
      rcases remaining with _ | remaining
      · cases lastRuns
      · rw [run] at lastRuns
        rcases progresses.outcome with
          ⟨more, plainAfter, wovenAfter, next, otherNext, steps_eq, otherSteps_eq, grown,
            storesAfter, stackedAfter⟩ |
          ⟨plainAfter, wovenAfter, ended, otherEnded, steps_eq, otherSteps_eq, storesAfter, results⟩
        · simp only [otherSteps_eq] at lastRuns
          have onward := leads.trans (.step otherSteps_eq .refl)
          rcases ih remaining below storesAfter stackedAfter (shallow.leads onward) lastRuns with
            ⟨fewer, result, plainRuns, more', grownMore, ends⟩
          refine ⟨fewer + 1, result, ?_, more', grown.trans grownMore, ends⟩
          simp only [run, steps_eq, plainRuns]
        · simp only [otherSteps_eq, Option.some.injEq] at lastRuns
          subst lastRuns
          refine ⟨1, (plainAfter, ended), ?_, names, List.prefix_refl names, storesAfter, results⟩
          simp only [run, steps_eq]

end Weave

end Rekindle.Machine
