import Rekindle.Proofs.Transparency.Stacks

/-!
# Entering alike

When one machine enters a routine or starts an initializer, the other does the same, or enters the
wrapper and goes on to the copy. In the second machine a type may have an initializer that it does
not have in the first; it runs to its end while the first machine does nothing.
-/

namespace Rekindle.Machine

open Fallible Reload Validity

/-- What one machine attempts, the other comes to attempt after some steps of its own. -/
def Weave.Follows (weave : Weave) (limit : Nat) (thread : ThreadId) (names : List Nat)
    (attempted : Attempt) (woven : Store) (right : List Activation) : Prop :=
  ∃ after last, Leads limit thread woven right after last ∧
    weave.Attempts thread names attempted (attempt limit thread after last)

namespace Weave

variable {weave : Weave} {limit : Nat} {thread : ThreadId} {names : List Nat}
  {plain woven before after : Store} {attempted : Attempt} {target : BoundRoutine}
  {parameters counterparts : List Value} {top last left right : List Activation}
  {instantiation : Instantiation}

theorem Follows.here
    (attempts : weave.Attempts thread names attempted (attempt limit thread woven right)) :
    weave.Follows limit thread names attempted woven right :=
  ⟨woven, right, .refl, attempts⟩

theorem Follows.later (leads : Leads limit thread woven right after last)
    (follows : weave.Follows limit thread names attempted after last) :
    weave.Follows limit thread names attempted woven right := by
  rcases follows with ⟨final, finally_, further, attempts⟩
  exact ⟨final, finally_, leads.trans further, attempts⟩

/-! ### Frames at their start -/

theorem start_alike {other : BoundRoutine} {routine counterpart : RoutineDecl} {body : Body}
    (first : target.module = firstModule) (otherFirst : other.module = firstModule)
    (arguments_eq : other.arguments = target.arguments)
    (returns_eq : counterpart.returns = routine.returns)
    (fits : BodyFits weave.module target.arguments.length routine body)
    (values : List.Forall₂ (Value.Alike weave.module names) parameters counterparts) :
    (Frame.start weave.module target routine body parameters).Alike weave.module names
      routine.returns (Frame.start weave.woven other counterpart body counterparts) := by
  refine ⟨first, otherFirst, rfl, rfl, returns_eq, arguments_eq, rfl, values, ?_, .nil,
    ⟨routine, fits⟩⟩
  simp only [Frame.start, arguments_eq, Values, List.forall₂_same, List.mem_map]
  rintro value ⟨type, _, rfl⟩
  exact Value.default_alike names _

/-! ### The wrapper of an initializer -/

theorem line_entered {routine : RoutineDecl} {line : List Instruction} {others : List Activation}
    (prepared : weave.Prepared woven) (first : target.module = firstModule)
    (found : weave.woven.routine? target.routine = some routine)
    (hasBody : routine.body = some (Hook.straightLine line)) (takesNone : routine.parameters = [])
    (silent : routine.returns = false) (enough : ¬limit < depth others + 1) :
    ∃ frame, entering limit woven target [] others = .running woven (.body frame :: others) ∧
      frame.Ahead firstModule (line ++ [.ret]) ∧ frame.arguments = target.arguments := by
  have count : ([] : List Value).length = routine.parameters.length := by
    rw [takesNone]
    rfl
  have entered := enter_of_body enough (prepared.module_eq first) found hasBody count
  refine ⟨_, ?_, start_ahead first silent weave.woven line, rfl⟩
  rw [entering, entered]

/-- The copy is entered at once, since its type is in use already. -/
theorem copy_entered {wrapper : Frame} {arity : Nat} {copy : RoutineId} {declared : RoutineDecl}
    {body : Body} {rest : List Instruction} {below : List Activation}
    (prepared : weave.Prepared woven)
    (ahead : wrapper.Ahead firstModule (.call (ownRoutine arity copy) :: rest))
    (arity_eq : arity = wrapper.arguments.length) (small : arity ≤ 65535)
    (found : weave.woven.routine? copy = some declared) (takesNone : declared.parameters = [])
    (hasBody : declared.body = some body)
    (active : woven.IsActive thread ⟨firstModule, declared.owner, wrapper.arguments⟩)
    (shallow : Shallow limit thread woven (.body wrapper :: below)) :
    ∃ after, woven.Rests after ∧
      Leads limit thread woven (.body wrapper :: below)
        woven (.call ⟨firstModule, copy, wrapper.arguments⟩ [] :: .body wrapper :: below) ∧
      attempt limit thread woven
          (.call ⟨firstModule, copy, wrapper.arguments⟩ [] :: .body wrapper :: below) =
        .running after (.body (Frame.start weave.woven ⟨firstModule, copy, wrapper.arguments⟩
          declared body []) :: .body wrapper :: below) := by
  have calls := attempt_ownCall ahead (prepared.module_eq rfl) arity_eq small found takesNone limit
    thread below
  rcases active.acquire limit with ⟨after, rests, acquires⟩
  have owned : ownerOf woven ⟨firstModule, copy, wrapper.arguments⟩ =
      .ok ⟨firstModule, declared.owner, wrapper.arguments⟩ := by
    simp only [ownerOf, prepared.module_eq rfl, ok_bind, found, pure_eq_ok]
  have enters : attempt limit thread woven
      (.call ⟨firstModule, copy, wrapper.arguments⟩ [] :: .body wrapper :: below) =
      entering limit after ⟨firstModule, copy, wrapper.arguments⟩ [] (.body wrapper :: below) := by
    rw [attempt, call_eq owned, acquires]
  have enough := (shallow.leads (.of_running calls)).enough enters
  have count : ([] : List Value).length = declared.parameters.length := by
    rw [takesNone]
    rfl
  have entered : Frame.enter limit (depth (.body wrapper :: below) + 1) after
      ⟨firstModule, copy, wrapper.arguments⟩ [] = .ok (Frame.start weave.woven
        ⟨firstModule, copy, wrapper.arguments⟩ declared body []) :=
    enter_of_body enough ((prepared.rests rests).module_eq rfl) found hasBody count
  refine ⟨after, rests, .of_running calls, ?_⟩
  rw [enters, entering, entered]

theorem known_fits {routine : RoutineDecl} {body : Body} (known : target.Known weave.module)
    (found : weave.module.routine? target.routine = some routine)
    (hasBody : routine.body = some body) :
    BodyFits weave.module target.arguments.length routine body := by
  rcases known.declared with ⟨other, otherFound, type, declared, arity_eq⟩
  rw [found] at otherFound
  cases otherFound
  rcases weave.reloadable.valid.routines target.routine routine found with
    ⟨owner, ownerDeclared, _, _, bodies⟩
  rw [declared] at ownerDeclared
  cases ownerDeclared
  rw [← arity_eq]
  exact bodies body hasBody

section Routines

variable {routine : RoutineDecl} {waiting others : List Activation}

/-- Entering a routine that is the same in both forms. -/
theorem entering_plain (stores : weave.Stores thread names plain woven)
    (known : target.Known weave.module)
    (found : weave.module.routine? target.routine = some routine)
    (kept : weave.woven.routine? target.routine = some routine)
    (values : List.Forall₂ (Value.Alike weave.module names) parameters counterparts)
    (stacked : weave.Stacked names waiting others) (enough : ¬limit < depth others + 1) :
    weave.Attempts thread names (entering limit plain target parameters waiting)
      (entering limit woven target counterparts others) := by
  have deep := stacked.depth_le
  have enoughToo : ¬limit < depth waiting + 1 := by omega
  have count := values.length_eq
  have loaded := stores.module_eq known.module_eq
  have otherLoaded := stores.prepared.module_eq known.module_eq
  have name_eq := routineName_eq found
  rw [entering, entering]
  rcases hasBody : routine.body with _ | body
  · rw [enter_of_bodiless enoughToo loaded found hasBody,
      enter_of_bodiless enough otherLoaded kept hasBody, name_eq]
    exact .raised stores (.same rfl) stacked
  · by_cases fitting : parameters.length = routine.parameters.length
    · rw [enter_of_body enoughToo loaded found hasBody fitting,
        enter_of_body enough otherLoaded kept hasBody (count.symm.trans fitting)]
      have frames := start_alike known.module_eq known.module_eq rfl rfl
        (known_fits known found hasBody) values
      exact .running (List.prefix_refl names) stores (.body frames stacked)
    · have miscounted : ¬counterparts.length = routine.parameters.length := by omega
      rw [enter_of_miscounted enoughToo loaded found hasBody fitting,
        enter_of_miscounted enough otherLoaded kept hasBody miscounted, name_eq, count]
      exact .raised stores (.same rfl) stacked

/-- Entering a routine of the module comes to the same. Where it is a wrapped initializer, the
second machine goes on to the copy. -/
theorem entering_follows (stores : weave.Stores thread names plain woven)
    (known : target.Known weave.module)
    (found : weave.module.routine? target.routine = some routine)
    (values : List.Forall₂ (Value.Alike weave.module names) parameters counterparts)
    (stacked : weave.Stacked names waiting others)
    (active : woven.IsActive thread ⟨firstModule, routine.owner, target.arguments⟩)
    (enters : attempt limit thread before top = entering limit woven target counterparts others)
    (shallow : Shallow limit thread before top) :
    weave.Follows limit thread names (entering limit plain target parameters waiting) before
      top := by
  have enough := shallow.enough enters
  cases weave.reloadable.woven.routines target.routine routine found with
  | plain kept =>
      apply Follows.here
      rw [enters]
      exact entering_plain stores known found kept values stacked enough
  | @wrapped body copy load unload arity markers name listed arity_is small hasBody takesNone silent
      wrapper copied =>
      have deep := stacked.depth_le
      have enoughToo : ¬limit < depth waiting + 1 := by omega
      have loaded := stores.module_eq known.module_eq
      by_cases fitting : parameters.length = routine.parameters.length
      · have none_eq : parameters = [] := by
          rw [takesNone] at fitting
          exact List.length_eq_zero_iff.mp fitting
        subst none_eq
        cases values
        rcases line_entered stores.prepared known.module_eq wrapper rfl takesNone silent enough with
          ⟨frame, entered, ahead, arguments_eq⟩
        rw [entered] at enters
        have arity_eq : arity = frame.arguments.length := by
          rcases known.declared with ⟨other, otherFound, type, declared, arity_eq⟩
          rw [found] at otherFound
          cases otherFound
          rw [arguments_eq, ← arity_eq, arity_is type declared]
        rw [← arguments_eq] at active
        -- the type of the copy is that of the wrapper, so the copy does not start it again
        rcases copy_entered stores.prepared ahead arity_eq small copied rfl rfl active
          (shallow.leads (.of_running enters)) with ⟨after, rests, calls, copyEnters⟩
        refine .later ((Leads.of_running enters).trans calls) (.here ?_)
        rw [copyEnters, entering, enter_of_body enoughToo loaded found hasBody fitting]
        refine .running (List.prefix_refl names)
          (stores.aside (.of_rests stores.prepared rests)) (.wrapped ?_ ⟨?_⟩ stacked)
        · rw [← silent]
          exact start_alike known.module_eq rfl arguments_eq silent.symm
            (known_fits known found hasBody) .nil
        · exact ⟨arity, copy, load, unload, _, ahead, copied, rfl⟩
      · have count := values.length_eq
        have miscounted : ¬counterparts.length = routine.parameters.length := by omega
        apply Follows.here
        rw [enters, entering, entering, enter_of_miscounted enoughToo loaded found hasBody fitting,
          enter_of_miscounted enough (stores.prepared.module_eq known.module_eq) wrapper rfl
            miscounted, routineName_eq found, count]
        exact .raised stores (.same rfl) stacked

end Routines

end Weave

end Rekindle.Machine
