import Rekindle.Proofs.Fallible
import Rekindle.Validity.StackHeights

/-!
# Heights that agree with the flow of control

The heights that are carried along the flow of control agree with every instruction that has one: it
finds enough operands, a return finds exactly the result, and wherever control goes next has the
height that is left behind. Where any such heights exist, carrying them along succeeds.
-/

namespace Rekindle.Validity

variable {module : Module} {context : String} {returnHeight : Nat}
  {instructions : Array Instruction}

/-- What the height of an instruction demands of the heights of others. -/
structure Agrees (module : Module) (returnHeight : Nat) (heights : Nat → Option Nat)
    (instruction : Instruction) (offset height : Nat) : Prop where
  enough : pops module instruction ≤ height
  returns : instruction = .ret → height = returnHeight
  follows : ∀ next ∈ successors instruction offset
    (height - pops module instruction + pushes module instruction), heights next.1 = some next.2

/-- Heights of which every one belongs to an instruction and agrees with where control goes from
there. -/
def Coherent (module : Module) (returnHeight : Nat) (instructions : Array Instruction)
    (heights : Nat → Option Nat) : Prop :=
  ∀ offset height, heights offset = some height → ∃ instruction,
    instructions[offset]? = some instruction ∧
      Agrees module returnHeight heights instruction offset height

def heightAt (heights : Array (Option Nat)) (offset : Nat) : Option Nat := heights[offset]?.join

theorem flowFrom_eq_ok_iff {instruction : Instruction} {offset height : Nat}
    {next : List (Nat × Nat)} :
    flowFrom module context returnHeight instruction offset height = .ok next ↔
      pops module instruction ≤ height ∧ (instruction = .ret → height = returnHeight) ∧
        next = successors instruction offset
          (height - pops module instruction + pushes module instruction) := by
  unfold flowFrom
  split
  · rename_i short
    simp [Nat.not_le_of_lt short]
  · rename_i enough
    split
    · rename_i wrong
      simp [wrong]
    · rename_i right
      have returns : instruction = .ret → height = returnHeight := fun isRet =>
        Decidable.byContradiction fun wrong => right ⟨isRet, wrong⟩
      have sufficient := Nat.not_lt.mp enough
      constructor
      · intro same
        cases same
        exact ⟨sufficient, returns, rfl⟩
      · rintro ⟨_, _, rfl⟩
        rfl

theorem heightAt_setIfInBounds {heights : Array (Option Nat)} {offset : Nat}
    (unset : heights[offset]? = some none) (height other : Nat) :
    heightAt (heights.setIfInBounds offset (some height)) other =
      if other = offset then some height else heightAt heights other := by
  have inside : offset < heights.size := (Array.getElem?_eq_some_iff.mp unset).1
  by_cases same : other = offset
  · subst same
    simp [heightAt, inside]
  · have apart : offset ≠ other := fun equal => same equal.symm
    simp [heightAt, same, Array.getElem?_setIfInBounds_ne apart]

/-- What carrying heights along the flow of control arrives at: every height that was there or
pending, and beyond those only heights that agree with the flow. -/
theorem flow_ok {heights result : Array (Option Nat)} {pending : List (Nat × Nat)}
    (flows : flow module context returnHeight instructions heights pending = .ok result) :
    (∀ offset height, heightAt heights offset = some height →
        heightAt result offset = some height) ∧
      (∀ entry ∈ pending, heightAt result entry.1 = some entry.2) ∧
      (∀ offset height, heightAt result offset = some height →
        heightAt heights offset = some height ∨ ∃ instruction,
          instructions[offset]? = some instruction ∧
            Agrees module returnHeight (heightAt result) instruction offset height) := by
  fun_induction flow module context returnHeight instructions heights pending with
  | case1 heights =>
      cases flows
      exact ⟨fun _ _ known => known, by simp, fun _ _ known => .inl known⟩
  | case2 heights offset height others missing => cases flows
  | case3 heights offset others known state ih =>
      rcases ih flows with ⟨kept, reached, explained⟩
      refine ⟨kept, fun entry listed => ?_, explained⟩
      rcases List.mem_cons.mp listed with rfl | later
      · exact kept _ _ (by simp [heightAt, state])
      · exact reached entry later
  | case4 heights offset height others known state differs => cases flows
  | case5 heights offset height others state missing => cases flows
  | case6 heights offset height others state instruction found defect refused => cases flows
  | case7 heights offset height others state instruction found next accepted lower ih =>
      rcases ih flows with ⟨kept, reached, explained⟩
      have updated := heightAt_setIfInBounds state height
      have now : heightAt result offset = some height := kept _ _ (by rw [updated, if_pos rfl])
      refine ⟨fun other known earlier => ?_, fun entry listed => ?_, fun other known later => ?_⟩
      · refine kept other known ?_
        rw [updated, if_neg]
        · exact earlier
        · rintro rfl
          simp [heightAt, state] at earlier
      · rcases List.mem_cons.mp listed with rfl | later
        · exact now
        · exact reached entry (List.mem_append_right _ later)
      · rcases explained other known later with before | agrees
        · rw [updated] at before
          split at before
          · rename_i same
            cases before
            subst same
            rcases flowFrom_eq_ok_iff.mp accepted with ⟨enough, returns, rfl⟩
            exact .inr ⟨instruction, found, enough, returns, fun entry listed =>
              reached entry (List.mem_append_left _ listed)⟩
          · exact .inl before
        · exact .inr agrees

/-- Where coherent heights exist, carrying some of them along the flow of control succeeds. -/
theorem flow_succeeds {heights : Array (Option Nat)} {pending : List (Nat × Nat)}
    {wanted : Nat → Option Nat} (coherent : Coherent module returnHeight instructions wanted)
    (sizes : heights.size = instructions.size)
    (known : ∀ offset height, heightAt heights offset = some height → wanted offset = some height)
    (due : ∀ entry ∈ pending, wanted entry.1 = some entry.2) :
    ∃ result, flow module context returnHeight instructions heights pending = .ok result := by
  fun_induction flow module context returnHeight instructions heights pending with
  | case1 heights => exact ⟨heights, rfl⟩
  | case2 heights offset height others missing =>
      rcases coherent _ _ (due _ List.mem_cons_self) with ⟨instruction, found, _⟩
      have inside := (Array.getElem?_eq_some_iff.mp found).1
      have outside := Array.getElem?_eq_none_iff.mp missing
      omega
  | case3 heights offset others height state ih =>
      exact ih sizes known fun entry listed => due entry (List.mem_cons_of_mem _ listed)
  | case4 heights offset height others other state differs =>
      have before := known offset other (by simp [heightAt, state])
      have now : wanted offset = some height := due _ List.mem_cons_self
      exact absurd (Option.some.inj (before.symm.trans now)) differs
  | case5 heights offset height others state missing =>
      rcases coherent _ _ (due _ List.mem_cons_self) with ⟨instruction, found, _⟩
      rw [missing] at found
      cases found
  | case6 heights offset height others state instruction found defect refused =>
      rcases coherent _ _ (due _ List.mem_cons_self) with ⟨other, same, agrees⟩
      rw [found] at same
      cases same
      have accepted : flowFrom module context returnHeight instruction offset height = .ok _ :=
        flowFrom_eq_ok_iff.mpr ⟨agrees.enough, agrees.returns, rfl⟩
      rw [refused] at accepted
      cases accepted
  | case7 heights offset height others state instruction found next accepted lower ih =>
      rcases coherent _ _ (due _ List.mem_cons_self) with ⟨other, same, agrees⟩
      rw [found] at same
      cases same
      refine ih (by simpa using sizes) (fun place level holds => ?_) fun entry listed => ?_
      · rw [heightAt_setIfInBounds state] at holds
        split at holds
        · rename_i same
          cases holds
          subst same
          exact due _ List.mem_cons_self
        · exact known place level holds
      · rcases List.mem_append.mp listed with fresh | later
        · rw [(flowFrom_eq_ok_iff.mp accepted).2.2] at fresh
          exact agrees.follows entry fresh
        · exact due entry (List.mem_cons_of_mem _ later)

def resultHeight (routine : RoutineDecl) : Nat := if routine.returns then 1 else 0

/-- Heights that are right for a body: those where control can start, and from there on those that
agree with the flow of control. -/
structure Balanced (module : Module) (routine : RoutineDecl) (body : Body)
    (heights : Nat → Option Nat) : Prop where
  entered : ∀ entry ∈ entries body, heights entry.1 = some entry.2
  coherent : Coherent module (resultHeight routine) body.instructions heights

/-- The heights that are found are right. -/
theorem stackHeights_ok {routine : RoutineDecl} {body : Body} {heights : Array (Option Nat)}
    (found : stackHeights module context routine body = .ok heights) :
    Balanced module routine body (heightAt heights) := by
  rcases flow_ok found with ⟨_, entered, explained⟩
  refine ⟨entered, fun offset height known => ?_⟩
  rcases explained offset height known with initial | agrees
  · simp only [heightAt, Array.getElem?_replicate] at initial
    split at initial <;> cases initial
  · exact agrees

/-- Heights are found where there are right ones. -/
theorem stackHeights_succeeds {routine : RoutineDecl} {body : Body} {wanted : Nat → Option Nat}
    (balanced : Balanced module routine body wanted) (context : String) :
    ∃ heights, stackHeights module context routine body = .ok heights := by
  refine flow_succeeds balanced.coherent (by simp [Body.size]) (fun offset height known => ?_)
    balanced.entered
  simp only [heightAt, Array.getElem?_replicate] at known
  split at known <;> cases known

end Rekindle.Validity
