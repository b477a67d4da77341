import Mathlib.Data.Multiset.AddSub
import Mathlib.Logic.Relation
import Rekindle.Proofs.Indexing.Checking

/-!
# Heights in any order

A body passes the check of its stack if and only if it can be given heights: the ones where control
starts, and with every height those where control goes from there. Carrying heights along the flow
of control may look at what is pending in any order. Every order comes to an end, and all of them
end alike: with the same heights, or each with some defect.
-/

namespace Rekindle.Validity

open Fallible Indexing Relation

/-! ### Heights of a body -/

/-- Where control goes from an instruction at an offset, reached at a height, and the height
there. -/
inductive Leads (module : Module) (instruction : Instruction) (offset height : Nat) :
    Nat → Nat → Prop
  | onward (goesOn : instruction.endsBlock = false) :
      Leads module instruction offset height (offset + 1)
        (height - pops module instruction + pushes module instruction)
  | branch {target : UInt32} (branches : instruction.target? = some target)
      (remains : instruction ≠ .leave target) :
      Leads module instruction offset height target.toNat
        (height - pops module instruction + pushes module instruction)
  | leave {target : UInt32} (leaves : instruction = .leave target) :
      Leads module instruction offset height target.toNat 0

/-- Heights of some instructions of a body: of those where control can start, and of those where it
goes from an instruction with a height. -/
structure Consistent (module : Module) (routine : RoutineDecl) (body : Body)
    (assigned : Nat → Option Nat) : Prop where
  start : assigned 0 = some 0
  catching : ∀ handler ∈ body.handlers, handler.kind = .catching →
    assigned handler.handlerStart.toNat = some 1
  finalizing : ∀ handler ∈ body.handlers, handler.kind = .finalizing →
    assigned handler.handlerStart.toNat = some 0
  enough : ∀ (offset : Nat) (instruction : Instruction) (height : Nat),
    body.instructions[offset]? = some instruction → assigned offset = some height →
      pops module instruction ≤ height
  closed : ∀ (offset : Nat) (instruction : Instruction) (height : Nat),
    body.instructions[offset]? = some instruction → assigned offset = some height →
      ∀ place level, Leads module instruction offset height place level →
        place < body.size ∧ assigned place = some level
  returns : ∀ offset height : Nat, body.instructions[offset]? = some Instruction.ret →
    assigned offset = some height →
      (routine.result = .void → height = 0) ∧ (routine.result ≠ .void → height = 1)

section Heights

variable {module : Module} {context : String} {routine : RoutineDecl} {body : Body}

theorem leads_iff {instruction : Instruction} {offset height place level : Nat} :
    Leads module instruction offset height place level ↔
      (place, level) ∈ successors instruction offset
        (height - pops module instruction + pushes module instruction) := by
  constructor
  · intro leads
    cases leads with
    | onward goesOn =>
        cases instruction with
        | ret | throw | endFinally | leave _ | branch _ => cases goesOn
        | branchTrue _ | branchFalse _ | branchUnequal _ => exact List.mem_cons_self
        | _ => exact List.mem_singleton_self _
    | branch branches remains =>
        cases instruction with
        | branch _ =>
            cases branches
            exact List.mem_singleton_self _
        | branchTrue _ | branchFalse _ | branchUnequal _ =>
            cases branches
            exact List.mem_cons_of_mem _ (List.mem_singleton_self _)
        | leave _ =>
            cases branches
            exact absurd rfl remains
        | _ => cases branches
    | leave leaves =>
        rw [leaves]
        exact List.mem_singleton_self _
  · intro listed
    cases instruction with
    | ret | throw | endFinally => simp [successors] at listed
    | leave target =>
        simp only [successors, List.mem_singleton, Prod.mk.injEq] at listed
        rcases listed with ⟨rfl, rfl⟩
        exact .leave rfl
    | branch target =>
        simp only [successors, List.mem_singleton, Prod.mk.injEq] at listed
        rcases listed with ⟨rfl, rfl⟩
        exact .branch rfl nofun
    | branchTrue target | branchFalse target | branchUnequal target =>
        simp only [successors, List.mem_cons, List.not_mem_nil, or_false, Prod.mk.injEq] at listed
        rcases listed with ⟨rfl, rfl⟩ | ⟨rfl, rfl⟩
        · exact .onward rfl
        · exact .branch rfl nofun
    | _ =>
        simp only [successors, List.mem_singleton, Prod.mk.injEq] at listed
        rcases listed with ⟨rfl, rfl⟩
        exact .onward rfl

theorem mem_entries {entry : Nat × Nat} :
    entry ∈ entries body ↔ entry = (0, 0) ∨ ∃ handler ∈ body.handlers,
      (handler.handlerStart.toNat, entryHeight handler.kind) = entry := by
  simp [entries, or_comm]

theorem resultHeight_eq_iff {height : Nat} :
    height = resultHeight routine ↔
      (routine.result = .void → height = 0) ∧ (routine.result ≠ .void → height = 1) := by
  unfold resultHeight RoutineDecl.returns
  cases routine.result <;> simp [ValueType.isVoid]

/-- A handler of a body whose clauses passed their check starts inside. -/
theorem handlerStart_lt (ranges : checkHandlers context body = .ok ()) {handler : Handler}
    (listed : handler ∈ body.handlers) : handler.handlerStart.toNat < body.size := by
  have fits := checkHandlers_eq_ok_iff.mp ranges handler listed
  simp only [handlerFits, Bool.and_eq_true, decide_eq_true_eq] at fits
  have ordered : handler.handlerStart.toNat < handler.handlerEnd.toNat := fits.1.1.1.2
  have inside : handler.handlerEnd.toNat ≤ body.size := fits.1.2
  omega

/-- Heights of a body, taken inside the body only, agree with its flow of control. -/
theorem Consistent.balanced {assigned : Nat → Option Nat}
    (consistent : Consistent module routine body assigned) (some_instruction : 0 < body.size)
    (ranges : checkHandlers context body = .ok ()) :
    Balanced module routine body fun offset =>
      if offset < body.size then assigned offset else none where
  entered entry listed := by
    rcases mem_entries.mp listed with rfl | ⟨handler, isHandler, rfl⟩
    · rw [if_pos some_instruction]
      exact consistent.start
    · rw [if_pos (handlerStart_lt ranges isHandler)]
      rcases kind : handler.kind with _ | _
      · exact consistent.catching handler isHandler kind
      · exact consistent.finalizing handler isHandler kind
  coherent offset height known := by
    dsimp only at known
    split at known
    · rename_i inside
      have found : body.instructions[offset]? = some body.instructions[offset] :=
        Array.getElem?_eq_getElem inside
      refine ⟨_, found, consistent.enough _ _ _ found known, fun isRet => ?_, fun next listed => ?_⟩
      · rw [isRet] at found
        exact resultHeight_eq_iff.mpr (consistent.returns _ _ found known)
      · rcases consistent.closed _ _ _ found known _ _ (leads_iff.mpr listed) with ⟨within, level⟩
        rw [if_pos within]
        exact level
    · cases known

theorem Balanced.lt_size {heights : Nat → Option Nat} (balanced : Balanced module routine body heights)
    {offset height : Nat} (known : heights offset = some height) : offset < body.size := by
  rcases balanced.coherent offset height known with ⟨_, found, _⟩
  exact (Array.getElem?_eq_some_iff.mp found).1

theorem Balanced.consistent {heights : Nat → Option Nat}
    (balanced : Balanced module routine body heights) : Consistent module routine body heights := by
  have agrees : ∀ (offset : Nat) (instruction : Instruction) (height : Nat),
      body.instructions[offset]? = some instruction → heights offset = some height →
        Agrees module (resultHeight routine) heights instruction offset height := by
    intro offset instruction height found known
    rcases balanced.coherent offset height known with ⟨other, same, agrees⟩
    rw [found] at same
    cases same
    exact agrees
  refine ⟨balanced.entered (0, 0) (mem_entries.mpr (.inl rfl)), ?_, ?_, ?_, ?_, ?_⟩
  · intro handler listed kind
    have entered := balanced.entered _ (mem_entries.mpr (.inr ⟨handler, listed, rfl⟩))
    rwa [kind] at entered
  · intro handler listed kind
    have entered := balanced.entered _ (mem_entries.mpr (.inr ⟨handler, listed, rfl⟩))
    rwa [kind] at entered
  · intro offset instruction height found known
    exact (agrees offset instruction height found known).enough
  · intro offset instruction height found known place level leads
    have level := (agrees offset instruction height found known).follows _ (leads_iff.mp leads)
    exact ⟨balanced.lt_size level, level⟩
  · intro offset height found known
    exact resultHeight_eq_iff.mp ((agrees offset _ height found known).returns rfl)

end Heights

/-! ### One turn -/

/-- The heights that are known, and what is pending: offsets that control comes to, each at a
height. -/
structure Worklist where
  heights : Array (Option Nat)
  pending : Multiset (Nat × Nat)

def Worklist.initial (body : Body) : Worklist where
  heights := Array.replicate body.size none
  pending := entries body

/-- Some pending offset is looked at. -/
inductive Turn (module : Module) (context : String) (returnHeight : Nat)
    (instructions : Array Instruction) : Worklist → Worklist → Prop
  | look {heights raised : Array (Option Nat)} {offset height : Nat}
      {others : Multiset (Nat × Nat)} {next : List (Nat × Nat)}
      (arrives : arrive module context returnHeight instructions heights offset height =
        .ok (raised, next)) :
      Turn module context returnHeight instructions ⟨heights, (offset, height) ::ₘ others⟩
        ⟨raised, next + others⟩

/-- Nothing is pending any more, or something pending is found to be wrong. -/
inductive Ends (module : Module) (context : String) (returnHeight : Nat)
    (instructions : Array Instruction) : Worklist → Run Defect (Array (Option Nat)) → Prop
  | finished {heights : Array (Option Nat)} :
      Ends module context returnHeight instructions ⟨heights, 0⟩ (.ok heights)
  | halted {heights : Array (Option Nat)} {offset height : Nat} {others : Multiset (Nat × Nat)}
      {halt : Halt Defect}
      (halts : arrive module context returnHeight instructions heights offset height =
        .error halt) :
      Ends module context returnHeight instructions ⟨heights, (offset, height) ::ₘ others⟩
        (.error halt)

section Turns

variable {module : Module} {context : String} {returnHeight : Nat}
  {instructions : Array Instruction}

theorem turn_or_ends (work : Worklist) :
    (∃ after, Turn module context returnHeight instructions work after) ∨
      ∃ outcome, Ends module context returnHeight instructions work outcome := by
  rcases work with ⟨heights, pending⟩
  rcases pending.empty_or_exists_mem with rfl | ⟨⟨offset, height⟩, listed⟩
  · exact .inr ⟨_, .finished⟩
  · rcases Multiset.exists_cons_of_mem listed with ⟨others, rfl⟩
    rcases arrives : arrive module context returnHeight instructions heights offset height with
      halt | ⟨raised, next⟩
    · exact .inr ⟨_, .halted arrives⟩
    · exact .inl ⟨_, .look arrives⟩

/-- A turn gives an instruction its height or leaves less pending. -/
theorem wellFounded_turn :
    WellFounded fun after before =>
      Turn module context returnHeight instructions before after := by
  refine Subrelation.wf ?_ (InvImage.wf
    (fun work : Worklist => (work.heights.countP Option.isNone, Multiset.card work.pending))
    (Prod.lex Nat.lt_wfRel Nat.lt_wfRel).wf)
  rintro after before ⟨arrives⟩
  rcases arrive_decreases arrives with ⟨rfl, rfl⟩ | fewer
  · refine Prod.Lex.right _ ?_
    rw [Multiset.coe_nil, Multiset.zero_add, Multiset.card_cons]
    exact Nat.lt_succ_self _
  · exact Prod.Lex.left _ _ fewer

/-- What a turn can do: pass over an offset that has its height already, or give an instruction its
height, with which what follows it becomes pending. -/
theorem Turn.cases {before after : Worklist}
    (callees : CalleesDeclared module instructions)
    (turn : Turn module context returnHeight instructions before after) :
    ∃ offset height others, before.pending = (offset, height) ::ₘ others ∧
      (before.heights[offset]? = some (some height) ∧ after = ⟨before.heights, others⟩ ∨
      before.heights[offset]? = some none ∧ ∃ instruction,
        instructions[offset]? = some instruction ∧ pops module instruction ≤ height ∧
        (instruction = .ret → height = returnHeight) ∧
        after = ⟨before.heights.setIfInBounds offset (some height),
          (successors instruction offset
            (height - pops module instruction + pushes module instruction) :) + others⟩) := by
  rcases turn with ⟨arrives⟩
  rename_i heights raised offset height others next
  refine ⟨offset, height, others, rfl, ?_⟩
  by_cases inside : offset < instructions.size
  · rcases state : heights[offset]? with _ | _ | known
    · rw [arrive, if_pos inside, entry, state] at arrives
      cases arrives
    · have found : instructions[offset]? = some instructions[offset] :=
        Array.getElem?_eq_getElem inside
      rw [arrive_new inside state, flowFrom_within callees found] at arrives
      rcases flows : Validity.flowFrom module context returnHeight instructions[offset] offset height
        with _ | follow
      · rw [flows] at arrives
        cases arrives
      · rw [flows] at arrives
        cases arrives
        rcases flowFrom_eq_ok_iff.mp flows with ⟨enough, returns, rfl⟩
        exact .inr ⟨rfl, _, found, enough, returns, rfl⟩
    · rw [arrive_known inside state] at arrives
      split at arrives
      · rename_i same
        cases arrives
        exact .inl ⟨by rw [same], by simp⟩
      · cases arrives
  · rw [arrive, if_neg inside] at arrives
    cases arrives

/-- Everything that is known or pending is so under some heights. -/
structure Worklist.Below (instructions : Array Instruction) (wanted : Nat → Option Nat)
    (work : Worklist) : Prop where
  sizes : work.heights.size = instructions.size
  known : ∀ offset height, heightAt work.heights offset = some height → wanted offset = some height
  due : ∀ entry ∈ work.pending, wanted entry.1 = some entry.2

/-- What control can start from is known or pending, and every height that is known agrees with the
flow of control as far as nothing is pending. -/
structure Worklist.Explained (module : Module) (returnHeight : Nat)
    (instructions : Array Instruction) (starts : List (Nat × Nat)) (work : Worklist) : Prop where
  sizes : work.heights.size = instructions.size
  entered : ∀ entry ∈ starts, heightAt work.heights entry.1 = some entry.2 ∨ entry ∈ work.pending
  known : ∀ offset height, heightAt work.heights offset = some height → ∃ instruction,
    instructions[offset]? = some instruction ∧ pops module instruction ≤ height ∧
      (instruction = .ret → height = returnHeight) ∧
      ∀ next ∈ successors instruction offset
        (height - pops module instruction + pushes module instruction),
        heightAt work.heights next.1 = some next.2 ∨ next ∈ work.pending

theorem Worklist.Below.turn {wanted : Nat → Option Nat} {before after : Worklist}
    (callees : CalleesDeclared module instructions)
    (coherent : Coherent module returnHeight instructions wanted)
    (below : before.Below instructions wanted)
    (turn : Turn module context returnHeight instructions before after) :
    after.Below instructions wanted := by
  rcases turn.cases callees with ⟨offset, height, others, pending, ⟨known, rfl⟩ |
    ⟨unset, instruction, found, enough, returns, rfl⟩⟩
  · refine ⟨below.sizes, below.known, fun entry listed => below.due entry ?_⟩
    rw [pending]
    exact Multiset.mem_cons_of_mem listed
  · have here : wanted offset = some height :=
      below.due (offset, height) (pending ▸ Multiset.mem_cons_self _ _)
    rcases coherent offset height here with ⟨other, same, agrees⟩
    rw [found] at same
    cases same
    refine ⟨Array.size_setIfInBounds.trans below.sizes, fun place level known => ?_,
      fun entry listed => ?_⟩
    · rw [heightAt_setIfInBounds unset] at known
      split at known
      · rename_i same
        cases known
        rw [same]
        exact here
      · exact below.known place level known
    · rcases Multiset.mem_add.mp listed with fresh | later
      · exact agrees.follows entry (Multiset.mem_coe.mp fresh)
      · exact below.due entry (pending ▸ Multiset.mem_cons_of_mem later)

theorem Worklist.Explained.turn {starts : List (Nat × Nat)} {before after : Worklist}
    (callees : CalleesDeclared module instructions)
    (explained : before.Explained module returnHeight instructions starts)
    (turn : Turn module context returnHeight instructions before after) :
    after.Explained module returnHeight instructions starts := by
  rcases turn.cases callees with ⟨offset, height, others, pending, ⟨known, rfl⟩ |
    ⟨unset, instruction, found, enough, returns, rfl⟩⟩
  · -- What is taken off the pending entries is known.
    have still : ∀ entry : Nat × Nat,
        heightAt before.heights entry.1 = some entry.2 ∨ entry ∈ before.pending →
          heightAt before.heights entry.1 = some entry.2 ∨ entry ∈ others := by
      intro entry either
      rw [pending, Multiset.mem_cons] at either
      rcases either with holds | rfl | later
      · exact .inl holds
      · exact .inl (by simp [heightAt, known])
      · exact .inr later
    refine ⟨explained.sizes, fun entry listed => still entry (explained.entered entry listed),
      fun place level holds => ?_⟩
    rcases explained.known place level holds with ⟨instruction, found, enough, returns, follows⟩
    exact ⟨instruction, found, enough, returns, fun next listed => still next (follows next listed)⟩
  · have updated := heightAt_setIfInBounds unset height
    -- What was known remains so, and what is taken off is known now.
    have still : ∀ entry : Nat × Nat,
        heightAt before.heights entry.1 = some entry.2 ∨ entry ∈ before.pending →
          heightAt (before.heights.setIfInBounds offset (some height)) entry.1 = some entry.2 ∨
            entry ∈ (successors instruction offset
              (height - pops module instruction + pushes module instruction) :) + others := by
      intro entry either
      rw [pending, Multiset.mem_cons] at either
      rcases either with holds | rfl | later
      · refine .inl ?_
        rw [updated, if_neg]
        · exact holds
        · intro same
          simp [heightAt, same, unset] at holds
      · exact .inl (by rw [updated, if_pos rfl])
      · exact .inr (Multiset.mem_add.mpr (.inr later))
    refine ⟨Array.size_setIfInBounds.trans explained.sizes,
      fun entry listed => still entry (explained.entered entry listed), fun place level holds => ?_⟩
    rw [updated] at holds
    split at holds
    · rename_i same
      cases holds
      subst same
      exact ⟨instruction, found, enough, returns, fun next listed =>
        .inr (Multiset.mem_add.mpr (.inl (Multiset.mem_coe.mpr listed)))⟩
    · rcases explained.known place level holds with ⟨other, foundOther, enough, returns, follows⟩
      exact ⟨other, foundOther, enough, returns, fun next listed => still next (follows next listed)⟩

/-- Where heights are wanted that agree with the flow of control, nothing pending is wrong. -/
theorem Worklist.Below.not_halted {wanted : Nat → Option Nat} {work : Worklist}
    {outcome : Run Defect (Array (Option Nat))} (callees : CalleesDeclared module instructions)
    (coherent : Coherent module returnHeight instructions wanted)
    (below : work.Below instructions wanted)
    (ends : Ends module context returnHeight instructions work outcome) :
    work.pending = 0 ∧ outcome = .ok work.heights := by
  cases ends with
  | finished => exact ⟨rfl, rfl⟩
  | halted halts =>
      rename_i heights offset height others halt
      have here : wanted offset = some height :=
        below.due (offset, height) (Multiset.mem_cons_self _ _)
      rcases coherent offset height here with ⟨instruction, found, agrees⟩
      have inside := (Array.getElem?_eq_some_iff.mp found).1
      rcases state : heights[offset]? with _ | _ | known
      · have outside := Array.getElem?_eq_none_iff.mp state
        have sizes : heights.size = instructions.size := below.sizes
        omega
      · rw [arrive_new inside state, flowFrom_within callees found,
          flowFrom_eq_ok_iff.mpr ⟨agrees.enough, agrees.returns, rfl⟩] at halts
        cases halts
      · have same : known = height := by
          have before := below.known offset known (by simp [heightAt, state])
          exact Option.some.inj (before.symm.trans here)
        rw [arrive_known inside state, if_pos same] at halts
        cases halts

/-- The order in which the check itself takes its turns. -/
theorem turns_of_flow {heights result : Array (Option Nat)} {pending : List (Nat × Nat)}
    (flows : Indexing.flow module context returnHeight instructions heights pending = .ok result) :
    ReflTransGen (Turn module context returnHeight instructions) ⟨heights, pending⟩ ⟨result, 0⟩ := by
  induction heights, pending using
      Indexing.flow.induct module context returnHeight instructions with
  | case1 heights =>
      rw [Indexing.flow] at flows
      cases flows
      exact .refl
  | case2 heights offset height others halt arrives =>
      rw [flow_cons, arrives] at flows
      cases flows
  | case3 heights offset height others raised next arrives _ ih =>
      rw [flow_cons, arrives, ok_bind] at flows
      refine .head ?_ (ih flows)
      rw [← Multiset.cons_coe, ← Multiset.coe_add]
      exact .look arrives

end Turns

/-! ### Every order -/

section Orders

variable {module : Module} {context : String} {arity : Nat} {routine : RoutineDecl} {body : Body}

theorem explained_initial (returnHeight : Nat) : (Worklist.initial body).Explained module
    returnHeight body.instructions (entries body) where
  sizes := Array.size_replicate
  entered _ listed := .inr (Multiset.mem_coe.mpr listed)
  known offset height holds := by
    simp only [Worklist.initial, heightAt, Array.getElem?_replicate] at holds
    split at holds <;> cases holds

theorem Balanced.below_initial {wanted : Nat → Option Nat}
    (balanced : Balanced module routine body wanted) :
    (Worklist.initial body).Below body.instructions wanted where
  sizes := Array.size_replicate
  known offset height holds := by
    simp only [Worklist.initial, heightAt, Array.getElem?_replicate] at holds
    split at holds <;> cases holds
  due entry listed := balanced.entered entry (Multiset.mem_coe.mp listed)

theorem explained_of_turns {final : Worklist} (callees : CalleesDeclared module body.instructions)
    (turns : ReflTransGen (Turn module context (resultHeight routine) body.instructions)
      (Worklist.initial body) final) :
    final.Explained module (resultHeight routine) body.instructions (entries body) := by
  induction turns with
  | refl => exact explained_initial _
  | tail _ turn ih => exact ih.turn callees turn

/-- Heights that an order of turns has found are right. -/
theorem balanced_of_turns {heights : Array (Option Nat)}
    (callees : CalleesDeclared module body.instructions)
    (turns : ReflTransGen (Turn module context (resultHeight routine) body.instructions)
      (Worklist.initial body) ⟨heights, 0⟩) :
    heights.size = body.size ∧ Balanced module routine body (heightAt heights) := by
  have explained := explained_of_turns callees turns
  refine ⟨explained.sizes, fun entry listed => ?_, fun offset height holds => ?_⟩
  · exact (explained.entered entry listed).resolve_right (Multiset.notMem_zero entry)
  · rcases explained.known offset height holds with ⟨instruction, found, enough, returns, follows⟩
    exact ⟨instruction, found, enough, returns, fun next listed =>
      (follows next listed).resolve_right (Multiset.notMem_zero next)⟩

/-- Where a body has heights, an order of turns that ends has found some of them. -/
theorem Balanced.finds {wanted : Nat → Option Nat} {final : Worklist}
    {outcome : Run Defect (Array (Option Nat))} (balanced : Balanced module routine body wanted)
    (callees : CalleesDeclared module body.instructions)
    (turns : ReflTransGen (Turn module context (resultHeight routine) body.instructions)
      (Worklist.initial body) final)
    (ends : Ends module context (resultHeight routine) body.instructions final outcome) :
    final.pending = 0 ∧ outcome = .ok final.heights ∧
      ∀ offset height, heightAt final.heights offset = some height →
        wanted offset = some height := by
  have below : final.Below body.instructions wanted := by
    clear ends
    induction turns with
    | refl => exact balanced.below_initial
    | tail _ turn ih => exact ih.turn callees balanced.coherent turn
  rcases below.not_halted callees balanced.coherent ends with ⟨finished, found⟩
  exact ⟨finished, found, below.known⟩

/-- The check takes its turns in one of the orders. -/
theorem turns_of_stackHeights {heights : Array (Option Nat)}
    (callees : CalleesDeclared module body.instructions)
    (found : Validity.stackHeights module context routine body = .ok heights) :
    ReflTransGen (Turn module context (resultHeight routine) body.instructions)
      (Worklist.initial body) ⟨heights, 0⟩ := by
  apply turns_of_flow
  have sizes : (Array.replicate body.size (none : Option Nat)).size = body.instructions.size :=
    Array.size_replicate
  rw [flow_within callees sizes]
  exact congrArg within found

theorem eq_of_heightAt {first second : Array (Option Nat)} (sizes : first.size = second.size)
    (same : ∀ offset height, heightAt first offset = some height ↔
      heightAt second offset = some height) : first = second := by
  refine Array.ext sizes fun offset inFirst inSecond => ?_
  refine Option.ext fun height => ?_
  simpa [heightAt, inFirst, inSecond] using same offset height

/-- Every order of turns ends with the heights that the check finds, or with some defect if it finds
one. -/
theorem outcome_eq_ok_iff {final : Worklist} {outcome : Run Defect (Array (Option Nat))}
    (callees : CalleesDeclared module body.instructions)
    (turns : ReflTransGen (Turn module context (resultHeight routine) body.instructions)
      (Worklist.initial body) final)
    (ends : Ends module context (resultHeight routine) body.instructions final outcome)
    (heights : Array (Option Nat)) :
    outcome = .ok heights ↔ Validity.stackHeights module context routine body = .ok heights := by
  have agrees : ∀ reached, outcome = .ok reached →
      Validity.stackHeights module context routine body = .ok reached := by
    rintro reached rfl
    cases ends
    rcases balanced_of_turns callees turns with ⟨size, balanced⟩
    rcases stackHeights_succeeds balanced context with ⟨found, checks⟩
    have others := turns_of_stackHeights callees checks
    rcases balanced_of_turns callees others with ⟨foundSize, _⟩
    have below := (balanced.finds callees others .finished).2.2
    have above := ((stackHeights_ok checks).finds callees turns .finished).2.2
    rw [checks, eq_of_heightAt (foundSize.trans size.symm) fun offset height =>
      ⟨below offset height, above offset height⟩]
  refine ⟨agrees heights, fun checks => ?_⟩
  rcases (stackHeights_ok checks).finds callees turns ends with ⟨_, reached, _⟩
  have same := agrees _ reached
  rw [checks] at same
  rw [reached, Except.ok.inj same]

/-- After the operands of its instructions and its clauses have passed their checks, the check of
the stack of a body indexes nothing outside, and it passes if and only if the body has an
instruction and can be given heights. Taken in any other order, its turns come to an end, and they
end with the heights that it finds, or with some defect if it finds one. -/
theorem stack_check_exact
    (operands : body.instructions.toList.zipIdx.forM (fun (instruction, offset) => checkInstruction
      (surroundings module context arity routine body) instruction offset) = .ok ())
    (ranges : checkHandlers context body = .ok ()) :
    Indexing.stackHeights module context routine body =
        within (Validity.stackHeights module context routine body) ∧
      ((∃ heights, Validity.stackHeights module context routine body = .ok heights) ↔
        0 < body.size ∧ ∃ assigned, Consistent module routine body assigned) ∧
      (WellFounded fun after before =>
        Turn module context (resultHeight routine) body.instructions before after) ∧
      (∀ work, (∃ after, Turn module context (resultHeight routine) body.instructions work after) ∨
        ∃ outcome, Ends module context (resultHeight routine) body.instructions work outcome) ∧
      ∀ final outcome,
        ReflTransGen (Turn module context (resultHeight routine) body.instructions)
          (Worklist.initial body) final →
        Ends module context (resultHeight routine) body.instructions final outcome →
        ∀ heights, outcome = .ok heights ↔
          Validity.stackHeights module context routine body = .ok heights := by
  have callees := calleesDeclared_of_checks operands
  refine ⟨stackHeights_within callees, ⟨?_, ?_⟩, wellFounded_turn, turn_or_ends, ?_⟩
  · rintro ⟨heights, found⟩
    have balanced := stackHeights_ok found
    have start := balanced.entered (0, 0) (mem_entries.mpr (.inl rfl))
    exact ⟨balanced.lt_size start, _, balanced.consistent⟩
  · rintro ⟨some_instruction, assigned, consistent⟩
    exact stackHeights_succeeds (consistent.balanced some_instruction ranges) context
  · intro final outcome turns ends
    exact outcome_eq_ok_iff callees turns ends

end Orders

/-! ### A body that tries again -/

namespace Retry

/-- A body that throws while its argument holds, catches that and tries again; what follows the
throw is never reached. -/
def body : Body where
  zeroesLocals := false
  locals := []
  instructions := #[.loadArgument 0, .branchFalse 5, .loadInt32 7, .throw, .nop, .leave 8, .pop,
    .leave 0, .ret]
  handlers := [{ kind := .catching, tryStart := 0, tryEnd := 6, handlerStart := 6, handlerEnd := 8 }]

def routine : RoutineDecl :=
  { RoutineDecl.static "main" .void body with parameters := [⟨"holds", .bool⟩] }

def module : Module where
  name := "app"
  identity := Vector.replicate 16 0
  references := []
  types := #[{ TypeDecl.named "Program" with routines := [⟨0⟩] }]
  fields := #[]
  routines := #[routine]
  topLevel := [⟨0⟩]

def heights : Array (Option Nat) :=
  #[some 0, some 1, some 0, some 1, none, some 0, some 1, some 0, some 0]

theorem operands : body.instructions.toList.zipIdx.forM (fun (instruction, offset) =>
    checkInstruction (surroundings module "Program::main" 0 routine body) instruction offset) =
      .ok () := rfl

theorem ranges : checkHandlers "Program::main" body = .ok () := rfl

theorem found : Validity.stackHeights module "Program::main" routine body = .ok heights := by cbv

end Retry

/-- In whichever order the offsets of the example are looked at, the handler starts with the thrown
value, and the loop comes back with nothing. -/
theorem stack_check_exact_retry :
    Retry.body.instructions.toList.zipIdx.forM (fun (instruction, offset) => checkInstruction
        (surroundings Retry.module "Program::main" 0 Retry.routine Retry.body) instruction offset) =
      .ok () ∧
      checkHandlers "Program::main" Retry.body = .ok () ∧
      (∃ assigned, Consistent Retry.module Retry.routine Retry.body assigned) ∧
      ∀ final outcome,
        ReflTransGen (Turn Retry.module "Program::main" 0 Retry.body.instructions)
          (Worklist.initial Retry.body) final →
        Ends Retry.module "Program::main" 0 Retry.body.instructions final outcome →
        outcome = .ok Retry.heights := by
  have exact_here := @stack_check_exact Retry.module "Program::main" 0 Retry.routine Retry.body
    Retry.operands Retry.ranges
  refine ⟨Retry.operands, Retry.ranges, ?_, fun final outcome turns ends => ?_⟩
  · exact (exact_here.2.1.mp ⟨_, Retry.found⟩).2
  · exact (exact_here.2.2.2.2 final outcome turns ends _).mpr Retry.found

end Rekindle.Validity
